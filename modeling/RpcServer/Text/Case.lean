/-! Comparison without regard to the case of ASCII letters. -/

namespace RpcServer.Text

def lowered (s : String) : List Char := s.toList.map Char.toLower

def sameIgnoringCase (a b : String) : Bool := lowered a = lowered b

theorem sameIgnoringCase_refl (a : String) : sameIgnoringCase a a = true := by
  simp [sameIgnoringCase]

end RpcServer.Text
