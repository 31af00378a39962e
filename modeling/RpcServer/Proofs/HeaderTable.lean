import RpcServer.Log.Loggable
import RpcServer.Proofs.Dict

/-! Headers as logs show them, name by name: of a redacted name only the number of its values is
seen. -/

namespace RpcServer

namespace Headers

/-- The same names, each as often; the values differ at most where the name is in the list. -/
def SameBut (names : List String) (g h : Headers) : Prop :=
  ∀ n, (g.getAll n).length = (h.getAll n).length ∧
    (Log.isRedacted names n = false → g.getAll n = h.getAll n)

variable {names : List String} {g h : Headers}

lemma SameBut.refl (names : List String) (h : Headers) : SameBut names h h :=
  fun _ => ⟨rfl, fun _ => rfl⟩

lemma SameBut.text? (hs : SameBut names g h) {n : Header.Name}
    (hn : Log.isRedacted names n = false) : g.text? n = h.text? n := by
  simp only [Headers.text?, Headers.get?, (hs n).2 hn]

lemma sameBut_single {n : Header.Name} (hn : Log.isRedacted names n = true)
    (u v : Header.Value) : SameBut names ⟨[(n, u)]⟩ ⟨[(n, v)]⟩ := by
  intro m
  by_cases hm : n = m
  · subst hm
    refine ⟨by simp [getAll], ?_⟩
    intro hf
    rw [hn] at hf
    contradiction
  · simp [getAll, hm]

end Headers

namespace Log

variable (names : List String)

def behind (shown : Option (List Char)) (v : List Char) : Option (List Char) :=
  match shown with
  | some s => some (s ++ [',', ' '] ++ v)
  | none => some v

lemma get?_addHeader (d : Dict String (List Char)) (e : Header.Name × Header.Value)
    (n : Header.Name) :
    (addHeader names d e).get? n.text =
      if e.1 = n then behind (d.get? n.text) (headerValue names n e.2) else d.get? n.text := by
  obtain ⟨m, v⟩ := e
  by_cases hm : m = n
  · subst hm
    simp only [addHeader, ↓reduceIte]
    cases d.get? m.text with
    | none => exact Dict.get?_insert_self d m.text _
    | some s => exact Dict.get?_insert_self d m.text _
  · have hn : n.text ≠ m.text := fun h => hm (by cases m; cases n; exact congrArg _ h.symm)
    simp only [addHeader, hm, ↓reduceIte]
    cases d.get? m.text with
    | none => exact Dict.get?_insert_ne d hn _
    | some s => exact Dict.get?_insert_ne d hn _

lemma get?_foldl_addHeader (es : List (Header.Name × Header.Value))
    (d : Dict String (List Char)) (n : Header.Name) :
    (es.foldl (addHeader names) d).get? n.text =
      (((es.filter fun e => e.1 = n).map (·.2)).map (headerValue names n)).foldl behind
        (d.get? n.text) := by
  induction es generalizing d with
  | nil => rfl
  | cons e es ih =>
    rw [List.foldl_cons, ih, get?_addHeader, List.filter_cons]
    by_cases he : e.1 = n
    · simp [he]
    · simp [he]

lemma get?_headerTable (h : Headers) (n : Header.Name) :
    (headerTable names h).get? n.text =
      ((h.getAll n).map (headerValue names n)).foldl behind none :=
  get?_foldl_addHeader names h.entries .empty n

variable {names} {g h : Headers}

lemma shown_sameBut (hs : Headers.SameBut names g h) (n : Header.Name) :
    (g.getAll n).map (headerValue names n) = (h.getAll n).map (headerValue names n) := by
  obtain ⟨hl, hv⟩ := hs n
  cases hn : isRedacted names n with
  | false => rw [hv hn]
  | true =>
    have hc : headerValue names n = fun _ => redacted := by
      funext v
      simp only [headerValue, hn, ↓reduceIte]
    rw [hc, List.map_const', List.map_const', hl]

lemma headerTable_sameBut (hs : Headers.SameBut names g h) :
    headerTable names g = headerTable names h := by
  apply Dict.ext_get?
  intro s
  have ht := get?_headerTable names g ⟨s⟩
  rw [shown_sameBut hs, ← get?_headerTable] at ht
  exact ht

theorem headers_sameBut (hs : Headers.SameBut names g h) : headers names g = headers names h := by
  simp only [headers, headerTable_sameBut hs]

end Log

end RpcServer
