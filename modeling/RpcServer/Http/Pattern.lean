/-! Path patterns: text with parameters in braces. A parameter takes the rest of a segment, a
catch-all the rest of the path; a brace written twice is text. -/

namespace RpcServer.Http

inductive Piece where
  | literal (c : Char)
  | parameter
  | rest
deriving DecidableEq

abbrev Pattern := List Piece

namespace Pattern

inductive Refusal where
  | conflict
  | parameterSegment
  | parameter
  | catchAll
deriving DecidableEq

def unescape : List Char → List (Char × Bool)
  | [] => []
  | c :: cs =>
    if (c = '\x7b' ∨ c = '\x7d') ∧ cs.head? = some c then
      match cs with
      | [] => [(c, false)]
      | d :: rest => (d, true) :: unescape rest
    else (c, false) :: unescape cs

def closeName? : List (Char × Bool) → Option (List (Char × Bool))
  | [] => none
  | (c, escaped) :: s =>
    if c = '\x7d' ∧ !escaped then some s
    else if c = '*' ∨ c = '/' then none
    else closeName? s

theorem length_of_closeName? {s t : List (Char × Bool)} (h : closeName? s = some t) :
    t.length < s.length := by
  induction s with
  | nil => simp [closeName?] at h
  | cons c s ih =>
    unfold closeName? at h
    split at h
    · cases h
      simp
    · split at h
      · simp at h
      · exact Nat.lt_succ_of_lt (ih h)

def parameter? : List (Char × Bool) → Option (Piece × List (Char × Bool))
  | [] => none
  | (c, _) :: s =>
    if c = '\x7d' then none
    else if c = '*' then
      if s.head? = some ('\x7d', false) then none else (closeName? s).map fun t => (.rest, t)
    else (closeName? s).map fun t => (.parameter, t)

theorem length_of_parameter? {s t : List (Char × Bool)} {p : Piece}
    (h : parameter? s = some (p, t)) : t.length < s.length := by
  cases s with
  | nil => simp [parameter?] at h
  | cons c s =>
    have key : ∀ q, (closeName? s).map (fun t => (q, t)) = some (p, t) → t.length < s.length := by
      intro q hq
      obtain ⟨u, hu, he⟩ := Option.map_eq_some_iff.mp hq
      cases he
      exact length_of_closeName? hu
    obtain ⟨c, escaped⟩ := c
    by_cases hc : c = '\x7d'
    · simp [parameter?, hc] at h
    · by_cases hs : c = '*'
      · by_cases hh : s.head? = some ('\x7d', false)
        · simp [parameter?, hs, hh] at h
        · exact Nat.lt_succ_of_lt (key .rest (by simpa [parameter?, hs, hh] using h))
      · exact Nat.lt_succ_of_lt (key .parameter (by simpa [parameter?, hc, hs] using h))

def endsSegment : List (Char × Bool) → Bool
  | [] => true
  | (c, _) :: _ => c = '/'

def pieces? (s : List (Char × Bool)) : Except Refusal Pattern :=
  match s with
  | [] => .ok []
  | (c, escaped) :: s =>
    if c = '\x7d' ∧ !escaped then .error .parameter
    else if c = '\x7b' ∧ !escaped then
      match _h : parameter? s with
      | none => .error .parameter
      | some (p, rest) =>
        if endsSegment rest then (pieces? rest).map (p :: ·) else .error .parameterSegment
    else (pieces? s).map (.literal c :: ·)
termination_by s.length
decreasing_by
  · have := length_of_parameter? _h
    simp
    omega
  · simp

/-- Whether two patterns could not be told apart: they are equal, or after the same pieces one has
a catch-all where the other has a parameter or a catch-all. -/
def conflicts : Pattern → Pattern → Bool
  | [], [] => true
  | .rest :: _, .rest :: _ => true
  | .rest :: _, .parameter :: _ => true
  | .parameter :: _, .rest :: _ => true
  | p :: ps, q :: qs => p = q && conflicts ps qs
  | _, _ => false

def restIsLast : Pattern → Bool
  | [] => true
  | .rest :: ps => ps.isEmpty
  | _ :: ps => restIsLast ps

def accept (known : List Pattern) (path : String) : Except Refusal Pattern :=
  match pieces? (unescape path.toList) with
  | .error e => .error e
  | .ok p =>
    if known.any (conflicts p) then .error .conflict
    else if restIsLast p then .ok p
    else .error .catchAll

theorem conflicts_comm (p q : Pattern) : conflicts p q = conflicts q p := by
  induction p generalizing q with
  | nil => cases q <;> simp [conflicts]
  | cons a p ih =>
    cases q with
    | nil => cases a <;> simp [conflicts]
    | cons b q => cases a <;> cases b <;> simp [conflicts, ih, eq_comm]

end Pattern

abbrev Routes (α : Type) := List (Pattern × α)

namespace Routes

variable {α : Type}

def after (p : Piece) (rs : Routes α) : Routes α :=
  rs.filterMap fun r =>
    match r.1 with
    | [] => none
    | q :: ps => if q = p then some (ps, r.2) else none

def ended (rs : Routes α) : Option α := (rs.find? fun r => r.1.isEmpty).map (·.2)

/-- What a path leads to. At each place text comes before parameters; a parameter at the end of
the path is not empty. -/
def find? (rs : Routes α) (path : List Char) : Option α :=
  match path with
  | [] => ended rs
  | c :: cs =>
    match find? (after (.literal c) rs) cs with
    | some a => some a
    | none =>
      match ended (after .rest rs) with
      | some a => some a
      | none =>
        match _h : (c :: cs).dropWhile (· ≠ '/') with
        | [] => ended (after .parameter rs)
        | d :: rest => find? (after (.literal d) (after .parameter rs)) rest
termination_by path.length
decreasing_by
  · simp
  · have := (List.dropWhile_sublist (l := c :: cs) (p := (· ≠ '/'))).length_le
    rw [_h] at this
    simp at this ⊢
    omega

end Routes

end RpcServer.Http
