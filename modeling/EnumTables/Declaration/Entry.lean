import EnumTables.Declaration.Token

/-!
# Entries

An entry of a value section is a constant's name with an argument list, all of whose arguments are
literals.  A section in which some name has an argument list is read entry by entry, and names that
stand alone are left out; any other section is read name by name, each with its place.
-/

namespace EnumTables

/-- The texts of a constant: its key, then its fields. -/
abbrev Values := List String

/-- How many literals of an argument list are kept. -/
def maxLiterals : Nat := 3

/-- The texts of the literals before a closing parenthesis, separated by commas, and the tokens
after it. -/
def literals? : List Token → Option (List String × List Token)
  | t :: mark :: rest =>
    if !t.isLiteral then none
    else if mark.kind = .closeParen then some ([t.text], rest)
    else if mark.kind = .comma then (literals? rest).map fun (ts, rest) ↦ (t.text :: ts, rest)
    else none
  | _ => none

/-- Whether a name of a constant and an opening parenthesis stand at the head of the tokens. -/
def opensArguments : List Token → Bool
  | name :: paren :: _ => name.isConstant && paren.kind = .openParen
  | _ => false

/-- The entry at the head of the tokens, and the tokens after it. -/
def entryOf? : List Token → Option (Values × List Token)
  | name :: paren :: rest =>
    if opensArguments (name :: paren :: rest) then
      (literals? rest).map fun (ts, rest) ↦ (name.text :: ts.take maxLiterals, rest)
    else none
  | _ => none

theorem length_literals?_lt {ts rest : List Token} {xs : List String}
    (h : literals? ts = some (xs, rest)) : rest.length < ts.length := by
  fun_induction literals? ts generalizing xs with
  | case1 => simp at h
  | case2 t mark ts =>
    simp only [Option.some.injEq, Prod.mk.injEq] at h
    obtain ⟨-, rfl⟩ := h
    simp only [List.length_cons]
    omega
  | case3 t mark ts _ _ _ ih =>
    obtain ⟨⟨ys, r⟩, hy, he⟩ := Option.map_eq_some_iff.mp h
    simp only [Prod.mk.injEq] at he
    obtain ⟨rfl, rfl⟩ := he
    have := ih hy
    simp only [List.length_cons]
    omega
  | case4 => simp at h
  | case5 => simp at h

/-- The tokens after an entry are fewer than before it. -/
theorem length_entryOf?_lt {ts rest : List Token} {v : Values} (h : entryOf? ts = some (v, rest)) :
    rest.length < ts.length := by
  unfold entryOf? at h
  split at h
  · split at h
    · obtain ⟨⟨ys, r⟩, hy, he⟩ := Option.map_eq_some_iff.mp h
      simp only [Prod.mk.injEq] at he
      obtain ⟨-, rfl⟩ := he
      have := length_literals?_lt hy
      simp only [List.length_cons]
      omega
    · simp at h
  · simp at h

/-- What the scan of a section finds. -/
inductive Finding where
  /-- A constant whose arguments are all literals. -/
  | entry (values : Values)
  /-- A constant whose argument list is not. -/
  | skipped (name : String)
deriving DecidableEq, Repr

/-- Read a section entry by entry.  After an entry the scan goes on behind it, and from a token that
begins none it goes on with the next token. -/
def findings : List Token → List Finding
  | [] => []
  | t :: ts =>
    match _h : entryOf? (t :: ts) with
    | some (v, rest) => .entry v :: findings rest
    | none =>
      if opensArguments (t :: ts) then .skipped t.text :: findings ts else findings ts
termination_by ts => ts.length
decreasing_by
  · exact length_entryOf?_lt _h
  all_goals simp

/-- The values of an entry that was found. -/
def Finding.values? : Finding → Option Values
  | .entry v => some v
  | .skipped _ => none

/-- The constant that was left out. -/
def Finding.skipped? : Finding → Option String
  | .entry _ => none
  | .skipped name => some name

/-- The constants of a section that is read entry by entry. -/
def entries (ts : List Token) : List Values := (findings ts).filterMap Finding.values?

/-- The constants of a section that is read name by name, each with its place among them. -/
def bareEntries (ts : List Token) : List Values :=
  ((ts.filter Token.isConstant).map Token.text).zipIdx.map fun (name, place) ↦
    [name, toString place]

/-- Whether some constant's name is directly followed by an argument list that is closed. -/
def hasArguments : List Token → Bool
  | [] => false
  | t :: ts =>
    opensArguments (t :: ts) && (ts.drop 1).any (·.kind = .closeParen) || hasArguments ts

@[simp] theorem entries_nil : entries [] = [] := by rw [entries, findings]; rfl

end EnumTables
