import EnumTables.Proofs.Declaration.Scan

/-!
# The grammar of entries

What an entry is, apart from how it is looked for: a constant's name and behind it, in parentheses,
literals with commas between them.  Main statements: the reader of entries accepts exactly these,
and the entries of a section are those of all its places, since none begins inside another.
-/

namespace EnumTables

/-- The tokens of an argument list behind its opening parenthesis, and the texts of its literals. -/
inductive IsArguments : List Token → List String → Prop
  | last {t close : Token} (literal : t.isLiteral = true) (closes : close.kind = .closeParen) :
      IsArguments [t, close] [t.text]
  | more {t comma : Token} {ts : List Token} {xs : List String} (literal : t.isLiteral = true)
      (separates : comma.kind = .comma) (further : IsArguments ts xs) :
      IsArguments (t :: comma :: ts) (t.text :: xs)

/-- The tokens of an entry, and the texts that are kept of it. -/
inductive IsEntry : List Token → Values → Prop
  | intro {name paren : Token} {ts : List Token} {xs : List String}
      (constant : name.isConstant = true) (opens : paren.kind = .openParen)
      (arguments : IsArguments ts xs) :
      IsEntry (name :: paren :: ts) (name.text :: xs.take maxLiterals)

variable {t : Token} {ts us used rest : List Token} {xs : List String} {v : Values}

/-! ## What is accepted -/

theorem IsArguments.literals?_append (h : IsArguments used xs) (rest : List Token) :
    literals? (used ++ rest) = some (xs, rest) := by
  induction h with
  | last literal closes => simp [literals?, literal, closes]
  | more literal separates further ih => simp [literals?, literal, separates, ih]

/-- Exactly the argument lists are accepted, with what follows them. -/
theorem literals?_eq_some_iff :
    literals? ts = some (xs, rest) ↔ ∃ used, IsArguments used xs ∧ used ++ rest = ts := by
  constructor
  · intro h
    fun_induction literals? ts generalizing xs with
    | case1 => cases h
    | case2 t close ts literal closes =>
      cases h
      exact ⟨[t, close], .last (by simpa using literal) closes, rfl⟩
    | case3 t comma ts literal _ separates ih =>
      obtain ⟨⟨ys, rest'⟩, further, same⟩ := Option.map_eq_some_iff.mp h
      cases same
      obtain ⟨used, arguments, rfl⟩ := ih further
      exact ⟨t :: comma :: used, .more (by simpa using literal) separates arguments, rfl⟩
    | case4 => cases h
    | case5 => cases h
  · rintro ⟨used, arguments, rfl⟩
    exact arguments.literals?_append rest

/-- Exactly the entries are accepted, with what follows them. -/
theorem entryOf?_eq_some_iff :
    entryOf? ts = some (v, rest) ↔ ∃ used, IsEntry used v ∧ used ++ rest = ts := by
  constructor
  · intro h
    unfold entryOf? at h
    split at h
    · split at h
      · rename_i name paren ts opens
        obtain ⟨⟨xs, rest'⟩, literals, same⟩ := Option.map_eq_some_iff.mp h
        cases same
        obtain ⟨used, arguments, rfl⟩ := literals?_eq_some_iff.mp literals
        obtain ⟨constant, opens⟩ : name.isConstant = true ∧ paren.kind = .openParen := by
          simpa [opensArguments] using opens
        exact ⟨name :: paren :: used, .intro constant opens arguments, rfl⟩
      · cases h
    · cases h
  · rintro ⟨_, ⟨constant, opens, arguments⟩, rfl⟩
    simp [entryOf?, opensArguments, constant, opens, arguments.literals?_append]

/-! ## No entry inside another -/

theorem isConstant_eq_false_of_kind (h : t.kind ≠ .identifier) : t.isConstant = false := by
  simp [Token.isConstant, h]

theorem IsArguments.isConstant_eq_false (h : IsArguments used xs) :
    ∀ t ∈ used, t.isConstant = false := by
  induction h with
  | last literal closes =>
    simp [Token.isConstant_eq_false_of_isLiteral literal, isConstant_eq_false_of_kind, closes]
  | more literal separates further ih =>
    simpa [Token.isConstant_eq_false_of_isLiteral literal, isConstant_eq_false_of_kind, separates]
      using ih

/-- The only constant's name in an entry is its own. -/
theorem IsEntry.isConstant_eq_false (h : IsEntry used v) :
    ∀ t ∈ used.tail, t.isConstant = false := by
  obtain ⟨constant, opens, arguments⟩ := h
  rw [List.tail_cons, List.forall_mem_cons]
  exact ⟨isConstant_eq_false_of_kind (by simp [opens]), arguments.isConstant_eq_false⟩

/-- Where no constant's name stands no entry begins. -/
theorem entries_append_of_not_isConstant (h : ∀ t ∈ us, t.isConstant = false) :
    entries (us ++ ts) = entries ts := by
  induction us with
  | nil => rfl
  | cons u us ih =>
    rw [List.forall_mem_cons] at h
    rw [List.cons_append, entries_cons_of_not_opensArguments
      (opensArguments_cons_of_not_isConstant h.1), ih h.2]

/-- The entries of a section are the one at its first token and those of what follows the token:
nothing is lost where the scan goes on behind an entry. -/
theorem entries_cons (t : Token) (ts : List Token) :
    entries (t :: ts) = ((entryOf? (t :: ts)).map Prod.fst).toList ++ entries ts := by
  cases h : entryOf? (t :: ts) with
  | none => exact entries_cons_of_entry_eq_none h
  | some found =>
    obtain ⟨v, rest⟩ := found
    obtain ⟨used, isEntry, split⟩ := entryOf?_eq_some_iff.mp h
    have inside := isEntry.isConstant_eq_false
    obtain ⟨constant, opens, arguments⟩ := isEntry
    obtain ⟨rfl, rfl⟩ := List.cons.inj split
    rw [entries_of_entry h, ← entries_append_of_not_isConstant inside]
    rfl

end EnumTables
