import EnumTables.Declaration.Parser

/-!
# Steps of the scan

How the scan of a value section goes on from its first token: behind an entry if one begins there,
else with the next token.
-/

namespace EnumTables

variable {t : Token} {ts rest : List Token} {v : Values}

/-- Behind an entry the scan goes on with what follows it. -/
theorem findings_of_entry (h : entryOf? ts = some (v, rest)) :
    findings ts = .entry v :: findings rest := by
  rcases ts with _ | ⟨t, ts⟩
  · simp [entryOf?] at h
  · rw [findings]
    split
    · simp_all
    · simp_all

/-- Where no entry begins the scan goes on with the next token. -/
theorem findings_cons_of_entry_eq_none (h : entryOf? (t :: ts) = none) :
    findings (t :: ts) =
      (if opensArguments (t :: ts) then [.skipped t.text] else []) ++ findings ts := by
  rw [findings]
  split
  · simp_all
  · split <;> rfl

/-- An entry begins only where a name stands before an opening parenthesis. -/
theorem entry_eq_none_of_not_opensArguments (h : opensArguments ts = false) :
    entryOf? ts = none := by
  rcases ts with _ | ⟨name, _ | ⟨paren, rest⟩⟩
  · rfl
  · rfl
  · simp [entryOf?, h]

/-- The constants behind an entry are those of what follows it. -/
theorem entries_of_entry (h : entryOf? ts = some (v, rest)) : entries ts = v :: entries rest := by
  simp [entries, findings_of_entry h, Finding.values?]

/-- A token that begins no entry contributes nothing. -/
theorem entries_cons_of_entry_eq_none (h : entryOf? (t :: ts) = none) :
    entries (t :: ts) = entries ts := by
  rw [entries, findings_cons_of_entry_eq_none h]
  split
  · rw [List.singleton_append, List.filterMap_cons_none rfl, entries]
  · rw [List.nil_append, entries]

/-- A token before which no argument list can begin contributes nothing. -/
theorem entries_cons_of_not_opensArguments (h : opensArguments (t :: ts) = false) :
    entries (t :: ts) = entries ts :=
  entries_cons_of_entry_eq_none (entry_eq_none_of_not_opensArguments h)

/-- A token that is no constant's name begins no argument list. -/
theorem opensArguments_cons_of_not_isConstant (h : t.isConstant = false) :
    opensArguments (t :: ts) = false := by
  cases ts <;> simp [opensArguments, h]

end EnumTables
