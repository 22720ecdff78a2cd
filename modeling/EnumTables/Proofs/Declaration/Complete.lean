import EnumTables.Proofs.Declaration.Position
import EnumTables.Proofs.Lists

/-!
# All entries of a section

The scan of a section goes on behind every entry and one token behind every place at which none
begins.  Main statement: it finds an entry for each place of the section at which the grammar has
one, each of them once and in order, and a section with an entry is always read entry by entry.
-/

namespace EnumTables

variable {ts used : List Token} {xs : List String} {v : Values} {i : Nat}

/-- At the token with the number `i` an entry begins, of which the texts `v` are kept. -/
def EntryAt (ts : List Token) (i : Nat) (v : Values) : Prop :=
  ∃ used, IsEntry used v ∧ used <+: ts.drop i

/-! ## What is found at a place -/

/-- An entry begins at a place if and only if it is read there. -/
theorem map_fst_entryOf?_eq_some_iff :
    (entryOf? (ts.drop i)).map Prod.fst = some v ↔ EntryAt ts i v := by
  constructor
  · intro h
    obtain ⟨⟨_, rest⟩, read, rfl⟩ := Option.map_eq_some_iff.mp h
    obtain ⟨used, isEntry, split⟩ := entryOf?_eq_some_iff.mp read
    exact ⟨used, isEntry, rest, split⟩
  · rintro ⟨used, isEntry, rest, split⟩
    rw [entryOf?_eq_some_iff.mpr ⟨used, isEntry, split⟩]
    rfl

/-- An entry begins at a token. -/
theorem EntryAt.lt_length (h : EntryAt ts i v) : i < ts.length := by
  refine Nat.lt_of_not_le fun behind ↦ ?_
  obtain ⟨used, ⟨constant, opens, arguments⟩, begins⟩ := h
  rw [List.drop_of_length_le behind, List.prefix_nil] at begins
  cases begins

/-! ## Sections with entries -/

/-- An argument list is closed. -/
theorem IsArguments.exists_closeParen (h : IsArguments used xs) :
    ∃ t ∈ used, t.kind = .closeParen := by
  induction h with
  | @last t close literal closes => exact ⟨close, by simp, closes⟩
  | more literal separates further ih =>
    obtain ⟨t, member, closes⟩ := ih
    exact ⟨t, List.mem_cons_of_mem _ (List.mem_cons_of_mem _ member), closes⟩

/-- Where an entry begins, a name stands before an argument list that is closed. -/
theorem IsEntry.hasArguments_append (h : IsEntry used v) (rest : List Token) :
    hasArguments (used ++ rest) = true := by
  obtain ⟨constant, opens, arguments⟩ := h
  obtain ⟨t, member, closes⟩ := arguments.exists_closeParen
  simp only [List.cons_append, hasArguments, opensArguments, constant, opens, decide_true,
    Bool.and_self, Bool.true_and, List.drop_one, List.tail_cons, Bool.or_eq_true, List.any_eq_true]
  exact .inl ⟨t, List.mem_append_left _ member, by simp [closes]⟩

/-- A section in which an entry is found has a name before an argument list that is closed. -/
theorem hasArguments_of_entries_ne_nil (h : entries ts ≠ []) : hasArguments ts = true := by
  induction ts with
  | nil => exact absurd entries_nil h
  | cons t ts ih =>
    cases read : entryOf? (t :: ts) with
    | none =>
      rw [entries_cons_of_entry_eq_none read] at h
      rw [hasArguments, ih h, Bool.or_true]
    | some found =>
      obtain ⟨v, rest⟩ := found
      obtain ⟨used, isEntry, split⟩ := entryOf?_eq_some_iff.mp read
      rw [← split]
      exact isEntry.hasArguments_append rest

/-- The entries of a section against the places at which they begin. -/
theorem exists_places_of_entries (ts : List Token) :
    ∃ places : List Nat, places.Pairwise (· < ·) ∧ (∀ i, i ∈ places ↔ ∃ v, EntryAt ts i v) ∧
      List.Forall₂ (EntryAt ts) places (entries ts) := by
  refine ⟨(List.range ts.length).filter fun i ↦ ((entryOf? (ts.drop i)).map Prod.fst).isSome,
    List.pairwise_lt_range.filter _, fun i ↦ ?_, ?_⟩
  · rw [List.mem_filter, List.mem_range, Option.isSome_iff_exists]
    simp only [map_fst_entryOf?_eq_some_iff]
    exact and_iff_right_of_imp fun ⟨_, entry⟩ ↦ entry.lt_length
  · have found := forall₂_filter_filterMap (fun i ↦ (entryOf? (ts.drop i)).map Prod.fst)
      (List.range ts.length)
    rw [← entries_eq_filterMap_range] at found
    exact found.imp fun _ _ read ↦ map_fst_entryOf?_eq_some_iff.mp read

namespace Declaration

/-- The entries of a section are those of its places, in order and each of them once; and a section
in which an entry begins is never read name by name. -/
theorem entries_complete (ts : List Token) :
    (∃ places : List Nat, places.Pairwise (· < ·) ∧ (∀ i, i ∈ places ↔ ∃ v, EntryAt ts i v) ∧
      List.Forall₂ (EntryAt ts) places (entries ts)) ∧
    (entries ts ≠ [] → hasArguments ts = true) ∧
    ∀ source name rest body, findHeader? false source.toList = some (name, rest) →
      valueSection? rest = some body → tokens body = ts → (∃ i v, EntryAt ts i v) →
      parse? source = some ⟨String.ofList name, entries ts⟩ := by
  obtain ⟨places, increasing, begins, found⟩ := exists_places_of_entries ts
  refine ⟨⟨places, increasing, begins, found⟩, hasArguments_of_entries_ne_nil, ?_⟩
  rintro source name rest body header before rfl ⟨i, entry⟩
  have place := (begins i).mpr entry
  have some : entries (tokens body) ≠ [] := by
    intro none
    rw [none, List.forall₂_nil_right_iff] at found
    rw [found] at place
    nomatch place
  refine parse?_eq_some_iff.mpr ⟨name, rest, body, header, before, ?_⟩
  rw [ofTokens, if_pos (hasArguments_of_entries_ne_nil some)]

/-- An entry in the arguments of a name that begins none, and a bare name behind it. -/
theorem entries_complete_nested :
    let source := "enum E \x7b A(B(1, true, 'x', 2), C), D; \x7d"
    let ts := tokens " \x7b A(B(1, true, 'x', 2), C), D".toList
    EntryAt ts 3 ["B", "1", "true", "x"] ∧ hasArguments ts = true ∧
      parse? source = some ⟨"E", [["B", "1", "true", "x"]]⟩ := by
  intro source ts
  have found : entries ts = [["B", "1", "true", "x"]] := by decide +kernel
  have entry : EntryAt ts 3 ["B", "1", "true", "x"] :=
    map_fst_entryOf?_eq_some_iff.mp (by decide +kernel)
  have header : findHeader? false source.toList =
      some (['E'], " \x7b A(B(1, true, 'x', 2), C), D; \x7d".toList) := by decide +kernel
  have before : valueSection? " \x7b A(B(1, true, 'x', 2), C), D; \x7d".toList =
      some " \x7b A(B(1, true, 'x', 2), C), D".toList := by decide +kernel
  have read := (entries_complete ts).2.2 source _ _ _ header before rfl ⟨3, _, entry⟩
  rw [found] at read
  exact ⟨entry, (entries_complete ts).2.1 (by simp [found]), read⟩

end Declaration

end EnumTables
