import EnumTables.Declaration.Parser
import EnumTables.Proofs.Declaration.Grammar
import EnumTables.Proofs.Lists

/-!
# Where the rows of a section begin

A section is read as a list of tokens, without regard to braces and to the nesting of parentheses.
Main statement: the keys of a declaration are the texts of tokens of its section, namely of those at
which an entry begins, or of all constants' names if the section is read name by name.  So a name
outside the body, or in parentheses, gives a row like any other.
-/

namespace EnumTables

/-! ## Positions -/

/-- Whether a token is the character `c` by itself. -/
def Token.IsMark (c : Char) (t : Token) : Prop := t.kind = .other ∧ t.text = String.singleton c

instance Token.instDecidableIsMark (c : Char) (t : Token) : Decidable (t.IsMark c) :=
  inferInstanceAs (Decidable (_ ∧ _))

/-- What stands behind `before` lies in the body: behind the first opening brace, and not behind a
closing one that matches it. -/
def InBody (before : List Token) : Prop :=
  ∃ outside brace inside, before = outside ++ brace :: inside ∧ brace.IsMark '\x7b' ∧
    (∀ t ∈ outside, ¬ t.IsMark '\x7b') ∧
    ∀ k ≤ inside.length, (inside.take k).countP (Token.IsMark '\x7d' ·) ≤
      (inside.take k).countP (Token.IsMark '\x7b' ·)

/-- What stands behind `before` lies in the body and in no parentheses, as the names of constants
do. -/
structure InConstantPosition (before : List Token) : Prop where
  inBody : InBody before
  noParens : before.countP (·.kind = .openParen) = before.countP (·.kind = .closeParen)

/-- At the token with the number `i` a row of the section begins. -/
def BeginsRow (ts : List Token) (i : Nat) : Prop :=
  if hasArguments ts = true then ∃ used v, IsEntry used v ∧ used <+: ts.drop i
  else ∃ t ∈ ts[i]?, t.isConstant = true

/-- The rows of a section begin at the given places, one at each. -/
structure RowsAt (ts : List Token) (places : List Nat) (rows : List Values) : Prop where
  increasing : places.Pairwise (· < ·)
  begins : ∀ i, i ∈ places ↔ BeginsRow ts i
  keys : rows.map List.head? = places.map fun i ↦ ts[i]?.map Token.text
  /-- A section that is read name by name counts its names. -/
  ordinals : hasArguments ts = false →
    rows.map List.tail = (List.range rows.length).map fun i ↦ [toString i]
  /-- In a section that is read entry by entry no row begins inside the entry of another. -/
  apart : hasArguments ts = true → ∀ i ∈ places, ∀ j ∈ places, i < j →
    ∀ used v, IsEntry used v → used <+: ts.drop i → i + used.length ≤ j

/-! ## Reading at every place -/

section Places

variable {α β γ : Type}

end Places

variable {ts used : List Token} {v : Values} {i j : Nat}

/-- The entries of a section are those that begin at its places. -/
theorem entries_eq_filterMap_range (ts : List Token) : entries ts =
    (List.range ts.length).filterMap fun i ↦ (entryOf? (ts.drop i)).map Prod.fst := by
  induction ts with
  | nil => simp
  | cons t ts ih => rw [entries_cons, filterMap_range_drop fun us ↦ (entryOf? us).map Prod.fst, ih]

/-- The names of a section are those that stand at its places. -/
theorem filter_isConstant_eq_filterMap_range (ts : List Token) : ts.filter Token.isConstant =
    (List.range ts.length).filterMap fun i ↦ (ts.drop i).head?.filter Token.isConstant := by
  induction ts with
  | nil => rfl
  | cons t ts ih =>
    rw [filterMap_range_drop fun us ↦ us.head?.filter Token.isConstant, ← ih, List.filter_cons]
    cases constant : t.isConstant <;> simp [Option.filter, constant]

/-! ## Rows and their places -/

/-- An entry begins with a constant's name, which is its key. -/
theorem IsEntry.exists_head? (h : IsEntry used v) :
    ∃ t, used.head? = some t ∧ t.isConstant = true ∧ v.head? = some t.text := by
  obtain ⟨constant, opens, arguments⟩ := h
  exact ⟨_, rfl, constant, rfl⟩

theorem getElem?_of_prefix_drop {t : Token} (begins : used <+: ts.drop i)
    (h : used.head? = some t) : ts[i]? = some t := by
  obtain ⟨rest, split⟩ := begins
  rw [← List.head?_drop, ← split, List.head?_append, h]
  rfl

theorem isSome_entryOf?_iff :
    (entryOf? ts).isSome = true ↔ ∃ used v, IsEntry used v ∧ used <+: ts := by
  constructor
  · intro h
    obtain ⟨⟨v, rest⟩, found⟩ := Option.isSome_iff_exists.mp h
    obtain ⟨used, isEntry, split⟩ := entryOf?_eq_some_iff.mp found
    exact ⟨used, v, isEntry, rest, split⟩
  · rintro ⟨used, v, isEntry, rest, split⟩
    rw [entryOf?_eq_some_iff.mpr ⟨used, isEntry, split⟩]
    rfl

/-- No entry begins inside another one. -/
theorem IsEntry.add_length_le {used' : List Token} {v' : Values} (h : IsEntry used v)
    (first : used <+: ts.drop i) (h' : IsEntry used' v') (second : used' <+: ts.drop j)
    (behind : i < j) : i + used.length ≤ j := by
  obtain ⟨t, head, constant, -⟩ := h'.exists_head?
  have token := getElem?_of_prefix_drop second head
  obtain ⟨rest, split⟩ := first
  refine Nat.le_of_not_lt fun inside ↦ ?_
  -- the name of the second entry would be a token of the first, behind its name
  have place : used[j - i]? = some t := by
    have longer : (used ++ rest)[j - i]? = used[j - i]? := List.getElem?_append_left (by omega)
    rw [← longer, split, List.getElem?_drop, Nat.add_sub_cancel' (Nat.le_of_lt behind), token]
  have member : t ∈ used.tail := by
    refine List.mem_of_getElem? (i := j - i - 1) ?_
    rw [List.getElem?_tail, Nat.sub_add_cancel (Nat.sub_pos_of_lt behind), place]
  rw [h.isConstant_eq_false t member] at constant
  cases constant

theorem rowsAt_entries (h : hasArguments ts = true) :
    RowsAt ts ((List.range ts.length).filter fun i ↦ (entryOf? (ts.drop i)).isSome)
      (entries ts) where
  increasing := List.pairwise_lt_range.filter _
  begins i := by
    rw [List.mem_filter, List.mem_range, BeginsRow, if_pos h, ← isSome_entryOf?_iff,
      and_iff_right_iff_imp]
    intro begins
    refine Nat.lt_of_not_le fun behind ↦ ?_
    rw [List.drop_of_length_le behind] at begins
    cases begins
  keys := by
    rw [entries_eq_filterMap_range, map_filterMap_eq_map_filter]
    · simp
    · intro i v found
      obtain ⟨⟨v, rest⟩, entry, rfl⟩ := Option.map_eq_some_iff.mp found
      obtain ⟨used, isEntry, split⟩ := entryOf?_eq_some_iff.mp entry
      obtain ⟨t, head, -, key⟩ := isEntry.exists_head?
      rw [key, getElem?_of_prefix_drop ⟨rest, split⟩ head]
      rfl
  ordinals bare := by
    rw [h] at bare
    cases bare
  apart _ i hi j hj behind used v isEntry first := by
    obtain ⟨used', v', isEntry', second⟩ := isSome_entryOf?_iff.mp (List.mem_filter.mp hj).2
    exact isEntry.add_length_le first isEntry' second behind

theorem map_head?_bareEntries (ts : List Token) :
    (bareEntries ts).map List.head? = (ts.filter Token.isConstant).map fun t ↦ some t.text := by
  rw [bareEntries, List.map_map]
  change List.map (some ∘ Prod.fst) _ = _
  rw [← List.map_map, List.zipIdx_map_fst, List.map_map]
  rfl

theorem map_tail_bareEntries (ts : List Token) : (bareEntries ts).map List.tail =
    (List.range (bareEntries ts).length).map fun i ↦ [toString i] := by
  rw [bareEntries, List.map_map, List.length_map, List.length_zipIdx, List.range_eq_range',
    ← List.zipIdx_map_snd, List.map_map]
  rfl

theorem rowsAt_bareEntries (h : hasArguments ts = false) :
    RowsAt ts ((List.range ts.length).filter fun i ↦
      ((ts.drop i).head?.filter Token.isConstant).isSome) (bareEntries ts) where
  increasing := List.pairwise_lt_range.filter _
  begins i := by
    rw [List.mem_filter, List.mem_range, BeginsRow, if_neg (by simp [h]), List.head?_drop]
    cases token : ts[i]? with
    | none => simp
    | some t =>
      have inside := (List.getElem?_eq_some_iff.mp token).1
      simp [Option.isSome_filter, inside]
  keys := by
    rw [map_head?_bareEntries, filter_isConstant_eq_filterMap_range, map_filterMap_eq_map_filter]
    · simp
    · intro i t found
      rw [List.head?_drop] at found
      rw [(Option.filter_eq_some_iff.mp found).1]
      rfl
  ordinals _ := map_tail_bareEntries ts
  apart arguments := by
    rw [h] at arguments
    cases arguments

/-- Every section has its rows at certain places. -/
theorem exists_rowsAt (name : String) (ts : List Token) :
    ∃ places, RowsAt ts places (Declaration.ofTokens name ts).values := by
  unfold Declaration.ofTokens
  cases h : hasArguments ts with
  | true => exact ⟨_, rowsAt_entries h⟩
  | false => exact ⟨_, rowsAt_bareEntries h⟩

namespace Declaration

/-- The keys of a declaration are the texts of tokens of its section, one for each place at which a
row begins; hence they stand where constants should stand if and only if all those places do. -/
theorem exists_places_of_parse? {source : String} {d : Declaration} (h : parse? source = some d) :
    ∃ name rest body places, findHeader? false source.toList = some (name, rest) ∧
      valueSection? rest = some body ∧ RowsAt (tokens body) places d.values ∧
      ((∀ i ∈ places, InConstantPosition ((tokens body).take i)) ↔
        ∀ i, BeginsRow (tokens body) i → InConstantPosition ((tokens body).take i)) := by
  obtain ⟨name, rest, body, header, before, rfl⟩ := parse?_eq_some_iff.mp h
  obtain ⟨places, rows⟩ := exists_rowsAt (String.ofList name) (tokens body)
  refine ⟨name, rest, body, places, header, before, rows, ?_⟩
  simp only [rows.begins]

/-- A section that is read name by name, with a name in the arguments of an annotation. -/
theorem exists_places_of_parse?_annotation :
    let source := "enum Level \x7b @Since(V2) LOW, HIGH; \x7d"
    let d : Declaration := ⟨"Level", [["V2", "0"], ["LOW", "1"], ["HIGH", "2"]]⟩
    parse? source = some d ∧
      ∃ name rest body places, findHeader? false source.toList = some (name, rest) ∧
        valueSection? rest = some body ∧ RowsAt (tokens body) places d.values ∧
        ((∀ i ∈ places, InConstantPosition ((tokens body).take i)) ↔
          ∀ i, BeginsRow (tokens body) i → InConstantPosition ((tokens body).take i)) := by
  intro source d
  have read : parse? source = some d := by decide +kernel
  exact ⟨read, exists_places_of_parse? read⟩

/-- Not every key stands in the position of a constant: the one in the annotation does not. -/
theorem parse?_key_in_annotation : ¬ ∀ (source : String) (d : Declaration),
    parse? source = some d → ∃ name rest body,
      findHeader? false source.toList = some (name, rest) ∧ valueSection? rest = some body ∧
      ∀ v ∈ d.values, ∀ key ∈ v.head?, ∃ i t, (tokens body)[i]? = some t ∧ t.kind = .identifier ∧
        t.text = key ∧ InConstantPosition ((tokens body).take i) := by
  intro claim
  have read : parse? "enum Level \x7b @Since(V2) LOW, HIGH; \x7d" =
      some ⟨"Level", [["V2", "0"], ["LOW", "1"], ["HIGH", "2"]]⟩ := by decide +kernel
  have header : findHeader? false "enum Level \x7b @Since(V2) LOW, HIGH; \x7d".toList =
      some ("Level".toList, " \x7b @Since(V2) LOW, HIGH; \x7d".toList) := by decide +kernel
  have before : valueSection? " \x7b @Since(V2) LOW, HIGH; \x7d".toList =
      some " \x7b @Since(V2) LOW, HIGH".toList := by decide +kernel
  have nested : ∀ i < (tokens " \x7b @Since(V2) LOW, HIGH".toList).length,
      ∀ t ∈ (tokens " \x7b @Since(V2) LOW, HIGH".toList)[i]?, t.text = "V2" →
      ((tokens " \x7b @Since(V2) LOW, HIGH".toList).take i).countP (·.kind = .openParen) ≠
        ((tokens " \x7b @Since(V2) LOW, HIGH".toList).take i).countP (·.kind = .closeParen) := by
    decide +kernel
  obtain ⟨name, rest, body, found, ended, positions⟩ := claim _ _ read
  cases header.symm.trans found
  cases before.symm.trans ended
  obtain ⟨i, t, token, -, text, position⟩ := positions ["V2", "0"] (by decide) "V2" rfl
  exact nested i (List.getElem?_eq_some_iff.mp token).1 t token text position.noParens

end Declaration

end EnumTables
