import EnumTables.Proofs.Table.WellFormed

/-!
# Inferred types

Rows are ragged, so a column has the texts of those rows that reach it.  Main statement: the types
that are inferred depend on nothing but which texts occur in which column, so not on the order of
the rows; and further rows can only add columns and turn the type of a column into that of strings.
-/

namespace EnumTables

/-! ## Texts of columns -/

/-- The text stands in this column of some row. -/
def Occurs (rows : List Values) (i : Nat) (text : String) : Prop :=
  ∃ row ∈ rows, row[i]? = some text

variable {rows rows' : List Values} {i : Nat} {text : String}

theorem mem_column_iff : text ∈ rows.filterMap (·[i]?) ↔ Occurs rows i text := List.mem_filterMap

/-- No column up to the longest row is without texts, and every other one is. -/
theorem lt_longest_iff_occurs : i < longest rows ↔ ∃ text, Occurs rows i text := by
  rw [lt_longest_iff]
  constructor
  · rintro ⟨row, member, inside⟩
    exact ⟨row[i], row, member, List.getElem?_eq_getElem inside⟩
  · rintro ⟨text, row, member, place⟩
    exact ⟨row, member, (List.getElem?_eq_some_iff.mp place).1⟩

/-! ## Types of columns -/

namespace ColumnType

variable {texts more : List String} {type : ColumnType}

/-- The types of truth values and of digits are right for fewer texts too. -/
theorem Fits.of_subset (fits : type.Fits more) (narrow : type ≠ .string) (fewer : texts ⊆ more) :
    type.Fits texts := by
  cases type with
  | boolean => exact fun s member ↦ fits s (fewer member)
  | integer => exact fun s member ↦ fits s (fewer member)
  | string => exact absurd rfl narrow

/-- More texts leave the type as it is or make it that of strings. -/
theorem ofTexts_of_subset (some : texts ≠ []) (fewer : texts ⊆ more) :
    ofTexts more = ofTexts texts ∨ ofTexts more = .string := by
  have some_more : more ≠ [] := by
    obtain ⟨s, member⟩ := List.exists_mem_of_ne_nil texts some
    exact List.ne_nil_of_mem (fewer member)
  by_cases wide : ofTexts more = .string
  · exact .inr wide
  · have fits : (ofTexts more).Fits more := (ofTexts_eq_iff some_more _).mp rfl
    exact .inl ((ofTexts_eq_iff some _).mpr (fits.of_subset wide fewer)).symm

end ColumnType

/-! ## Types of rows -/

/-- The second list of types has every column of the first one, with the same type or with that of
strings. -/
structure Widens (types types' : List ColumnType) : Prop where
  length_le : types.length ≤ types'.length
  kept_or_string : ∀ i < types.length, types'[i]? = types[i]? ∨ types'[i]? = some .string

/-- Lists of types that widen each other are the same. -/
theorem Widens.antisymm {types types' : List ColumnType} (h : Widens types types')
    (h' : Widens types' types) : types = types' := by
  have length : types.length = types'.length := Nat.le_antisymm h.length_le h'.length_le
  apply List.ext_getElem?
  intro i
  by_cases inside : i < types.length
  · rcases h.kept_or_string i inside with kept | string
    · exact kept.symm
    · rcases h'.kept_or_string i (length ▸ inside) with kept' | string'
      · exact kept'
      · exact string'.trans string.symm
  · rw [List.getElem?_eq_none (Nat.le_of_not_lt inside),
      List.getElem?_eq_none (Nat.le_of_not_lt (length ▸ inside))]

/-- Types widen where texts are added. -/
theorem widens_of_occurs (fewer : ∀ i text, Occurs rows i text → Occurs rows' i text) :
    Widens (columnTypes rows) (columnTypes rows') := by
  have reached (i : Nat) (inside : i < longest rows) : i < longest rows' := by
    obtain ⟨text, occurs⟩ := lt_longest_iff_occurs.mp inside
    exact lt_longest_iff_occurs.mpr ⟨text, fewer i text occurs⟩
  constructor
  · rw [length_columnTypes, length_columnTypes]
    refine Nat.le_of_not_lt fun shorter ↦ ?_
    exact Nat.lt_irrefl _ (reached _ shorter)
  · intro i inside
    rw [length_columnTypes] at inside
    have subset : rows.filterMap (·[i]?) ⊆ rows'.filterMap (·[i]?) := fun text member ↦
      mem_column_iff.mpr (fewer i text (mem_column_iff.mp member))
    rw [getElem?_columnTypes inside, getElem?_columnTypes (reached i inside), Option.some.injEq,
      Option.some.injEq]
    exact ColumnType.ofTexts_of_subset (column_ne_nil inside) subset

theorem columnTypes_congr (same : ∀ i text, Occurs rows i text ↔ Occurs rows' i text) :
    columnTypes rows = columnTypes rows' :=
  (widens_of_occurs fun i text ↦ (same i text).mp).antisymm
    (widens_of_occurs fun i text ↦ (same i text).mpr)

theorem occurs_perm (h : rows.Perm rows') : Occurs rows i text ↔ Occurs rows' i text :=
  exists_congr fun _ ↦ and_congr_left fun _ ↦ h.mem_iff

theorem Occurs.append (more : List Values) (h : Occurs rows i text) :
    Occurs (rows ++ more) i text := by
  obtain ⟨row, member, place⟩ := h
  exact ⟨row, List.mem_append_left more member, place⟩

/-- The inferred types are the same for rows in which the same texts occur in the same columns, and
so for the rows in any order.  Behind further rows every column has its type or that of strings. -/
theorem columnTypes_widen (rows : List Values) :
    (∀ rows' : List Values, (∀ i text, Occurs rows i text ↔ Occurs rows' i text) →
      columnTypes rows = columnTypes rows') ∧
    (∀ rows' : List Values, rows.Perm rows' → columnTypes rows = columnTypes rows') ∧
    ∀ more : List Values, Widens (columnTypes rows) (columnTypes (rows ++ more)) := by
  refine ⟨?_, ?_, ?_⟩
  · intro rows' same
    exact columnTypes_congr same
  · intro rows' h
    exact columnTypes_congr fun i text ↦ occurs_perm h
  · intro more
    exact widens_of_occurs fun i text occurs ↦ occurs.append more

/-- Ragged rows in another order, and behind them a row that widens a column and adds one. -/
theorem columnTypes_widen_ragged :
    let rows := [["A", "0", "true"], ["B"], ["C", "1"]]
    let rows' := [["C", "1"], ["A", "0", "true"], ["B"]]
    rows.Perm rows' ∧ columnTypes rows' = [.string, .integer, .boolean] ∧
      columnTypes (rows ++ [["D", "true", "false", "2"]]) =
        [.string, .string, .boolean, .integer] := by
  intro rows rows'
  have perm : rows.Perm rows' := by decide
  obtain ⟨-, ordered, -⟩ := columnTypes_widen rows
  rw [← ordered rows' perm]
  exact ⟨perm, by decide, by decide⟩

end EnumTables
