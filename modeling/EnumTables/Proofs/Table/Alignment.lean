import EnumTables.Proofs.Lists
import EnumTables.Table.Basic

/-!
# Alignment of records

The columns of a table are found from all rows of a declaration together, and the texts of a row of
the table from one of them alone.  Main statement: the two agree.  The records of a table hold every
text of the declaration that a column is there for, in its place and unchanged, and a value is
missing only where the declaration has none.
-/

namespace EnumTables

/-! ## The longest row -/

/-- The length of the longest row. -/
def longest (rows : List Values) : Nat := (rows.map List.length).foldl max 0

/-- A place lies in the longest row if and only if it lies in some row. -/
theorem lt_longest_iff {i : Nat} {rows : List Values} :
    i < longest rows ↔ ∃ v ∈ rows, i < v.length := by
  rw [longest, lt_foldl_max_iff]
  constructor
  · rintro (none | ⟨_, member, inside⟩)
    · exact absurd none (Nat.not_lt_zero i)
    · obtain ⟨v, hv, rfl⟩ := List.mem_map.mp member
      exact ⟨v, hv, inside⟩
  · rintro ⟨v, hv, inside⟩
    exact .inr ⟨v.length, List.mem_map_of_mem hv, inside⟩

/-- Every column up to the longest row has texts. -/
theorem column_ne_nil {i : Nat} {rows : List Values} (inside : i < longest rows) :
    rows.filterMap (·[i]?) ≠ [] := by
  obtain ⟨v, member, reached⟩ := lt_longest_iff.mp inside
  exact List.ne_nil_of_mem
    (List.mem_filterMap.mpr ⟨v, member, List.getElem?_eq_getElem reached⟩)

theorem length_le_longest {v : Values} {rows : List Values} (h : v ∈ rows) :
    v.length ≤ longest rows := by
  refine Nat.le_of_not_lt fun longer ↦ ?_
  exact Nat.lt_irrefl _ (lt_longest_iff.mpr ⟨v, h, longer⟩)

theorem length_columnTypes (rows : List Values) : (columnTypes rows).length = longest rows := by
  rw [columnTypes, List.length_map, length_columns, longest]

/-- A column has the type that its texts call for. -/
theorem getElem?_columnTypes {j : Nat} {rows : List Values} (h : j < longest rows) :
    (columnTypes rows)[j]? = some (ColumnType.ofTexts (rows.filterMap (·[j]?))) := by
  rw [columnTypes, columns, List.getElem?_map, List.getElem?_map, ← longest, List.getElem?_range h]
  rfl

/-! ## The texts of a row -/

namespace Row

variable {columns : List String} {row : Row} {c : String}

/-- A column that gets no text keeps the one that it has. -/
theorem get?_foldl_insert_of_notMem (values : Values) (h : c ∉ columns) :
    ((columns.zip values).foldl (fun row (c, t) ↦ row.insert c t) row).get? c = row.get? c := by
  induction columns generalizing values row with
  | nil => rfl
  | cons d columns ih =>
    rw [List.mem_cons, not_or] at h
    cases values with
    | nil => rfl
    | cons t values =>
      rw [List.zip_cons_cons, List.foldl_cons, ih values h.2]
      exact get?_insert_of_ne h.1

/-- Of distinct columns without a text each gets the one in its place. -/
theorem get?_foldl_insert (values : Values) (distinct : columns.Nodup)
    (blank : ∀ c ∈ columns, row.get? c = none) {j : Nat} (h : columns[j]? = some c) :
    ((columns.zip values).foldl (fun row (c, t) ↦ row.insert c t) row).get? c = values[j]? := by
  induction columns generalizing values row j with
  | nil => nomatch h
  | cons d columns ih =>
    obtain ⟨fresh, distinct⟩ := List.nodup_cons.mp distinct
    cases values with
    | nil => exact blank c (List.mem_of_getElem? h)
    | cons t values =>
      rw [List.zip_cons_cons, List.foldl_cons]
      cases j with
      | zero =>
        cases h
        rw [get?_foldl_insert_of_notMem values fresh]
        exact get?_insert_self row c t
      | succ j =>
        apply ih values distinct ?_ h
        intro c' hc'
        have ne : c' ≠ d := fun same ↦ fresh (same ▸ hc')
        rw [get?_insert_of_ne ne]
        exact blank c' (List.mem_cons_of_mem d hc')

/-- A row has under the name of a column the value in the column's place, if there is one. -/
theorem get?_ofValues (values : Values) (distinct : columns.Nodup) {j : Nat}
    (h : columns[j]? = some c) : (ofValues columns values).get? c = values[j]? :=
  get?_foldl_insert values distinct (fun _ _ ↦ rfl) h

theorem mem_of_mem_insert {m : String × String} {text : String} (h : m ∈ row.insert c text) :
    m.1 = c ∨ m ∈ row := by
  induction row with
  | nil =>
    rw [List.mem_singleton.mp h]
    exact .inl rfl
  | cons m' rest ih =>
    rw [insert] at h
    split at h
    · rename_i same
      rcases List.mem_cons.mp h with rfl | h
      · exact .inl same
      · exact .inr (List.mem_cons_of_mem m' h)
    · rcases List.mem_cons.mp h with rfl | h
      · exact .inr List.mem_cons_self
      · rcases ih h with same | member
        · exact .inl same
        · exact .inr (List.mem_cons_of_mem m' member)

theorem mem_of_mem_foldl_insert {pairs : List (String × String)} {m : String × String}
    (h : m ∈ pairs.foldl (fun row (c, t) ↦ row.insert c t) row) :
    m.1 ∈ pairs.map Prod.fst ∨ m ∈ row := by
  induction pairs generalizing row with
  | nil => exact .inr h
  | cons pair pairs ih =>
    rw [List.map_cons, List.mem_cons, or_assoc]
    rcases ih h with later | h
    · exact .inr (.inl later)
    · rcases mem_of_mem_insert h with same | member
      · exact .inl same
      · exact .inr (.inr member)

/-- A row has nothing outside of the columns that its values reach. -/
theorem mem_take_of_mem_ofValues {values : Values} {m : String × String}
    (h : m ∈ ofValues columns values) : m.1 ∈ columns.take values.length := by
  rw [← map_fst_zip_eq_take]
  rcases mem_of_mem_foldl_insert h with named | none
  · exact named
  · nomatch none

end Row

/-! ## The records of a declaration -/

namespace Declaration

variable (d : Declaration) {columns : List String}

/-- The columns of a table are the first ones, as many as the longest row has values. -/
theorem columnNames_toTable (columns : List String) :
    (d.toTable columns).columnNames = columns.take (longest d.values) := by
  rw [← length_columnTypes, ← map_fst_zip_eq_take, EnumTable.columnNames, toTable, fieldsOf,
    List.map_map]
  rfl

/-- The records of a table are the rows of its declaration, as far as the columns reach. -/
theorem records_toTable (distinct : columns.Nodup) : (d.toTable columns).records =
    d.values.map fun v ↦ (List.range (min columns.length (longest d.values))).map (v[·]?) := by
  rw [EnumTable.records, columnNames_toTable, toTable, rowsOf, List.map_map]
  refine List.map_congr_left fun v _ ↦ List.ext_getElem? fun j ↦ ?_
  change ((columns.take (longest d.values)).map (Row.ofValues columns v).get?)[j]? = _
  rw [List.getElem?_map, List.getElem?_map]
  by_cases inside : j < min columns.length (longest d.values)
  · obtain ⟨named, reached⟩ := Nat.lt_min.mp inside
    have column : columns[j]? = some columns[j] := List.getElem?_eq_getElem named
    rw [List.getElem?_range inside, List.getElem?_take_of_lt reached, column, Option.map_some,
      Option.map_some, Row.get?_ofValues v distinct column]
  · rw [List.getElem?_eq_none_iff.mpr, List.getElem?_eq_none_iff.mpr]
    · rfl
    · rw [List.length_range]
      exact Nat.le_of_not_lt inside
    · rw [List.length_take, Nat.min_comm]
      exact Nat.le_of_not_lt inside

end Declaration

/-- A record holds the texts of a row as far as it reaches: in each of its places the text of the
row, unchanged, or nothing if the row has none there. -/
structure IsRecordOf (v : Values) (width : Nat) (r : List (Option String)) : Prop where
  length : r.length = width
  text : ∀ j < width, ∀ s, r[j]? = some (some s) ↔ v[j]? = some s
  missing : ∀ j < width, r[j]? = some none ↔ v.length ≤ j

theorem isRecordOf_map_range (v : Values) (width : Nat) :
    IsRecordOf v width ((List.range width).map (v[·]?)) where
  length := by rw [List.length_map, List.length_range]
  text j inside s := by
    rw [List.getElem?_map, List.getElem?_range inside, Option.map_some, Option.some_inj]
  missing j inside := by
    rw [List.getElem?_map, List.getElem?_range inside, Option.map_some, Option.some_inj,
      List.getElem?_eq_none_iff]

namespace Declaration

variable (d : Declaration) {columns : List String}

/-- The columns and the records of a table agree, whatever the lengths of the rows: there is one
record for each row, in the order of the rows, and each holds a value for every column, namely the
text of the row in the place of the column, missing only where the row has none. -/
theorem records_aligned (distinct : columns.Nodup) :
    let t := d.toTable columns
    let width := min columns.length (longest d.values)
    t.columnNames = columns.take width ∧ t.fields.length = width ∧
      t.records.length = d.values.length ∧
      ∀ (i : Nat) (v : Values), d.values[i]? = some v →
        ∃ r, t.records[i]? = some r ∧ IsRecordOf v width r := by
  intro t width
  have names : t.columnNames = columns.take width := by
    rw [columnNames_toTable, List.take_eq_take_min, Nat.min_comm]
  refine ⟨names, ?_, ?_, ?_⟩
  · have counted : t.columnNames.length = t.fields.length := List.length_map ..
    rw [← counted, names, List.length_take]
    exact Nat.min_eq_left (Nat.min_le_left ..)
  · rw [t.length_records, rowCount_toTable]
  · intro i v row
    have records := d.records_toTable distinct
    refine ⟨_, ?_, isRecordOf_map_range v width⟩
    rw [records, List.getElem?_map, row]
    rfl

/-- In rows of several lengths, one with more texts than there are columns and with texts that look
like missing values, only the absent ones are missing. -/
theorem records_aligned_ragged :
    let long : Values := ["GREEN", "None", "\\N", "NULL"]
    let t := Declaration.toTable ⟨"Shade", [["RED", ""], ["BLUE"], long]⟩ enumColumns
    enumColumns.Nodup ∧ t.records[1]? = some [some "BLUE", none, none] ∧
      ∃ r, t.records[2]? = some r ∧ IsRecordOf long 3 r := by
  intro long t
  have distinct : enumColumns.Nodup := by decide
  have aligned := records_aligned ⟨"Shade", [["RED", ""], ["BLUE"], long]⟩ distinct
  obtain ⟨-, -, -, each⟩ := aligned
  exact ⟨distinct, by decide, each 2 long rfl⟩

end Declaration

end EnumTables
