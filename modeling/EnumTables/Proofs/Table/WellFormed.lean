import EnumTables.Proofs.Declaration.Position
import EnumTables.Proofs.Table.Alignment
import EnumTables.Proofs.Text.Lowercase
import EnumTables.Sync

/-!
# Well-formed tables

What every table has that is built from sources, whatever the sources hold: rows with a key and a
code each, the columns that its rows use and no others, the narrowest type for each column, and a
name without capitals.
-/

namespace EnumTables

/-! ## Tables -/

namespace ColumnType

/-- All texts are truth values. -/
def AreTruthValues (texts : List String) : Prop := ∀ s ∈ texts, s = "true" ∨ s = "false"

/-- All texts are runs of at least one ASCII digit. -/
def AreDigits (texts : List String) : Prop :=
  ∀ s ∈ texts, s.toList ≠ [] ∧ ∀ c ∈ s.toList, c.isDigit = true

/-- A column with these texts is of this type. -/
def Fits (texts : List String) : ColumnType → Prop
  | .boolean => AreTruthValues texts
  | .integer => AreDigits texts
  | .string => ¬ AreTruthValues texts ∧ ¬ AreDigits texts

end ColumnType

namespace EnumTable

/-- The texts in a column, without those that are missing. -/
def texts (t : EnumTable) (column : String) : List String := t.rows.filterMap (·.get? column)

/-- What is relied on of the table of an enum. -/
structure WellFormed (t : EnumTable) : Prop where
  some_row : t.rows ≠ []
  columns : t.columnNames = ["key", "code"] ∨ t.columnNames = ["key", "code", "label"]
  /-- There is a column for labels only if some row has one. -/
  label_iff : "label" ∈ t.columnNames ↔ ∃ row ∈ t.rows, ∃ s, row.get? "label" = some s
  key : ∀ row ∈ t.rows, ∃ s, row.get? "key" = some s
  code : ∀ row ∈ t.rows, ∃ s, row.get? "code" = some s
  /-- No row has a text outside of the columns. -/
  inside : ∀ row ∈ t.rows, ∀ m ∈ row, m.1 ∈ t.columnNames
  key_type : ∀ f ∈ t.fields, f.name = "key" → f.type = .string
  type_iff : ∀ f ∈ t.fields, ∀ type, f.type = type ↔ type.Fits (t.texts f.name)
  lower : ∀ c ∈ t.tableId.toList, c.isUpper = false

end EnumTable

/-! ## Types -/

namespace ColumnType

variable {texts : List String}

theorem areTruthValues_iff : AreTruthValues texts ↔ texts.all isBoolean = true := by
  simp [AreTruthValues, isBoolean]

theorem areDigits_iff : AreDigits texts ↔ texts.all isInteger = true := by
  simp [AreDigits, isInteger]

/-- Texts are not truth values and digits at once. -/
theorem AreTruthValues.not_areDigits (h : AreTruthValues texts) (some : texts ≠ []) :
    ¬ AreDigits texts := by
  intro digits
  obtain ⟨s, member⟩ := List.exists_mem_of_ne_nil texts some
  have truth : isBoolean s = true := List.all_eq_true.mp (areTruthValues_iff.mp h) s member
  have integer : isInteger s = true := List.all_eq_true.mp (areDigits_iff.mp digits) s member
  rw [isInteger_eq_false_of_isBoolean truth] at integer
  cases integer

/-- The type that is inferred from some texts is the one that they fit. -/
theorem ofTexts_eq_iff (some : texts ≠ []) (type : ColumnType) :
    ofTexts texts = type ↔ type.Fits texts := by
  have filled : texts.isEmpty = false := List.isEmpty_eq_false_iff.mpr some
  rw [ofTexts, filled, if_neg Bool.false_ne_true]
  by_cases truth : AreTruthValues texts
  · have mixed := truth.not_areDigits some
    rw [if_pos (areTruthValues_iff.mp truth)]
    cases type <;> simp [Fits, truth, mixed]
  · rw [if_neg (mt areTruthValues_iff.mpr truth)]
    by_cases digits : AreDigits texts
    · rw [if_pos (areDigits_iff.mp digits)]
      cases type <;> simp [Fits, truth, digits]
    · rw [if_neg (mt areDigits_iff.mpr digits)]
      cases type <;> simp [Fits, truth, digits]

end ColumnType

/-! ## Values of declarations -/

/-- The texts of a constant are a key, written like a constant's name, a code, and perhaps more. -/
def IsConstantValues (v : Values) : Prop :=
  ∃ key code more, v = key :: code :: more ∧ Token.isConstantName key = true

variable {ts used : List Token} {v : Values}

theorem isConstantName_of_isConstant {t : Token} (h : t.isConstant = true) :
    Token.isConstantName t.text = true := by
  rw [Token.isConstant, Bool.and_eq_true] at h
  exact h.2

theorem IsEntry.isConstantValues (h : IsEntry used v) : IsConstantValues v := by
  obtain ⟨constant, -, arguments⟩ := h
  have name := isConstantName_of_isConstant constant
  cases arguments with
  | last => exact ⟨_, _, _, rfl, name⟩
  | more => exact ⟨_, _, _, rfl, name⟩

theorem isConstantValues_of_mem_entries (h : v ∈ entries ts) : IsConstantValues v := by
  rw [entries_eq_filterMap_range] at h
  obtain ⟨i, -, found⟩ := List.mem_filterMap.mp h
  obtain ⟨⟨v, rest⟩, entry, rfl⟩ := Option.map_eq_some_iff.mp found
  obtain ⟨used, isEntry, -⟩ := entryOf?_eq_some_iff.mp entry
  exact isEntry.isConstantValues

theorem isConstantValues_of_mem_bareEntries (h : v ∈ bareEntries ts) : IsConstantValues v := by
  obtain ⟨⟨name, place⟩, member, rfl⟩ := List.mem_map.mp h
  obtain ⟨t, constant, rfl⟩ := List.mem_map.mp (List.fst_mem_of_mem_zipIdx member)
  exact ⟨_, _, _, rfl, isConstantName_of_isConstant (List.mem_filter.mp constant).2⟩

/-- Every constant of a declaration has a key and a code. -/
theorem Declaration.isConstantValues {source : String} {d : Declaration}
    (h : parse? source = some d) (member : v ∈ d.values) : IsConstantValues v := by
  obtain ⟨name, rest, body, -, -, rfl⟩ := parse?_eq_some_iff.mp h
  rw [ofTokens] at member
  split at member
  · exact isConstantValues_of_mem_entries member
  · exact isConstantValues_of_mem_bareEntries member

theorem isDigit_eq_false_of_isConstantStart {c : Char} (h : Token.isConstantStart c = true) :
    c.isDigit = false := by
  rw [Token.isConstantStart, Bool.or_eq_true, decide_eq_true_iff, Text.isUpper_iff] at h
  rw [Bool.eq_false_iff, ne_eq, Text.isDigit_iff]
  rcases h with capital | rfl
  · omega
  · decide

/-- A column of constants' names is one of strings. -/
theorem ColumnType.ofTexts_eq_string {texts : List String} (some : texts ≠ [])
    (names : ∀ s ∈ texts, Token.isConstantName s = true) : ofTexts texts = .string := by
  obtain ⟨s, member⟩ := List.exists_mem_of_ne_nil texts some
  have name := names s member
  refine (ofTexts_eq_iff some .string).mpr ⟨fun truth ↦ ?_, fun digits ↦ ?_⟩
  · rcases truth s member with rfl | rfl
    · revert name
      decide
    · revert name
      decide
  · obtain ⟨-, digits⟩ := digits s member
    rw [Token.isConstantName] at name
    split at name
    · cases name
    · rename_i c cs chars
      have digit : c.isDigit = true := digits c (chars ▸ List.mem_cons_self)
      rw [isDigit_eq_false_of_isConstantStart (Bool.and_eq_true_iff.mp name).1] at digit
      cases digit

/-! ## Tables of declarations -/

/-- There are no capitals of ASCII in the name of a table. -/
theorem isUpper_eq_false_of_mem_snakeCase {name : String} {c : Char}
    (h : c ∈ (snakeCase name).toList) : c.isUpper = false := by
  rw [snakeCase] at h
  split at h
  · exact absurd h List.not_mem_nil
  · rw [String.toList_ofList] at h
    exact Text.isUpper_eq_false_of_mem_lower h

namespace Declaration

variable {d : Declaration} {columns : List String} {c : String} {j : Nat}

/-- The texts in a column are those that the rows have in its place. -/
theorem texts_toTable (distinct : columns.Nodup) (h : columns[j]? = some c) :
    (d.toTable columns).texts c = d.values.filterMap (·[j]?) := by
  rw [EnumTable.texts, toTable, rowsOf, List.filterMap_map]
  exact congrArg (d.values.filterMap ·) (funext fun v ↦ Row.get?_ofValues v distinct h)

/-- A column has the type of its texts, of which there is at least one. -/
theorem type_of_mem_fields (distinct : columns.Nodup) {f : Field}
    (h : f ∈ (d.toTable columns).fields) :
    (d.toTable columns).texts f.name ≠ [] ∧
      f.type = ColumnType.ofTexts ((d.toTable columns).texts f.name) := by
  obtain ⟨⟨name, type⟩, member, rfl⟩ := List.mem_map.mp h
  obtain ⟨j, place⟩ := List.mem_iff_getElem?.mp member
  obtain ⟨named, typed⟩ := List.getElem?_zip_eq_some.mp place
  have inside : j < longest d.values := by
    rw [← length_columnTypes]
    exact (List.getElem?_eq_some_iff.mp typed).1
  have texts : (d.toTable columns).texts name = _ := texts_toTable distinct named
  rw [texts]
  constructor
  · exact column_ne_nil inside
  · rw [getElem?_columnTypes inside] at typed
    exact (Option.some.inj typed).symm

/-! ## Tables of enums -/

theorem nodup_enumColumns : enumColumns.Nodup := by decide

variable (some : d.values ≠ []) (constants : ∀ v ∈ d.values, IsConstantValues v)

include some constants in
theorem one_lt_longest : 1 < longest d.values := by
  obtain ⟨v, member⟩ := List.exists_mem_of_ne_nil d.values some
  obtain ⟨key, code, more, rfl, -⟩ := constants v member
  exact lt_longest_iff.mpr ⟨_, member, by simp⟩

include some constants in
/-- There is a column for labels if and only if the longest row has one. -/
theorem columnNames_eq : (d.toTable enumColumns).columnNames =
    if 2 < longest d.values then ["key", "code", "label"] else ["key", "code"] := by
  have filled := one_lt_longest some constants
  rw [columnNames_toTable]
  split
  · exact List.take_of_length_le (by simp [enumColumns]; omega)
  · have two : longest d.values = 2 := by omega
    rw [two]
    rfl

/-- A row of a table is that of a constant. -/
theorem exists_of_mem_rows {row : Row} (h : row ∈ (d.toTable columns).rows) :
    ∃ v ∈ d.values, row = Row.ofValues columns v := by
  obtain ⟨v, member, rfl⟩ := List.mem_map.mp h
  exact ⟨v, member, rfl⟩

include some constants in
theorem wellFormed_toTable : (d.toTable enumColumns).WellFormed where
  some_row := fun none ↦ some (List.map_eq_nil_iff.mp none)
  columns := by
    rw [columnNames_eq some constants]
    split
    · exact .inr rfl
    · exact .inl rfl
  label_iff := by
    have label : "label" ∈ (d.toTable enumColumns).columnNames ↔ 2 < longest d.values := by
      rw [columnNames_eq some constants]
      split <;> simp_all
    rw [label, lt_longest_iff]
    constructor
    · rintro ⟨v, member, reached⟩
      refine ⟨_, List.mem_map_of_mem member, v[2], ?_⟩
      rw [Row.get?_ofValues v nodup_enumColumns (j := 2) rfl]
      exact List.getElem?_eq_getElem reached
    · rintro ⟨row, listed, s, labelled⟩
      obtain ⟨v, member, rfl⟩ := exists_of_mem_rows listed
      rw [Row.get?_ofValues v nodup_enumColumns (j := 2) rfl] at labelled
      exact ⟨v, member, (List.getElem?_eq_some_iff.mp labelled).1⟩
  key row h := by
    obtain ⟨v, member, rfl⟩ := exists_of_mem_rows h
    obtain ⟨key, code, more, rfl, -⟩ := constants v member
    exact ⟨key, Row.get?_ofValues _ nodup_enumColumns (j := 0) rfl⟩
  code row h := by
    obtain ⟨v, member, rfl⟩ := exists_of_mem_rows h
    obtain ⟨key, code, more, rfl, -⟩ := constants v member
    exact ⟨code, Row.get?_ofValues _ nodup_enumColumns (j := 1) rfl⟩
  inside row h m hm := by
    obtain ⟨v, member, rfl⟩ := exists_of_mem_rows h
    rw [columnNames_toTable]
    have reached := List.take_subset_take_left enumColumns (length_le_longest member)
    exact reached (Row.mem_take_of_mem_ofValues hm)
  key_type f h name := by
    obtain ⟨filled, type⟩ := type_of_mem_fields nodup_enumColumns h
    rw [name] at filled type
    rw [type]
    refine ColumnType.ofTexts_eq_string filled fun s hs ↦ ?_
    rw [texts_toTable nodup_enumColumns (j := 0) rfl] at hs
    obtain ⟨v, member, first⟩ := List.mem_filterMap.mp hs
    obtain ⟨key, code, more, rfl, constant⟩ := constants v member
    cases first
    exact constant
  type_iff f h type := by
    obtain ⟨filled, inferred⟩ := type_of_mem_fields nodup_enumColumns h
    rw [inferred]
    exact ColumnType.ofTexts_eq_iff filled type
  lower _ h := isUpper_eq_false_of_mem_snakeCase h

end Declaration

/-- A table that is built from sources is that of a declaration in one of them, which has
constants. -/
theorem exists_declaration_of_mem_tablesOf {sources : List String} {t : EnumTable}
    (h : t ∈ tablesOf sources) : ∃ source ∈ sources, ∃ d, Declaration.parse? source = some d ∧
      d.values ≠ [] ∧ d.toTable enumColumns = t := by
  obtain ⟨source, listed, built⟩ := List.mem_filterMap.mp h
  rw [tableOf?] at built
  split at built
  · rename_i d read
    split at built
    · nomatch built
    · rename_i some
      exact ⟨source, listed, d, read, fun none ↦ some (List.isEmpty_iff.mpr none),
        Option.some.inj built⟩
  · nomatch built

theorem wellFormed_of_mem_tablesOf {sources : List String} {t : EnumTable}
    (h : t ∈ tablesOf sources) : t.WellFormed := by
  obtain ⟨source, -, d, read, some, rfl⟩ := exists_declaration_of_mem_tablesOf h
  exact Declaration.wellFormed_toTable some fun v ↦ Declaration.isConstantValues read

/-- Whatever the sources hold, tables are built from them, and every one of these is well formed. -/
theorem buildTables_wellFormed (sources : List String) (w : World) (past : Trace) :
    ∃ tables, ((buildTables sources).run w past).result = .ok tables ∧
      ∀ t ∈ tables, t.WellFormed :=
  ⟨tablesOf sources, result_buildTables sources w past, fun _ ↦ wellFormed_of_mem_tablesOf⟩

/-- Among the sources is one with a label in one of its rows and one that declares nothing. -/
theorem buildTables_wellFormed_status :
    let source := "enum Status \x7b OK(0, \"Green\"), NG(1); \x7d"
    let t : EnumTable := {
      tableId := "status"
      fields := [⟨"key", .string⟩, ⟨"code", .integer⟩, ⟨"label", .string⟩]
      rows := [[("key", "OK"), ("code", "0"), ("label", "Green")], [("key", "NG"), ("code", "1")]] }
    tablesOf ["class A;", source] = [t] ∧ t.WellFormed := by
  intro source t
  have built : tablesOf ["class A;", source] = [t] := by decide +kernel
  let nowhere : World := {
    environment := []
    files := fun _ ↦ none
    respond := fun _ ↦ .error (.runtime "")
    failure := fun _ _ ↦ none }
  obtain ⟨tables, returned, wellFormed⟩ := buildTables_wellFormed ["class A;", source] nowhere []
  rw [result_buildTables, built] at returned
  obtain rfl := Except.ok.inj returned
  exact ⟨built, wellFormed t List.mem_cons_self⟩

end EnumTables
