import EnumTables.Proofs.Database.Replace
import EnumTables.Proofs.Table.WellFormed
import EnumTables.Text.Integer
import Mathlib.Algebra.Group.Nat.Defs

/-!
# What columns can hold

The type of a column is inferred from its texts, and the database has a type of its own for each of
the three.  Main statement: truth values are stored as such, and runs of digits as numbers, so that
a database which reads texts as it is documented refuses a table's own rows because of the type of a
column just if a run of digits in a column of numbers is beyond the greatest one.
-/

namespace EnumTables

open Sql

namespace Sql

/-- The greatest number of the type `BIGINT`. -/
def maxBigint : Nat := 2 ^ 63 - 1

/-- The number that a run of digits spells. -/
def numeral (text : String) : Nat :=
  Text.digitsNumber (text.toList.map fun c ↦ c.toNat - '0'.toNat)

/-- What is relied on of the texts that a database accepts as values of a type. -/
structure ReadsTypes (accepts : String → String → Prop) : Prop where
  truth : accepts "BOOLEAN" "true" ∧ accepts "BOOLEAN" "false"
  /-- A run of digits is a number unless it is out of range. -/
  number : ∀ text, ColumnType.AreDigits [text] → (accepts "BIGINT" text ↔ numeral text ≤ maxBigint)
  /-- A text is any characters but the null character, which no value can hold. -/
  text : ∀ text : String, '\x00' ∉ text.toList → accepts "TEXT" text

/-- No text that can be a value is refused because of the type of its column. -/
def TypesAccept (accepts : String → String → Prop) (columns : List (String × String))
    (records : List (List (Option String))) : Prop :=
  ∀ record ∈ records, ∀ c ∈ columns.zip record, ∀ text, c.2 = some text →
    '\x00' ∉ text.toList → accepts c.1.2 text

theorem typeName_inj {a b : ColumnType} : typeName a = typeName b ↔ a = b := by
  cases a <;> cases b <;> decide

end Sql

variable {t : EnumTable} {c : String}

/-- A column is created with the type of its texts. -/
theorem EnumTable.WellFormed.mem_columnsOf_iff (wellFormed : t.WellFormed) (type : ColumnType) :
    (c, typeName type) ∈ columnsOf t ↔ c ∈ t.columnNames ∧ type.Fits (t.texts c) := by
  constructor
  · intro member
    obtain ⟨f, listed, column⟩ := List.mem_map.mp member
    obtain ⟨rfl, typed⟩ := Prod.mk.inj column
    have same := typeName_inj.mp typed
    exact ⟨List.mem_map_of_mem listed, (wellFormed.type_iff f listed type).mp same⟩
  · rintro ⟨named, fits⟩
    obtain ⟨f, listed, rfl⟩ := List.mem_map.mp named
    have typed := (wellFormed.type_iff f listed type).mpr fits
    exact List.mem_map.mpr ⟨f, listed, by rw [typed]⟩

/-- The records of a table are accepted if the texts of each column are. -/
theorem typesAccept_iff {accepts : String → String → Prop} :
    TypesAccept accepts (columnsOf t) t.records ↔ ∀ f ∈ t.fields, ∀ text ∈ t.texts f.name,
      '\x00' ∉ text.toList → accepts (typeName f.type) text := by
  have columns (row : Row) : (columnsOf t).zip (t.columnNames.map row.get?) =
      t.fields.map fun f ↦ ((f.name, typeName f.type), row.get? f.name) := by
    rw [columnsOf, EnumTable.columnNames, List.map_map, List.zip_map']
    rfl
  constructor
  · intro accepted f listed text member
    obtain ⟨row, present, given⟩ := List.mem_filterMap.mp member
    refine accepted (t.columnNames.map row.get?) (List.mem_map_of_mem present)
      ((f.name, typeName f.type), row.get? f.name) ?_ text given
    rw [columns]
    exact List.mem_map_of_mem listed
  · intro accepted record present column listed text given
    obtain ⟨row, place, rfl⟩ := List.mem_map.mp present
    rw [columns] at listed
    obtain ⟨f, member, rfl⟩ := List.mem_map.mp listed
    exact accepted f member text (List.mem_filterMap.mpr ⟨row, place, given⟩)

/-! ## Runs of digits -/

/-- Digits spell a number below the power of ten that their count is. -/
theorem digitsNumber_lt {ds : List Nat} (below : ∀ d ∈ ds, d < 10) :
    Text.digitsNumber ds < 10 ^ ds.length := by
  -- The number read so far counts as one digit more, so the induction is over all of them.
  suffices ∀ n, ds.foldl (fun n d ↦ n * 10 + d) n < (n + 1) * 10 ^ ds.length by
    have whole := this 0
    rw [Nat.zero_add, Nat.one_mul] at whole
    exact whole
  induction ds with
  | nil =>
    intro n
    rw [List.foldl_nil, List.length_nil, Nat.pow_zero, Nat.mul_one]
    exact Nat.lt_succ_self n
  | cons d ds ih =>
    intro n
    obtain ⟨digit, below⟩ := List.forall_mem_cons.mp below
    calc ds.foldl (fun n d ↦ n * 10 + d) (n * 10 + d)
      _ < (n * 10 + d + 1) * 10 ^ ds.length := ih below _
      _ ≤ (n + 1) * 10 * 10 ^ ds.length := Nat.mul_le_mul_right _ (by omega)
      _ = (n + 1) * 10 ^ (ds.length + 1) := by rw [Nat.mul_assoc, Nat.pow_succ']

theorem ColumnType.AreDigits.singleton {texts : List String} {text : String}
    (digits : AreDigits texts) (member : text ∈ texts) : AreDigits [text] :=
  List.forall_mem_singleton.mpr (digits text member)

/-- There is no null character in a run of digits. -/
theorem not_mem_null_of_areDigits {texts : List String} {text : String}
    (digits : ColumnType.AreDigits texts) (member : text ∈ texts) : '\x00' ∉ text.toList := by
  intro null
  exact absurd ((digits text member).2 '\x00' null) (by decide)

/-- Numbers of at most eighteen digits are never out of range. -/
theorem numeral_le_of_short {text : String} (digits : ∀ c ∈ text.toList, c.isDigit = true)
    (short : text.length ≤ 18) : numeral text ≤ maxBigint := by
  have below : ∀ d ∈ text.toList.map fun c ↦ c.toNat - '0'.toNat, d < 10 := by
    intro d member
    obtain ⟨c, listed, rfl⟩ := List.mem_map.mp member
    have digit := Text.isDigit_iff.mp (digits c listed)
    have zero : '0'.toNat = 0x30 := rfl
    omega
  have small := digitsNumber_lt below
  rw [List.length_map, String.length_toList] at small
  have most : 10 ^ text.length ≤ 10 ^ 18 := Nat.pow_le_pow_right (by decide) short
  have limit : 10 ^ 18 ≤ maxBigint := by decide
  exact Nat.le_of_lt (Nat.lt_of_lt_of_le small (Nat.le_trans most limit))

/-- How the types of a table's columns bear on its rows, whatever the sources: the columns of truth
values are those of type `BOOLEAN`, the columns of digits those of type `BIGINT`, and the rows are
refused because of a type just if a number is out of range, for which it takes nineteen digits. -/
theorem typesAccept_records_iff {accepts : String → String → Prop} (rules : ReadsTypes accepts)
    {sources : List String} (member : t ∈ tablesOf sources) (schema : String) :
    ∃ columns,
      Statement.ofText? (createTable schema t) = some (.createTable schema t.tableId columns) ∧
      Statement.ofText? (insertInto schema t) =
        some (.insertInto schema t.tableId (columns.map Prod.fst)) ∧
      (∀ c, (c, "BOOLEAN") ∈ columns ↔
        c ∈ t.columnNames ∧ ColumnType.AreTruthValues (t.texts c)) ∧
      (∀ c, (c, "BIGINT") ∈ columns ↔ c ∈ t.columnNames ∧ ColumnType.AreDigits (t.texts c)) ∧
      (TypesAccept accepts columns t.records ↔
        ∀ c, (c, "BIGINT") ∈ columns → ∀ text ∈ t.texts c, numeral text ≤ maxBigint) ∧
      ∀ c, (c, "BIGINT") ∈ columns → ∀ text ∈ t.texts c, text.length ≤ 18 →
        numeral text ≤ maxBigint := by
  have wellFormed := wellFormed_of_mem_tablesOf member
  have numbers (c : String) : (c, "BIGINT") ∈ columnsOf t ↔
      c ∈ t.columnNames ∧ ColumnType.AreDigits (t.texts c) :=
    wellFormed.mem_columnsOf_iff .integer
  have truths (c : String) : (c, "BOOLEAN") ∈ columnsOf t ↔
      c ∈ t.columnNames ∧ ColumnType.AreTruthValues (t.texts c) :=
    wellFormed.mem_columnsOf_iff .boolean
  refine ⟨columnsOf t, Statement.ofText?_createTable schema t, ?_, truths, numbers, ?_, ?_⟩
  · rw [t.map_fst_columnsOf]
    exact Statement.ofText?_insertInto schema t
  · rw [typesAccept_iff]
    constructor
    · intro accepted c column text given
      obtain ⟨named, digits⟩ := (numbers c).mp column
      obtain ⟨f, listed, rfl⟩ := List.mem_map.mp named
      have typed := (wellFormed.type_iff f listed .integer).mpr digits
      have number := accepted f listed text given (not_mem_null_of_areDigits digits given)
      rw [typed] at number
      exact (rules.number text (digits.singleton given)).mp number
    · intro inRange f listed text given null
      have named : f.name ∈ t.columnNames := List.mem_map_of_mem listed
      have fits := (wellFormed.type_iff f listed f.type).mp rfl
      cases typed : f.type with
      | boolean =>
        rw [typed] at fits
        rcases fits text given with rfl | rfl
        · exact rules.truth.1
        · exact rules.truth.2
      | integer =>
        rw [typed] at fits
        have column := (numbers f.name).mpr ⟨named, fits⟩
        exact (rules.number text (fits.singleton given)).mpr (inRange f.name column text given)
      | string => exact rules.text text null
  · intro c column text given short
    exact numeral_le_of_short (((numbers c).mp column).2 text given).2 short

/-- The texts of the three types in their plainest notation. -/
def acceptsPlain (type text : String) : Prop :=
  type = "BOOLEAN" ∧ (text = "true" ∨ text = "false") ∨
    type = "BIGINT" ∧ ColumnType.AreDigits [text] ∧ numeral text ≤ maxBigint ∨
    type = "TEXT" ∧ '\x00' ∉ text.toList

theorem readsTypes_acceptsPlain : ReadsTypes acceptsPlain where
  truth := by simp [acceptsPlain]
  number text digits := by simp [acceptsPlain, digits]
  text text null := .inr (.inr ⟨rfl, null⟩)

/-- The rows of a table with a column of each type are accepted. -/
theorem typesAccept_records_flag :
    let source := "enum Flag \x7b ON(1, true), OFF(0, false); \x7d"
    let t : EnumTable := {
      tableId := "flag"
      fields := [⟨"key", .string⟩, ⟨"code", .integer⟩, ⟨"label", .boolean⟩]
      rows := [[("key", "ON"), ("code", "1"), ("label", "true")],
        [("key", "OFF"), ("code", "0"), ("label", "false")]] }
    tablesOf [source] = [t] ∧ ∃ columns,
      Statement.ofText? (createTable "enums" t) = some (.createTable "enums" "flag" columns) ∧
      TypesAccept acceptsPlain columns t.records := by
  intro source t
  have built : tablesOf [source] = [t] := by decide +kernel
  have member : t ∈ tablesOf [source] := built ▸ List.mem_cons_self
  have short : ∀ c ∈ t.columnNames, ∀ text ∈ t.texts c, text.length ≤ 18 := by decide
  obtain ⟨columns, created, -, -, numbers, accepted, inRange⟩ :=
    typesAccept_records_iff readsTypes_acceptsPlain member "enums"
  refine ⟨built, columns, created, accepted.mpr fun c column text given ↦ ?_⟩
  exact inRange c column text given (short c ((numbers c).mp column).1 text given)

/-- The least number that is out of range gives a column of numbers, and its row is refused. -/
theorem number_out_of_range :
    let source := "enum Limit \x7b MAX(9223372036854775808); \x7d"
    let t : EnumTable := {
      tableId := "limit"
      fields := [⟨"key", .string⟩, ⟨"code", .integer⟩]
      rows := [[("key", "MAX"), ("code", "9223372036854775808")]] }
    let columns := [("key", "TEXT"), ("code", "BIGINT")]
    tablesOf [source] = [t] ∧
      Statement.ofText? (createTable "enums" t) = some (.createTable "enums" "limit" columns) ∧
      t.texts "code" = ["9223372036854775808"] ∧
      numeral "9223372036854775808" = maxBigint + 1 ∧
      ∀ accepts, ReadsTypes accepts → ¬ TypesAccept accepts columns t.records := by
  intro source t columns
  have built : tablesOf [source] = [t] := by decide +kernel
  have created : Statement.ofText? (createTable "enums" t) =
      some (.createTable "enums" "limit" columns) := Statement.ofText?_createTable "enums" t
  have beyond : numeral "9223372036854775808" = maxBigint + 1 := by decide
  refine ⟨built, created, by decide, beyond, fun accepts rules accepted ↦ ?_⟩
  have number : accepts "BIGINT" "9223372036854775808" :=
    typesAccept_iff.mp accepted ⟨"code", .integer⟩ (by decide) _ (by decide) (by decide)
  have digits : ColumnType.AreDigits ["9223372036854775808"] :=
    ColumnType.areDigits_iff.mpr (by decide)
  have inRange := (rules.number _ digits).mp number
  rw [beyond] at inRange
  exact Nat.not_succ_le_self _ inRange

end EnumTables
