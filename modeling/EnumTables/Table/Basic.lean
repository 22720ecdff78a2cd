import EnumTables.Declaration.Parser
import EnumTables.Table.ColumnType
import EnumTables.Table.Name

/-!
# Tables

The table of an enum: its columns with their types, and one row for each constant.  A row holds
texts by column name and may lack some of the columns.
-/

namespace EnumTables

/-- A column of a table. -/
structure Field where
  name : String
  type : ColumnType
deriving DecidableEq, Repr

/-- The texts of a row by column name. -/
abbrev Row := List (String × String)

namespace Row

/-- Give a column its text: a column that is already there keeps its place. -/
def insert (row : Row) (column text : String) : Row :=
  match row with
  | [] => [(column, text)]
  | (c, t) :: rest =>
    if c = column then (c, text) :: rest else (c, t) :: insert rest column text

/-- The row with the texts of `values` under the names of `columns`, as far as both reach.  Of
several columns of one name the last counts. -/
def ofValues (columns : List String) (values : Values) : Row :=
  (columns.zip values).foldl (fun row (c, t) ↦ row.insert c t) []

/-- The text of a column, if the row has it. -/
def get? (row : Row) (column : String) : Option String := row.lookup column

@[simp] theorem get?_insert_self (row : Row) (column text : String) :
    (row.insert column text).get? column = some text := by
  induction row with
  | nil => simp [insert, get?]
  | cons m rest ih =>
    obtain ⟨c, t⟩ := m
    by_cases h : c = column
    · subst h; simp [insert, get?]
    · have h' : (column == c) = false := by simp [Ne.symm h]
      simp only [get?] at ih
      simp [insert, h, get?, List.lookup_cons, h', ih]

theorem get?_insert_of_ne {row : Row} {column other text : String} (h : other ≠ column) :
    (row.insert column text).get? other = row.get? other := by
  have hne : (other == column) = false := by simp [h]
  induction row with
  | nil => simp [insert, get?, List.lookup_cons, hne]
  | cons m rest ih =>
    obtain ⟨c, t⟩ := m
    by_cases hc : c = column
    · subst hc; simp [insert, get?, List.lookup_cons, hne]
    · simp only [get?] at ih
      simp [insert, hc, get?, List.lookup_cons, ih]

end Row

/-- The table of an enum. -/
structure EnumTable where
  tableId : String
  fields : List Field
  rows : List Row
deriving DecidableEq, Repr

namespace EnumTable

/-- The names of the columns. -/
def columnNames (t : EnumTable) : List String := t.fields.map Field.name

/-- The number of rows. -/
def rowCount (t : EnumTable) : Nat := t.rows.length

/-- The rows as lists of texts in the order of the columns, `none` where a row lacks one.  Without
columns every row is an empty record. -/
def records (t : EnumTable) : List (List (Option String)) :=
  t.rows.map fun row ↦ t.columnNames.map row.get?

@[simp] theorem length_records (t : EnumTable) : t.records.length = t.rowCount := by
  simp [records, rowCount]

end EnumTable

/-- The names of the columns of an enum's table: the constant's name, its code and its label. -/
def enumColumns : List String := ["key", "code", "label"]

/-- The columns of a table: names and inferred types, as far as both reach. -/
def fieldsOf (columns : List String) (values : List Values) : List Field :=
  (columns.zip (columnTypes values)).map fun (name, type) ↦ ⟨name, type⟩

/-- The rows of a table. -/
def rowsOf (columns : List String) (values : List Values) : List Row :=
  values.map (Row.ofValues columns)

/-- The table of a declaration. -/
def Declaration.toTable (d : Declaration) (columns : List String) : EnumTable :=
  { tableId := snakeCase d.name
    fields := fieldsOf columns d.values
    rows := rowsOf columns d.values }

@[simp] theorem Declaration.rowCount_toTable (d : Declaration) (columns : List String) :
    (d.toTable columns).rowCount = d.values.length := by
  simp [toTable, EnumTable.rowCount, rowsOf]

end EnumTables
