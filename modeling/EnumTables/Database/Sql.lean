import EnumTables.Table.Basic
import EnumTables.Text.Quoted

/-!
# Statements

The four statements that replace a table.  Names are delimited identifiers: they stand between
quotation marks, and a quotation mark inside a name is written twice.
-/

namespace EnumTables.Sql

/-- A character inside a delimited identifier. -/
def escapeChar (c : Char) : List Char := if c = '"' then ['"', '"'] else [c]

/-- A name as a delimited identifier. -/
def quoteIdentifier (name : String) : String :=
  String.ofList ('"' :: (name.toList.flatMap escapeChar ++ ['"']))

/-- The type of the database for a column type. -/
def typeName : ColumnType → String
  | .boolean => "BOOLEAN"
  | .integer => "BIGINT"
  | .string => "TEXT"

/-- The name of a table in a schema. -/
def tableName (schema table : String) : String :=
  quoteIdentifier schema ++ "." ++ quoteIdentifier table

/-- Create a schema unless it is there. -/
def createSchema (schema : String) : String :=
  "CREATE SCHEMA IF NOT EXISTS " ++ quoteIdentifier schema

/-- Drop a table if it is there. -/
def dropTable (schema table : String) : String :=
  "DROP TABLE IF EXISTS " ++ tableName schema table

/-- A column with its type. -/
def columnDefinition (f : Field) : String := quoteIdentifier f.name ++ " " ++ typeName f.type

/-- Create a table with its columns. -/
def createTable (schema : String) (t : EnumTable) : String :=
  "\n        CREATE TABLE " ++ tableName schema t.tableId ++ " (\n            " ++
    ", ".intercalate (t.fields.map columnDefinition) ++ "\n        )\n    "

/-- Insert records into a table, with one place for all of them. -/
def insertInto (schema : String) (t : EnumTable) : String :=
  "INSERT INTO " ++ tableName schema t.tableId ++ " (" ++
    ", ".intercalate (t.columnNames.map quoteIdentifier) ++ ") VALUES %s"

/-- The longest identifier, in bytes, that the database does not cut short. -/
def maxIdentifierBytes : Nat := 63

/-- Whether the database keeps an identifier whole. -/
def fits (name : String) : Bool := name.utf8ByteSize ≤ maxIdentifierBytes

/-- Why a name cannot be the name of a table. -/
def tooLongMessage (name : String) : String :=
  s!"table name {Text.quoted name} exceeds {maxIdentifierBytes} bytes"

/-- Why a name cannot be the name of a table, if it cannot. -/
def identifierError? (name : String) : Option String :=
  if fits name then none else some (tooLongMessage name)

theorem identifierError?_eq_none_iff {name : String} :
    identifierError? name = none ↔ name.utf8ByteSize ≤ 63 := by
  unfold identifierError? fits maxIdentifierBytes
  split <;> simp_all

end EnumTables.Sql
