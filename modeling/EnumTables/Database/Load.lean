import EnumTables.Database.Connection
import EnumTables.Database.Sql

/-!
# Loading tables

A table of the database is replaced as a whole: it is dropped if it is there and created anew with
the rows of an enum, in one transaction.  In a load of several tables an error of the database stops
only the table that met it; every other fault stops the load.
-/

namespace EnumTables

/-- What came of loading a table. -/
inductive LoadOutcome where
  | loaded (rows : Nat)
  | failed (message : String)
deriving DecidableEq, Repr

/-- What came of loading the table of this name. -/
structure LoadResult where
  tableId : String
  outcome : LoadOutcome
deriving DecidableEq, Repr

/-- Whether the table was loaded. -/
def LoadResult.isLoaded (r : LoadResult) : Bool :=
  match r.outcome with
  | .loaded _ => true
  | .failed _ => false

/-- The statements that replace a table. -/
def replaceStatements (schema : String) (t : EnumTable) : Act Unit := do
  Act.command (.execute (Sql.createSchema schema))
  Act.command (.execute (Sql.dropTable schema t.tableId))
  Act.command (.execute (Sql.createTable schema t))
  if !t.records.isEmpty then
    Act.command (.values (Sql.insertInto schema t) t.records)

/-- Replace a table and count the rows that were inserted. -/
def replaceTable (schema : String) (t : EnumTable) : Act Nat := do
  withConnection none (replaceStatements schema t)
  return t.records.length

/-- Load one table. -/
def loadTable (schema : String) (t : EnumTable) : Act LoadResult := do
  let name := qualifiedName schema t.tableId
  match Sql.identifierError? t.tableId with
  | some message =>
    Act.log .error .tables s!"Skipping {name}: {message}"
    return ⟨t.tableId, .failed message⟩
  | none =>
    match ← Act.attempt (replaceTable schema t) with
    | .ok rows =>
      Act.log .info .tables s!"Inserted {rows} rows into {name}"
      return ⟨t.tableId, .loaded rows⟩
    | .error e =>
      if e.isDatabase then
        Act.log .error .tables s!"Load failed for {name}: {e.message}"
        return ⟨t.tableId, .failed (Text.trim e.message)⟩
      else Act.throw e

/-- Load tables one after the other. -/
def loadTables (schema : String) : List EnumTable → Act (List LoadResult)
  | [] => pure []
  | t :: ts => do
    let r ← loadTable schema t
    let rs ← loadTables schema ts
    return r :: rs

end EnumTables
