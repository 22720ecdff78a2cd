import EnumTables.Act
import EnumTables.Settings

/-!
# Connections

A unit of work on a connection of its own.  It is committed when its body ends with a value and
rolled back when the body or the commit meets a fault, unless that is an interruption; the
connection is closed in every case.  The fault that comes last is the one that leaves.
-/

namespace EnumTables

/-- The connection string: that of the settings if they are given, else of the environment. -/
def connectionString (db : Option DatabaseSettings) : Act String := do
  match db with
  | some db => return db.dsn
  | none => return (DatabaseSettings.ofEnvironment (← Act.environment)).dsn

/-- Roll back after a fault: the fault that remains is that of the roll-back if it fails. -/
def rollBackAfter (e : Fault) : Act Fault := do
  if e.isInterrupt then return e
  match ← Act.attempt (Act.command .rollback) with
  | .ok () => return e
  | .error later => return later

/-- Run the body of a unit of work on an open connection and end the transaction. -/
def inTransaction {α : Type} (body : Act α) : Act α := do
  match ← Act.attempt (do let a ← body; Act.command .commit; pure a) with
  | .ok a =>
    Act.command .close
    return a
  | .error e =>
    let e ← rollBackAfter e
    Act.command .close
    Act.throw e

/-- Run a unit of work on a connection of its own. -/
def withConnection {α : Type} (db : Option DatabaseSettings) (body : Act α) : Act α := do
  let dsn ← connectionString db
  Act.command (.connect dsn)
  inTransaction body

end EnumTables
