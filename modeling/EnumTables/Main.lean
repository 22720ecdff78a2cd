import EnumTables.CommandLine.Run

/-!
# The program

The outer layer of the command line: it reads the environment and the files that the arguments name,
runs the program on them and prints what the run printed.  The layer has no network of its own, so
requests find no route and no database is reachable.
-/

namespace EnumTables

/-- The environment variables that the settings are read from. -/
def environmentNames : List String :=
  ["GITHUB_WEBHOOK_SECRET", "GITHUB_TOKEN", "GITHUB_API_URL", "TARGET_BRANCH",
   "ENUM_SOURCE_PATTERN", "ENUM_SCHEMA", "DB_NAME", "DB_USER", "DB_PASSWORD", "DB_HOST", "DB_PORT"]

/-- The variables that are set. -/
def readEnvironment : IO Environment :=
  environmentNames.filterMapM fun name ↦ do
    return (← IO.getEnv name).map fun value ↦ (name, value)

/-- What stands at a path: a path that exists and cannot be read as a file is a directory. -/
def readEntry (path : String) : IO (Option FileEntry) := do
  match ← (IO.FS.readBinFile path).toBaseIO with
  | .ok bytes => return some (.file bytes.toList)
  | .error (.noFileOrDirectory _ _ _) => return none
  | .error _ => return some .directory

/-- What stands at the paths among the arguments. -/
def readEntries (arguments : List String) : IO (List (String × FileEntry)) :=
  arguments.filterMapM fun path ↦ do
    return (← readEntry path).map fun entry ↦ (path, entry)

/-- The world as the program finds it. -/
def localWorld (env : Environment) (entries : List (String × FileEntry)) : World where
  environment := env
  files := fun path ↦ entries.lookup path
  respond := fun url ↦ .error (.transport (.connection s!"no route for {url}"))
  failure := fun site _ ↦
    if site = .connect then some (.database .operational "no database is reachable") else none

end EnumTables

/-- Run the program with its arguments. -/
def main (arguments : List String) : IO UInt32 := do
  let env ← EnumTables.readEnvironment
  let entries ← EnumTables.readEntries arguments
  let outcome := EnumTables.CommandLine.execute (EnumTables.localWorld env entries) arguments
  IO.print outcome.standardOutput
  IO.eprint outcome.standardError
  if let some fault := outcome.raised then
    IO.eprintln fault.message
  return UInt32.ofNat outcome.exitCode
