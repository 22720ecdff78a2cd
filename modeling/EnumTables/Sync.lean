import EnumTables.Database.Load
import EnumTables.Hosting.Source

/-!
# Syncing a commit

The sources of a commit are fetched, the enums that they declare become tables, and the tables
replace those of the database.  All sources are fetched before the database is touched.
-/

namespace EnumTables

/-- The table of the enum that a source declares, if it declares one with constants. -/
def tableOf? (source : String) : Option EnumTable :=
  match Declaration.parse? source with
  | some d => if d.values.isEmpty then none else some (d.toTable enumColumns)
  | none => none

/-- The tables of sources in order. -/
def tablesOf (sources : List String) : List EnumTable := sources.filterMap tableOf?

/-- What is logged of the reading of a declaration. -/
def Reading.records (r : Reading) : List Record :=
  (r.skipped.map fun name ↦
    ⟨.debug, .declaration, s!"Skipping {name}: argument list is not all literals"⟩) ++
  [⟨.debug, .declaration, s!"Parsed enum {r.name}: {r.values.length} values"⟩]

/-- What is logged of the source with the number `i`. -/
def sourceRecords (i : Nat) (source : String) : List Record :=
  match Declaration.read? source with
  | none => [⟨.debug, .sync, s!"Source #{i} has no enum declaration"⟩]
  | some r =>
    r.records ++ if r.values.isEmpty then
      [⟨.debug, .sync, s!"Enum {r.name} has no values, skipping"⟩] else []

/-- Write log records. -/
def logAll : List Record → Act Unit
  | [] => pure ()
  | r :: rs => do
    Act.emit (.log r)
    logAll rs

/-- The tables of sources, with a record in the log for each source. -/
def buildTables (sources : List String) : Act (List EnumTable) := do
  logAll (sources.zipIdx.flatMap fun (source, i) ↦ sourceRecords i source)
  return tablesOf sources

/-- Load the enums of a commit into the schema of the settings. -/
def syncCommit (settings : Settings) (client : Hosting.Client) (commit : Hosting.Commit) :
    Act (List LoadResult) := do
  let sources ← Hosting.sources client commit settings.sourcePattern
  let tables ← buildTables sources
  Act.log .info .sync s!"{tables.length} of {sources.length} sources declare enums"
  loadTables settings.targetSchema tables

/-- Writing log records adds them to the trace and nothing else. -/
theorem run_logAll (rs : List Record) (w : World) (past : Trace) :
    (logAll rs).run w past = ⟨rs.map .log, .ok ()⟩ := by
  induction rs generalizing past with
  | nil => rfl
  | cons r rs ih =>
    rw [logAll, Act.run_bind_of_ok (a := ()) rfl]
    simp [ih]

/-- The tables that are built are those of the sources. -/
theorem result_buildTables (sources : List String) (w : World) (past : Trace) :
    ((buildTables sources).run w past).result = .ok (tablesOf sources) := by
  rw [buildTables, Act.run_bind, run_logAll]
  rfl

end EnumTables
