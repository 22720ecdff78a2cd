import EnumTables.CommandLine.Command
import EnumTables.Console.Grid
import EnumTables.Sync
import EnumTables.Text.LineEnd

/-!
# Running commands

What the commands do and print.  A run ends with an exit code; a fault that no command handles
leaves the program, an interruption with a notice and exit code 1.
-/

namespace EnumTables.CommandLine

/-- The columns of the console. -/
def consoleWidth : Nat := 1000

/-- Print a text with markup and a line feed after it. -/
def say (markup : String) : Act Unit := do
  let text ← Act.ofExcept ((Markup.render markup).mapError .markup)
  let lines := Console.layout .free .fold consoleWidth text.toList
  Act.emit (.output (String.ofList (lines.flatMap (· ++ ['\n']))))

/-- Print a table. -/
def showTable (t : EnumTable) : Act Unit := do
  let lines ← Act.ofExcept ((Console.drawTable t).mapError .markup)
  Act.emit (.output (String.ofList (lines.flatMap (· ++ ['\n']))))

/-- Print tables one after the other. -/
def showTables : List EnumTable → Act Unit
  | [] => pure ()
  | t :: ts => do
    showTable t
    showTables ts

/-- The text of a local file, which must be UTF-8. -/
def readText (path : String) : Act String := do
  match ← Act.fileAt path with
  | some (.file bytes) =>
    let text ← Act.ofExcept ((Text.Utf8.decode bytes).mapError .encoding)
    return String.ofList (Text.unifyLineEnds text.toList)
  | _ => return ""

/-- The texts of local files. -/
def readTexts : List String → Act (List String)
  | [] => pure []
  | path :: rest => do
    let text ← readText path
    let texts ← readTexts rest
    return text :: texts

/-- Show the tables that local files give. -/
def runParse (files : List String) : Act Nat := do
  let sources ← readTexts files
  let tables ← buildTables sources
  if tables.isEmpty then
    say "[warning]No enum declarations found[/]"
  else
    showTables tables
    say s!"\n[success]{tables.length} of {files.length} files declare enums[/]"
  return 0

/-- Print what came of loading a table. -/
def reportResult (schema : String) (r : LoadResult) : Act Unit :=
  let name := qualifiedName schema r.tableId
  match r.outcome with
  | .loaded rows => say s!"  [success]o[/] {name}: {rows} rows"
  | .failed message => say s!"  [error]! {name}: {Markup.escape message}[/]"

/-- Print what came of loading tables. -/
def reportResults (schema : String) : List LoadResult → Act Unit
  | [] => pure ()
  | r :: rs => do
    reportResult schema r
    reportResults schema rs

/-- Load tables and print what came of it. -/
def runLoad (schema : String) (tables : List EnumTable) : Act Nat := do
  let results ← loadTables schema tables
  reportResults schema results
  let failed := results.countP fun r ↦ !r.isLoaded
  if failed = 0 then
    say "\n[success]Sync complete[/]"
    return 0
  else
    say s!"\n[error]{failed} table(s) failed to load[/]"
    return 1

/-- Load the enums of a commit, or only show their tables. -/
def runSync (commit : Hosting.Commit) (dryRun : Bool) : Act Nat := do
  let settings := Settings.ofEnvironment (← Act.environment)
  say s!"\n[info]Syncing:[/] {commit.display}"
  say s!"[muted]Pattern: {settings.sourcePattern}[/]"
  match ← Act.attempt (Hosting.sources (.ofSettings settings) commit settings.sourcePattern) with
  | .error e =>
    if e.isTransport then
      say s!"[error]Failed to fetch sources: {e.message}[/]"
      return 1
    else Act.throw e
  | .ok sources =>
    let tables ← buildTables sources
    say s!"[info]{tables.length} of {sources.length} files declare enums[/]\n"
    if dryRun then
      showTables tables
      say "\n[muted]Dry run - no data loaded[/]"
      return 0
    else runLoad settings.targetSchema tables

/-- Listen for deliveries. -/
def runServe (host : String) (port : Int) : Act Nat := do
  Act.emit (.serve ⟨"enumwarp webhook", host, port⟩)
  return 0

/-- Carry out a command. -/
def Command.run : Command → Act Nat
  | .parse files => runParse files
  | .sync owner repository sha dryRun => runSync ⟨owner, repository, sha⟩ dryRun
  | .serve host port => runServe host port

/-- What is printed when no command is carried out. -/
def Stop.report : Stop → Act Nat
  | .help page => do
    Act.emit (.output page.help)
    return 0
  | .noArguments => do
    Act.emit (.complaint Page.program.help)
    return 2
  | .refused page why => do
    Act.emit (.complaint (page.errorText why.isFormal why.message))
    return 2
  | .nullInPath => Act.throw (.value "embedded null byte")

/-- Carry out a command; an interruption ends it with a notice. -/
def runGuarded (command : Command) : Act Nat := do
  match ← Act.attempt command.run with
  | .ok code => return code
  | .error e =>
    if e.isInterrupt then
      Act.emit (.complaint "\nAborted!\n")
      return 1
    else Act.throw e

/-- What came of running the program. -/
structure Outcome where
  exitCode : Nat
  standardOutput : String
  standardError : String
  /-- The fault that left the program. -/
  raised : Option Fault
  trace : Trace

/-- What an event prints on the standard output. -/
def outputOf : Event → String
  | .output s => s
  | _ => ""

/-- A log record as a line of text. -/
def recordLine (r : Record) : String := s!"{r.level.name}:{r.topic.name}:{r.message}\n"

/-- What an event prints on the standard error output when records from `least` on are shown. -/
def complaintOf (least : Level) : Event → String
  | .complaint s => s
  | .log r => if least.atLeast r.level then recordLine r else ""
  | _ => ""

/-- Read the arguments and carry out what they ask for; also, whether all records are shown. -/
def invoke (files : Files) (arguments : List String) : Bool × Act Nat :=
  match readInvocation files arguments with
  | .ok i => (i.verbose, runGuarded i.command)
  | .error stop => (false, stop.report)

/-- Run the program with its arguments in a world. -/
def execute (w : World) (arguments : List String) : Outcome :=
  let (verbose, act) := invoke w.files arguments
  let run := act.run w []
  let least : Level := if verbose then .debug else .warning
  let (exitCode, raised) := match run.result with
    | .ok code => (code, none)
    | .error e => (1, some e)
  { exitCode
    standardOutput := String.join (run.events.map outputOf)
    standardError := String.join (run.events.map (complaintOf least))
    raised
    trace := run.events }

end EnumTables.CommandLine
