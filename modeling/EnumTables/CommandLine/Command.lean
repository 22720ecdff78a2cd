import EnumTables.CommandLine.Arguments
import EnumTables.CommandLine.Help
import EnumTables.Files
import EnumTables.Text.Integer
import EnumTables.Text.Word

/-!
# Commands

The commands of the program, and how they are read from its arguments.  A request for help comes
before every other check of a command's arguments.
-/

namespace EnumTables.CommandLine

/-- What the program is asked to do. -/
inductive Command where
  /-- Show the tables that local files would give. -/
  | parse (files : List String)
  /-- Load the enums of a commit, or only show them. -/
  | sync (owner repository sha : String) (dryRun : Bool)
  /-- Listen for deliveries. -/
  | serve (host : String) (port : Int)
deriving DecidableEq, Repr

/-- A command and whether all log records are shown. -/
structure Invocation where
  verbose : Bool
  command : Command
deriving DecidableEq, Repr

/-- Why no command is carried out. -/
inductive Stop where
  /-- Help was asked for. -/
  | help (page : Page)
  /-- There are no arguments at all. -/
  | noArguments
  | refused (page : Page) (why : Refusal)
  /-- A path holds the null character, with which nothing can be looked up. -/
  | nullInPath
deriving DecidableEq, Repr

/-- The option that asks for help. -/
def helpOption : OptionSpec := .flag "--help" none

/-- Read the arguments of a command, or of the program up to its command. -/
def readPage (page : Page) (specs : List OptionSpec) (mixed : Bool) (arguments : List String) :
    Except Stop Arguments :=
  match readArguments (helpOption :: specs) mixed arguments with
  | .error e => .error (.refused page e)
  | .ok a => if a.has "--help" then .error (.help page) else .ok a

/-- Refuse arguments that are left over. -/
def refuseExtra (page : Page) (a : Arguments) : Except Stop Unit :=
  if a.positional.isEmpty then .ok () else .error (.refused page (.extraArguments a.positional))

/-- Refuse a path at which no file stands. -/
def checkFile (files : Files) (path : String) : Except Stop Unit :=
  if path.contains '\x00' then .error .nullInPath
  else match files path with
  | none => .error (.refused .parse (.noSuchFile path))
  | some .directory => .error (.refused .parse (.isDirectory path))
  | some (.file _) => .ok ()

/-- Read the arguments of `parse`, all of which are paths of files. -/
def readParse (files : Files) (arguments : List String) : Except Stop Command := do
  let a ← readPage .parse [] true arguments
  if a.positional.isEmpty then .error (.refused .parse .missingFiles)
  else
    a.positional.forM (checkFile files)
    return .parse a.positional

/-- The value of an option that must be given. -/
def required (page : Page) (a : Arguments) (name : String) : Except Stop String :=
  match a.value? name with
  | some value => .ok value
  | none => .error (.refused page (.missingOption name))

/-- Read the arguments of `sync`. -/
def readSync (arguments : List String) : Except Stop Command := do
  let specs := [.valued "--owner", .valued "--repo", .valued "--sha", .flag "--dry-run" none]
  let a ← readPage .sync specs true arguments
  let owner ← required .sync a "--owner"
  let repository ← required .sync a "--repo"
  let sha ← required .sync a "--sha"
  refuseExtra .sync a
  return .sync owner repository sha (a.has "--dry-run")

/-- The port to listen at. -/
def portOf (a : Arguments) : Except Stop Int :=
  match a.value? "--port" with
  | none => .ok 8080
  | some s =>
    match Text.integer? s with
    | some n => .ok n
    | none => .error (.refused .serve (.notInteger "--port" s))

/-- Read the arguments of `serve`. -/
def readServe (arguments : List String) : Except Stop Command := do
  let a ← readPage .serve [.valued "--host", .valued "--port"] true arguments
  let port ← portOf a
  refuseExtra .serve a
  return .serve ((a.value? "--host").getD "127.0.0.1") port

/-- Read the arguments before the command. -/
def readProgram (arguments : List String) : Except Stop Arguments :=
  readPage .program [.flag "--verbose" (some 'v')] false arguments

/-- Whether a text looks like an option: its first character is neither a letter nor a digit. -/
def looksLikeOption (s : String) : Bool :=
  match s.toList with
  | [] => false
  | c :: _ => !Text.isWord c || c = '_'

/-- The names of the commands. -/
def commandNames : List String := ["parse", "sync", "serve"]

/-- Read a command with its arguments.  An unknown command that looks like an option is read as one
first. -/
def readCommand (files : Files) (name : String) (arguments : List String) :
    Except Stop Command := do
  match name with
  | "parse" => readParse files arguments
  | "sync" => readSync arguments
  | "serve" => readServe arguments
  | _ =>
    if looksLikeOption name then
      let _ ← readProgram (name :: arguments)
    .error (.refused .program (.noSuchCommand name (Text.proposals commandNames name)))

/-- Read the arguments of the program. -/
def readInvocation (files : Files) (arguments : List String) : Except Stop Invocation := do
  if arguments.isEmpty then .error .noArguments
  else
    let a ← readProgram arguments
    match a.positional with
    | [] => .error (.refused .program .missingCommand)
    | name :: rest => return ⟨a.has "--verbose", ← readCommand files name rest⟩

end EnumTables.CommandLine
