import EnumTables.Text.Quoted
import EnumTables.Text.Similarity

/-!
# Arguments

The conventions of the command line.  A long option begins with two hyphens and takes its value from
the text after an equals sign or from the next argument, whatever that is; the letters after a
single hyphen are flags one by one; two hyphens alone end the options.  A single hyphen is an
ordinary argument.  An unknown long option is refused together with the known ones that it may stand
for.
-/

namespace EnumTables.CommandLine

/-- An option that a command knows. -/
inductive OptionSpec where
  /-- An option without a value, which may have a letter of its own. -/
  | flag (name : String) (letter : Option Char)
  /-- An option with a value. -/
  | valued (name : String)
deriving DecidableEq, Repr

/-- The long name of an option, with its hyphens. -/
def OptionSpec.name : OptionSpec → String
  | .flag name _ => name
  | .valued name => name

/-- Whether a letter stands for an option. -/
def OptionSpec.hasLetter (c : Char) : OptionSpec → Bool
  | .flag _ letter => letter = some c
  | .valued _ => false

/-- Why arguments are refused. -/
inductive Refusal where
  | noSuchOption (name : String) (proposals : List String)
  | missingValue (name : String)
  | unexpectedValue (name : String)
  | noSuchCommand (name : String) (proposals : List String)
  | missingCommand
  | missingFiles
  | missingOption (name : String)
  | extraArguments (arguments : List String)
  | noSuchFile (path : String)
  | isDirectory (path : String)
  | notInteger (name value : String)
deriving DecidableEq, Repr

/-- A name between quotation marks. -/
def inQuotes (name : String) : String := s!"'{name}'"

/-- What an unknown name may stand for, in words. -/
def proposalText : List String → String
  | [] => ""
  | [name] => s!" Did you mean {inQuotes name}?"
  | names => " (Did you mean one of: " ++ ", ".intercalate (names.map inQuotes) ++ "?)"

/-- Why arguments are refused, in words. -/
def Refusal.message : Refusal → String
  | .noSuchOption name proposals =>
    s!"No such option {Text.quoted name}.{proposalText proposals}"
  | .missingValue name => s!"Option {Text.quoted name} requires an argument."
  | .unexpectedValue name => s!"Option {Text.quoted name} does not take a value."
  | .noSuchCommand name proposals =>
    s!"No such command {Text.quoted name}.{proposalText proposals}"
  | .missingCommand => "Missing command."
  | .missingFiles => "Missing argument 'FILES...'."
  | .missingOption name => s!"Missing option '{name}'."
  | .extraArguments arguments =>
    let noun := if arguments.length = 1 then "argument" else "arguments"
    "Got unexpected extra " ++ noun ++ " (" ++ " ".intercalate arguments ++ ")"
  | .noSuchFile path => s!"Invalid value for 'FILES...': File {Text.quoted path} does not exist."
  | .isDirectory path => s!"Invalid value for 'FILES...': File {Text.quoted path} is a directory."
  | .notInteger name value =>
    s!"Invalid value for '{name}': {Text.quoted value} is not a valid integer."

/-- Whether the refusal is of an option's form, of which the usage of the command says nothing. -/
def Refusal.isFormal : Refusal → Bool
  | .missingValue _ | .unexpectedValue _ => true
  | _ => false

/-- Arguments after the options were told from the rest. -/
structure Arguments where
  /-- The options in the order in which they were given. -/
  options : List (String × Option String)
  /-- The other arguments. -/
  positional : List String
deriving DecidableEq, Repr

namespace Arguments

/-- Put options in front. -/
def addOptions (options : List (String × Option String)) (a : Arguments) : Arguments :=
  { a with options := options ++ a.options }

/-- Put another argument in front. -/
def addPositional (argument : String) (a : Arguments) : Arguments :=
  { a with positional := argument :: a.positional }

/-- Whether an option was given. -/
def has (a : Arguments) (name : String) : Bool := a.options.any (·.1 = name)

/-- The value that an option was given last. -/
def value? (a : Arguments) (name : String) : Option String :=
  (a.options.filter (·.1 = name)).getLast?.bind Prod.snd

end Arguments

/-- A long option's name and the value that is attached to it. -/
def splitLong (argument : String) : String × Option String :=
  let cs := argument.toList
  let name := String.ofList (cs.takeWhile (· ≠ '='))
  match cs.dropWhile (· ≠ '=') with
  | _ :: value => (name, some (String.ofList value))
  | [] => (name, none)

/-- The flags that letters stand for. -/
def flagsOf (specs : List OptionSpec) : List Char → Except Refusal (List (String × Option String))
  | [] => .ok []
  | c :: cs =>
    match specs.find? (·.hasLetter c) with
    | none => .error (.noSuchOption (String.ofList ['-', c]) [])
    | some spec => (flagsOf specs cs).map ((spec.name, none) :: ·)

/-- Tell the options from the other arguments.  If options may not be `mixed` with other arguments,
the first of those ends the options. -/
def readArguments (specs : List OptionSpec) (mixed : Bool) :
    List String → Except Refusal Arguments
  | [] => .ok ⟨[], []⟩
  | argument :: rest =>
    match argument.toList with
    | ['-', '-'] => .ok ⟨[], rest⟩
    | '-' :: '-' :: _ =>
      let (name, attached) := splitLong argument
      match specs.find? (·.name = name), attached, rest with
      | none, _, _ =>
        .error (.noSuchOption name (Text.proposals (specs.map OptionSpec.name) name))
      | some (.flag _ _), some _, _ => .error (.unexpectedValue name)
      | some (.flag _ _), none, rest =>
        (readArguments specs mixed rest).map (·.addOptions [(name, none)])
      | some (.valued _), some value, rest =>
        (readArguments specs mixed rest).map (·.addOptions [(name, some value)])
      | some (.valued _), none, value :: rest =>
        (readArguments specs mixed rest).map (·.addOptions [(name, some value)])
      | some (.valued _), none, [] => .error (.missingValue name)
    | '-' :: c :: cs =>
      match flagsOf specs (c :: cs) with
      | .error e => .error e
      | .ok flags => (readArguments specs mixed rest).map (·.addOptions flags)
    | _ =>
      if mixed then (readArguments specs mixed rest).map (·.addPositional argument)
      else .ok ⟨[], argument :: rest⟩
termination_by arguments => arguments.length

end EnumTables.CommandLine
