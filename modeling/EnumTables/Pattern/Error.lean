import EnumTables.Text.Quoted

/-!
# Texts that are no patterns

Why a text is no pattern, in words, and where.
-/

namespace EnumTables.Pattern

/-- What is wrong with the flags of a pattern. -/
inductive FlagError where
  /-- Flags that hold everywhere stand behind something else. -/
  | late
  | locale
  | incompatible
  | unknown
  | global (on : Bool)
  /-- A flag that cannot be taken back is. -/
  | undone
  | onAndOff
deriving DecidableEq, Repr

/-- Why a text is not a pattern. -/
inductive Cause where
  | missingParenthesis
  | unbalancedParenthesis
  | unterminatedSet
  | unterminatedComment
  | nothingToRepeat
  | multipleRepeat
  | reversedRepeat
  | hugeRepeat
  | badEscape (written : String)
  | incompleteEscape (written : String)
  | octalTooLarge (written : String)
  | loneBackslash
  | badRange (written : String)
  | unknownExtension (written : String)
  | unexpectedEnd
  /-- Something is missing. -/
  | missing (what : String)
  | unterminatedName (closing : Char)
  | badName (name : String)
  | unknownName (name : String)
  | repeatedName (name : String) (number earlier : Nat)
  | unknownCharacter (name : String)
  | noGroup (number : Nat)
  | groupZero
  | openGroup
  /-- A group of a condition on what stands before is referred to in the same condition. -/
  | groupBehind
  | threeBranches
  | flags (e : FlagError)
  /-- The characters of all scripts and those of ASCII alone are both asked for. -/
  | asciiAndUnicode
  | variableBehind
  /-- A repetition in a pattern that was declared to have none. -/
  | templateOperator (name : String)
deriving DecidableEq, Repr

/-- What is wrong with flags, in words. -/
def FlagError.message : FlagError → String
  | .late => "global flags not at the start of the expression"
  | .locale => "bad inline flags: cannot use 'L' flag with a str pattern"
  | .incompatible => "bad inline flags: flags 'a', 'u' and 'L' are incompatible"
  | .unknown => "unknown flag"
  | .global true => "bad inline flags: cannot turn on global flag"
  | .global false => "bad inline flags: cannot turn off global flag"
  | .undone => "bad inline flags: cannot turn off flags 'a', 'u' and 'L'"
  | .onAndOff => "bad inline flags: flag turned on and off"

/-- A cause in words. -/
def Cause.message : Cause → String
  | .missingParenthesis => "missing ), unterminated subpattern"
  | .unbalancedParenthesis => "unbalanced parenthesis"
  | .unterminatedSet => "unterminated character set"
  | .unterminatedComment => "missing ), unterminated comment"
  | .nothingToRepeat => "nothing to repeat"
  | .multipleRepeat => "multiple repeat"
  | .reversedRepeat => "min repeat greater than max repeat"
  | .hugeRepeat => "the repetition number is too large"
  | .badEscape written => s!"bad escape {written}"
  | .incompleteEscape written => s!"incomplete escape {written}"
  | .octalTooLarge written => s!"octal escape value {written} outside of range 0-0o377"
  | .loneBackslash => "bad escape (end of pattern)"
  | .badRange written => s!"bad character range {written}"
  | .unknownExtension written => s!"unknown extension {written}"
  | .unexpectedEnd => "unexpected end of pattern"
  | .missing what => s!"missing {what}"
  | .unterminatedName closing => s!"missing {closing}, unterminated name"
  | .badName name => s!"bad character in group name {Text.quoted name}"
  | .unknownName name => s!"unknown group name {Text.quoted name}"
  | .repeatedName name number earlier =>
    s!"redefinition of group name {Text.quoted name} as group {number}; was group {earlier}"
  | .unknownCharacter name => s!"undefined character name {Text.quoted name}"
  | .noGroup number => s!"invalid group reference {number}"
  | .groupZero => "bad group number"
  | .openGroup => "cannot refer to an open group"
  | .groupBehind => "cannot refer to group defined in the same lookbehind subpattern"
  | .threeBranches => "conditional backref with more than two branches"
  | .flags e => e.message
  | .asciiAndUnicode => "ASCII and UNICODE flags are incompatible"
  | .variableBehind => "look-behind requires fixed-width pattern"
  | .templateOperator name => s!"internal: unsupported template operator {name}"

/-- A text that is not a pattern: the cause and its place, counted in characters, if it has one. -/
structure Error where
  cause : Cause
  position : Option Nat
  /-- The line and the column of the place, counted from one, in a text of more than one line. -/
  line : Option (Nat × Nat)
deriving DecidableEq, Repr

/-- A failure to read: its cause and its place. -/
structure Failure where
  cause : Cause
  position : Option Nat

/-- The failure with the line of its place in `text`. -/
def Failure.locate (text : List Char) (f : Failure) : Error :=
  let before := text.take (f.position.getD 0)
  let line := (before.count '\n' + 1, (before.reverse.takeWhile (· ≠ '\n')).length + 1)
  ⟨f.cause, f.position, if f.position.isSome && text.contains '\n' then some line else none⟩

/-- What is wrong and where, in words. -/
def Error.message (e : Error) : String :=
  let place := match e.position with
    | some n => s!" at position {n}"
    | none => ""
  let line := match e.line with
    | some (line, column) => s!" (line {line}, column {column})"
    | none => ""
  e.cause.message ++ place ++ line

end EnumTables.Pattern
