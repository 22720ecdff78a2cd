import EnumTables.Console.Literal.Check
import EnumTables.Text.Blank
import EnumTables.Text.Quoted

/-!
# Actions

A tag may name an action: the name of a handler with its arguments in parentheses, or the arguments
alone.  The arguments have to be literals.
-/

namespace EnumTables.Console.Action

open Text

/-- Why an action is refused. -/
structure Error where
  /-- The action as it is written. -/
  action : String
  /-- What of it was read as a literal. -/
  literal : String
  reason : Literal.Error
deriving DecidableEq, Repr

/-- Why an action is refused, in words. -/
def Error.message (e : Error) : String :=
  if e.reason = .notLiteral then s!"error parsing {quoted e.action}; {e.reason.message}"
  else s!"error parsing {quoted e.literal} in {quoted e.action}; {e.reason.message}"

/-- Characters of a handler's name. -/
def isHandlerChar (c : Char) : Bool := isWord c || c = '.'

/-- Whether a text stands between parentheses on one line. -/
def isParenthesized (cs : List Char) : Bool :=
  match cs, cs.reverse with
  | '(' :: _ :: _, ')' :: _ => !cs.contains '\n'
  | _, _ => false

/-- The arguments of an action.  A handler without arguments has none in its parentheses either. -/
def arguments (action : List Char) : List Char :=
  let rest := action.dropWhile isHandlerChar
  if rest.isEmpty then ['(', ')']
  else if isParenthesized rest then rest
  else action

/-- Check the action of a tag; a tag without one is left alone. -/
def check (action : List Char) : Except Error Unit :=
  if action.isEmpty then .ok ()
  else
    let literal := arguments (trimRight (trimLeft action))
    (Literal.check literal).mapError (⟨String.ofList action, String.ofList literal, ·⟩)

end EnumTables.Console.Action
