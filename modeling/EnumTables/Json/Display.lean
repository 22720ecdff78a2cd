import EnumTables.Decimal.Layout
import EnumTables.Json.Basic

/-!
# JSON values in messages

Inside a message a text stands as it is, and every other value is shown with its items and members
in brackets, texts inside it quoted, and `None`, `True` and `False` for the three constants.
-/

namespace EnumTables.Json

mutual

/-- A value as it is shown inside another one. -/
def inspect : Json → String
  | .null => "None"
  | .bool b => if b then "True" else "False"
  | .int n => toString n
  | .float x => Decimal.renderFloat x
  | .str s => s.quoted
  | .arr items => "[" ++ ", ".intercalate (inspectItems items) ++ "]"
  | .obj members => "\x7b" ++ ", ".intercalate (inspectMembers members) ++ "\x7d"

/-- The items of an array as they are shown. -/
def inspectItems : List Json → List String
  | [] => []
  | v :: rest => inspect v :: inspectItems rest

/-- The members of an object as they are shown. -/
def inspectMembers : List (RawText × Json) → List String
  | [] => []
  | (name, v) :: rest => (name.quoted ++ ": " ++ inspect v) :: inspectMembers rest

end

/-- A value as it stands in a message. -/
def display : Json → RawText
  | .str s => s
  | v => inspect v

end EnumTables.Json
