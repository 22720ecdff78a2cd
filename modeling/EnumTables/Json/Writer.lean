import EnumTables.Decimal.Layout
import EnumTables.Json.Basic
import EnumTables.Text.Hex

/-!
# Writing JSON

The compact form: no blanks, members in the order of the object, and only quotation marks,
backslashes and controls escaped.
-/

namespace EnumTables.Json

/-- One character as it is written in a string. -/
def escapeChar : Char → List Char
  | '"' => ['\\', '"']
  | '\\' => ['\\', '\\']
  | '\x08' => ['\\', 'b']
  | '\x0C' => ['\\', 'f']
  | '\n' => ['\\', 'n']
  | '\r' => ['\\', 'r']
  | '\t' => ['\\', 't']
  | c => if c.toNat < 0x20 then '\\' :: 'u' :: Text.hexDigits 4 c.toNat else [c]

/-- A text as a JSON string; surrogates stand as they are. -/
def writeString (s : RawText) : RawText :=
  let written : CodePoint → List CodePoint
    | .char c => (escapeChar c).map .char
    | .surrogate n => [.surrogate n]
  "\"" ++ ⟨s.points.flatMap written⟩ ++ "\""

/-- A floating-point number; the three that are not finite are written as words. -/
def writeFloat (x : Float) : String :=
  if x.isNaN then "NaN"
  else if x.isInf then (if x < 0 then "-Infinity" else "Infinity")
  else Decimal.renderFloat x

mutual

/-- The compact text of a value. -/
def write : Json → RawText
  | .null => "null"
  | .bool b => if b then "true" else "false"
  | .int n => toString n
  | .float x => writeFloat x
  | .str s => writeString s
  | .arr items => "[" ++ .intercalate "," (writeItems items) ++ "]"
  | .obj members => "\x7b" ++ .intercalate "," (writeMembers members) ++ "\x7d"

/-- The compact texts of values. -/
def writeItems : List Json → List RawText
  | [] => []
  | v :: rest => write v :: writeItems rest

/-- The compact texts of members. -/
def writeMembers : List (RawText × Json) → List RawText
  | [] => []
  | (name, v) :: rest => (writeString name ++ ":" ++ write v) :: writeMembers rest

end

end EnumTables.Json
