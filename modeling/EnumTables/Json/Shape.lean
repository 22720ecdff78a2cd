import EnumTables.Json.Basic

/-!
# Values of unexpected shape

Looking into a JSON value that came from outside: members, items and texts, each with the error
that says how the value is not of the expected shape.
-/

namespace EnumTables.Json

/-- The kinds of JSON values. -/
inductive Kind where
  | null
  | bool
  | int
  | float
  | str
  | arr
  | obj
deriving DecidableEq, Repr

/-- The kind of a value. -/
def kind : Json → Kind
  | .null => .null
  | .bool _ => .bool
  | .int _ => .int
  | .float _ => .float
  | .str _ => .str
  | .arr _ => .arr
  | .obj _ => .obj

/-- A kind by the name it has in messages. -/
def Kind.name : Kind → String
  | .null => "NoneType"
  | .bool => "bool"
  | .int => "int"
  | .float => "float"
  | .str => "str"
  | .arr => "list"
  | .obj => "dict"

/-- How a value is not of the expected shape. -/
inductive ShapeError where
  /-- An object lacks a member. -/
  | missingMember (name : String)
  /-- A value that must be an object is of another kind. -/
  | notObject (kind : Kind)
  /-- A member was asked of a value that has neither members nor items. -/
  | notIndexable (kind : Kind)
  /-- A member was asked of an array. -/
  | arrayIndex
  /-- A member was asked of a text. -/
  | textIndex
  /-- Items were asked of a value that has none. -/
  | notIterable (kind : Kind)
  /-- A text to search in is of another kind. -/
  | notSearchable (kind : Kind)
  /-- A text to decode is of another kind. -/
  | notDecodable (kind : Kind)
deriving DecidableEq, Repr

/-- What is wrong, in words. -/
def ShapeError.message : ShapeError → String
  | .missingMember name => Text.quoted name
  | .notObject kind => s!"'{kind.name}' object has no attribute 'get'"
  | .notIndexable kind => s!"'{kind.name}' object is not subscriptable"
  | .arrayIndex => "list indices must be integers or slices, not str"
  | .textIndex => "string indices must be integers, not 'str'"
  | .notIterable kind => s!"'{kind.name}' object is not iterable"
  | .notSearchable kind => s!"expected string or bytes-like object, got '{kind.name}'"
  | .notDecodable kind =>
    s!"argument should be a bytes-like object or ASCII string, not '{kind.name}'"

/-- The member of an object that may lack it. -/
def get? (v : Json) (name : String) : Except ShapeError (Option Json) :=
  match v with
  | .obj members => .ok (valueOf? members name)
  | v => .error (.notObject v.kind)

/-- The member of an object that must have it. -/
def member (v : Json) (name : String) : Except ShapeError Json :=
  match v with
  | .obj members =>
    match valueOf? members name with
    | some w => .ok w
    | none => .error (.missingMember name)
  | .arr _ => .error .arrayIndex
  | .str _ => .error .textIndex
  | v => .error (.notIndexable v.kind)

/-- The items of a value: those of an array, the characters of a text, the names of an object. -/
def elements : Json → Except ShapeError (List Json)
  | .arr items => .ok items
  | .str s => .ok (s.points.map fun p ↦ .str ⟨[p]⟩)
  | .obj members => .ok (members.map fun m ↦ .str m.1)
  | v => .error (.notIterable v.kind)

@[simp] theorem get?_obj (members : List (RawText × Json)) (name : String) :
    (obj members).get? name = .ok (valueOf? members name) := rfl

end EnumTables.Json
