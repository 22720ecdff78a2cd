import EnumTables.Text.RawText

/-!
# JSON values

Integers and floating-point numbers are kept apart, an object keeps its members in the order in
which their names were first given, and texts and names can hold surrogates.
-/

namespace EnumTables

/-- A JSON value. -/
inductive Json where
  | null
  | bool (b : Bool)
  | int (n : Int)
  | float (x : Float)
  | str (s : RawText)
  | arr (items : List Json)
  | obj (members : List (RawText × Json))
deriving Inhabited

namespace Json

/-- Give a name its value: a name that is already there keeps its place. -/
def insert (members : List (RawText × Json)) (name : RawText) (value : Json) :
    List (RawText × Json) :=
  match members with
  | [] => [(name, value)]
  | (n, v) :: rest =>
    if n = name then (n, value) :: rest else (n, v) :: insert rest name value

/-- Whether a value counts as something: null, false, zero and everything empty do not. -/
def isTruthy : Json → Bool
  | .null => false
  | .bool b => b
  | .int n => n ≠ 0
  | .float x => x != 0
  | .str s => !s.isEmpty
  | .arr items => !items.isEmpty
  | .obj members => !members.isEmpty

/-- The value of a name among members. -/
def valueOf? (members : List (RawText × Json)) (name : String) : Option Json :=
  members.lookup (.ofString name)

/-- Whether a value is this text. -/
def isText (s : String) : Json → Bool
  | .str t => t = .ofString s
  | _ => false

/-- The value was given and is this text. -/
theorem isText_iff {s : String} {v : Json} : v.isText s = true ↔ v = .str s := by
  cases v <;> simp [isText]

end Json

end EnumTables
