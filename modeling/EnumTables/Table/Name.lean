import EnumTables.Text.Lowercase

/-!
# Table names

A table is named after its enum: every capital letter of ASCII but the first character begins a new
segment, segments are joined by underscores, and the whole is put in lower case.
-/

namespace EnumTables

/-- An underscore before every ASCII capital. -/
def splitCapitals (cs : List Char) : List Char :=
  cs.flatMap fun c ↦ if c.isUpper then ['_', c] else [c]

/-- The lower-case form of a name with its segments separated by underscores. -/
def snakeCase (name : String) : String :=
  match name.toList with
  | [] => ""
  | c :: cs => String.ofList (Text.lower (c :: splitCapitals cs))

/-- A table's name together with its schema's, for messages. -/
def qualifiedName (schema table : String) : String := schema ++ "." ++ table

end EnumTables
