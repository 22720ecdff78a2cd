import EnumTables.Declaration.Entry

/-!
# Column types

The type of a column is inferred from the texts that occur in it: the narrowest of boolean, integer
and string that every one of them fits.
-/

namespace EnumTables

/-- The types of columns. -/
inductive ColumnType where
  | boolean
  | integer
  | string
deriving DecidableEq, Repr

namespace ColumnType

/-- The name of a type. -/
def name : ColumnType → String
  | .boolean => "boolean"
  | .integer => "integer"
  | .string => "string"

/-- Whether a text is a truth value. -/
def isBoolean (s : String) : Bool := s = "true" || s = "false"

/-- Whether a text is a run of at least one ASCII digit. -/
def isInteger (s : String) : Bool := !s.toList.isEmpty && s.toList.all Char.isDigit

/-- No text is both a truth value and a run of digits. -/
theorem isInteger_eq_false_of_isBoolean {s : String} (h : isBoolean s = true) :
    isInteger s = false := by
  simp only [isBoolean, Bool.or_eq_true, decide_eq_true_eq] at h
  rcases h with rfl | rfl <;> decide

/-- The narrowest type that all texts of a column fit.  Truth values are tried before integers, and
a column without texts is a column of strings. -/
def ofTexts (texts : List String) : ColumnType :=
  if texts.isEmpty then .string
  else if texts.all isBoolean then .boolean
  else if texts.all isInteger then .integer
  else .string

end ColumnType

/-- The texts by column.  A short row contributes only to the columns that it reaches. -/
def columns (rows : List Values) : List (List String) :=
  let width := (rows.map List.length).foldl max 0
  (List.range width).map fun i ↦ rows.filterMap (·[i]?)

/-- The types of the columns up to the longest row. -/
def columnTypes (rows : List Values) : List ColumnType := (columns rows).map ColumnType.ofTexts

/-- There is one column for each place of the longest row. -/
theorem length_columns (rows : List Values) :
    (columns rows).length = (rows.map List.length).foldl max 0 := by
  simp [columns]

end EnumTables
