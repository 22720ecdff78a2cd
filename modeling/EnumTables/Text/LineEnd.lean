/-!
# Line ends

A line may end with a line feed, a carriage return or both.
-/

namespace EnumTables.Text

/-- A text in which every line ends with a line feed alone. -/
def unifyLineEnds : List Char → List Char
  | [] => []
  | '\r' :: '\n' :: cs => '\n' :: unifyLineEnds cs
  | '\r' :: cs => '\n' :: unifyLineEnds cs
  | c :: cs => c :: unifyLineEnds cs

end EnumTables.Text
