import EnumTables.Text.Blank
import EnumTables.Text.Digit

/-!
# Written integers

An integer in decimal notation: blanks around it do not count, a sign may come first, the digits may
be of any script, and single underscores may stand between digits.
-/

namespace EnumTables.Text

/-- The most digits that a written integer may have. -/
def maxIntegerDigits : Nat := 4300

/-- The values of digits, the first of which is at the head of the text; an underscore stands only
between two digits. -/
def digitValues? : List Char → Option (List Nat)
  | [] => none
  | [c] => (digitValue? c).map ([·])
  | c :: '_' :: cs => do return (← digitValue? c) :: (← digitValues? cs)
  | c :: cs => do return (← digitValue? c) :: (← digitValues? cs)

/-- The number that decimal digits spell. -/
def digitsNumber (ds : List Nat) : Nat := ds.foldl (fun n d ↦ n * 10 + d) 0

/-- The number of an unsigned numeral. -/
def natural? (cs : List Char) : Option Nat := do
  let ds ← digitValues? cs
  if ds.length ≤ maxIntegerDigits then some (digitsNumber ds) else none

/-- Blanks that may stand around an integer: all but the four information separators. -/
def isIntegerBlank (c : Char) : Bool := isBlank c && !(0x1C ≤ c.toNat && c.toNat ≤ 0x1F)

/-- The integer that a text spells. -/
def integer? (s : String) : Option Int :=
  let cs := ((s.toList.dropWhile isIntegerBlank).reverse.dropWhile isIntegerBlank).reverse
  match cs with
  | '-' :: cs => (natural? cs).map fun n ↦ -(n : Int)
  | '+' :: cs => (natural? cs).map fun n ↦ (n : Int)
  | cs => (natural? cs).map fun n ↦ (n : Int)

end EnumTables.Text
