import EnumTables.Text.Ranges

/-!
# Blank characters

White space in the sense of the Unicode standard, together with the four information separators
U+001C to U+001F.  The zero-width space and the byte-order mark are not blank.
-/

namespace EnumTables.Text

/-- The blank characters, as closed ranges of code points. -/
def blanks : Ranges :=
  [(0x9, 0xD), (0x1C, 0x20), (0x85, 0x85), (0xA0, 0xA0), (0x1680, 0x1680), (0x2000, 0x200A),
   (0x2028, 0x2029), (0x202F, 0x202F), (0x205F, 0x205F), (0x3000, 0x3000)]

/-- Whether a character is white space. -/
def isBlank (c : Char) : Bool := blanks.holds c

/-- A text without its leading blanks. -/
def trimLeft (cs : List Char) : List Char := cs.dropWhile isBlank

/-- A text without its trailing blanks. -/
def trimRight (cs : List Char) : List Char := (cs.reverse.dropWhile isBlank).reverse

/-- A text without the blanks at its two ends. -/
def trim (s : String) : String := String.ofList (trimRight (trimLeft s.toList))

end EnumTables.Text
