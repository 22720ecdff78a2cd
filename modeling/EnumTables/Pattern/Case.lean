import EnumTables.Text.Lowercase
import EnumTables.Text.RawText

/-!
# Characters that differ in case

What a search that ignores the case takes for the same: characters with the same lower-case form, and
some lower-case characters with the same capital.
-/

namespace EnumTables.Pattern

/-- How a search treats the case of characters. -/
inductive Folding where
  | exact
  /-- The case of the letters of ASCII is ignored. -/
  | ascii
  /-- The case of all letters is ignored. -/
  | full
deriving DecidableEq, Repr

/-- The lower-case form of a single code point. -/
def Folding.lower : Folding → CodePoint → CodePoint
  | .exact, p => p
  | .ascii, .char c => .char c.toLower
  | .full, .char c => .char ((Text.lowerChar c).headD c)
  | _, p => p

/-- The lower-case characters that have the same capital as others. -/
def sharedCapitals : List (List Nat) :=
  [[0x69, 0x131], [0x73, 0x17F], [0xB5, 0x3BC], [0x345, 0x3B9, 0x1FBE], [0x390, 0x1FD3],
   [0x3B0, 0x1FE3], [0x3B2, 0x3D0], [0x3B5, 0x3F5], [0x3B8, 0x3D1], [0x3BA, 0x3F0],
   [0x3C0, 0x3D6], [0x3C1, 0x3F1], [0x3C2, 0x3C3], [0x3C6, 0x3D5], [0x432, 0x1C80],
   [0x434, 0x1C81], [0x43E, 0x1C82], [0x441, 0x1C83], [0x442, 0x1C84, 0x1C85], [0x44A, 0x1C86],
   [0x463, 0x1C87], [0x1C88, 0xA64B], [0x1E61, 0x1E9B], [0xFB05, 0xFB06]]

/-- Whether two code points are the same but for their case. -/
def Folding.alike (f : Folding) (p q : CodePoint) : Bool :=
  let a := (f.lower p).toNat
  let b := (f.lower q).toNat
  a == b || (f == .full && sharedCapitals.any fun cs ↦ cs.contains a && cs.contains b)

end EnumTables.Pattern
