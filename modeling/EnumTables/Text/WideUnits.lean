import EnumTables.Text.RawText

/-!
# UTF-16 and UTF-32

Decoders for the two encodings with wide units, in both byte orders.  Surrogates that are no
character are code points of the text; values above U+10FFFF and incomplete units make a byte string
undecodable.
-/

namespace EnumTables.Text

/-- The order of the bytes of a unit. -/
inductive ByteOrder where
  | big
  | little
deriving DecidableEq, Repr

/-- The units of two bytes each. -/
def units16 (order : ByteOrder) : List UInt8 → Option (List Nat)
  | [] => some []
  | [_] => none
  | a :: b :: rest =>
    let unit := match order with
      | .big => a.toNat * 256 + b.toNat
      | .little => b.toNat * 256 + a.toNat
    (units16 order rest).map (unit :: ·)

/-- The units of four bytes each. -/
def units32 (order : ByteOrder) : List UInt8 → Option (List Nat)
  | [] => some []
  | a :: b :: c :: d :: rest =>
    let unit := match order with
      | .big => ((a.toNat * 256 + b.toNat) * 256 + c.toNat) * 256 + d.toNat
      | .little => ((d.toNat * 256 + c.toNat) * 256 + b.toNat) * 256 + a.toNat
    (units32 order rest).map (unit :: ·)
  | _ => none

/-- The character of a high and a low surrogate, given by their numbers. -/
def joinSurrogates (high low : Nat) : Char :=
  Char.ofNat (0x10000 + (high - 0xD800) * 0x400 + (low - 0xDC00))

/-- The code points of 16-bit units: a high surrogate and the low one after it are one character. -/
def points16 : List Nat → List CodePoint
  | [] => []
  | [u] => [.ofNat u]
  | u :: v :: rest =>
    if 0xD800 ≤ u ∧ u < 0xDC00 ∧ 0xDC00 ≤ v ∧ v < 0xE000 then
      .char (joinSurrogates u v) :: points16 rest
    else .ofNat u :: points16 (v :: rest)

/-- The code points of 32-bit units. -/
def points32? (units : List Nat) : Option (List CodePoint) :=
  units.mapM fun u ↦ if u < 0x110000 then some (.ofNat u) else none

/-- Decode UTF-16. -/
def decode16? (order : ByteOrder) (bytes : List UInt8) : Option RawText :=
  (units16 order bytes).map fun units ↦ ⟨points16 units⟩

/-- Decode UTF-32. -/
def decode32? (order : ByteOrder) (bytes : List UInt8) : Option RawText :=
  ((units32 order bytes).bind points32?).map RawText.mk

end EnumTables.Text
