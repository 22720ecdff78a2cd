/-!
# Blocks of a message

What the two digest functions of this library share: words of four bytes, most significant first,
and a message padded to whole blocks of 64 bytes.
-/

namespace EnumTables.Digest

/-- The word that four bytes spell. -/
def word (a b c d : UInt8) : UInt32 :=
  a.toUInt32 <<< 24 ||| b.toUInt32 <<< 16 ||| c.toUInt32 <<< 8 ||| d.toUInt32

/-- The words that a byte string spells; up to three bytes at its end are left out. -/
def words : List UInt8 → List UInt32
  | a :: b :: c :: d :: rest => word a b c d :: words rest
  | _ => []

/-- The four bytes of a word. -/
def wordBytes (w : UInt32) : List UInt8 :=
  [(w >>> 24).toUInt8, (w >>> 16).toUInt8, (w >>> 8).toUInt8, w.toUInt8]

@[simp] theorem length_wordBytes (w : UInt32) : (wordBytes w).length = 4 := rfl

/-- A word rotated to the left by `n` bits, `0 < n < 32`. -/
def rotateLeft (w n : UInt32) : UInt32 := w <<< n ||| w >>> (32 - n)

/-- A word rotated to the right by `n` bits, `0 < n < 32`. -/
def rotateRight (w n : UInt32) : UInt32 := w >>> n ||| w <<< (32 - n)

/-- The message, a one bit, zeros up to the end of a block, and the length in bits in the last
eight bytes. -/
def pad (message : List UInt8) : List UInt8 :=
  let zeros := (64 - (message.length + 9) % 64) % 64
  let bits := message.length * 8
  message ++ 0x80 :: List.replicate zeros 0 ++
    wordBytes (UInt32.ofNat (bits / 0x100000000)) ++ wordBytes (UInt32.ofNat bits)

/-- A list in pieces of sixteen. -/
def sixteens {α : Type} : List α → List (List α)
  | [] => []
  | x :: xs => (x :: xs.take 15) :: sixteens (xs.drop 15)
termination_by xs => xs.length
decreasing_by
  simp only [List.length_drop, List.length_cons]
  omega

/-- The blocks of a padded message, as sixteen words each. -/
def blocks (message : List UInt8) : List (List UInt32) := sixteens (words (pad message))

end EnumTables.Digest
