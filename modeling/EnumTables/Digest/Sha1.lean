import EnumTables.Digest.Blocks

/-!
# SHA-1

The digest of the Secure Hash Standard with 160 bits.
-/

namespace EnumTables.Digest.Sha1

/-- The five words of the chaining state. -/
structure State where
  a : UInt32
  b : UInt32
  c : UInt32
  d : UInt32
  e : UInt32

/-- The state before the first block. -/
def initial : State := ⟨0x67452301, 0xefcdab89, 0x98badcfe, 0x10325476, 0xc3d2e1f0⟩

/-- Put `n` further words in front of a schedule that is kept in reverse. -/
def extend : Nat → List UInt32 → List UInt32
  | 0, ws => ws
  | n + 1, ws =>
    extend n
      (rotateLeft (ws.getD 2 0 ^^^ ws.getD 7 0 ^^^ ws.getD 13 0 ^^^ ws.getD 15 0) 1 :: ws)

/-- The 80 words that a block of sixteen is stretched to. -/
def schedule (block : List UInt32) : List UInt32 := (extend 64 block.reverse).reverse

/-- How round `t` mixes three words, and its constant. -/
def mix (t : Nat) (b c d : UInt32) : UInt32 × UInt32 :=
  if t < 20 then (b &&& c ||| ~~~b &&& d, 0x5a827999)
  else if t < 40 then (b ^^^ c ^^^ d, 0x6ed9eba1)
  else if t < 60 then (b &&& c ||| b &&& d ||| c &&& d, 0x8f1bbcdc)
  else (b ^^^ c ^^^ d, 0xca62c1d6)

/-- Round `t`, with its word of the schedule. -/
def State.round (s : State) (t : Nat) (w : UInt32) : State :=
  let (f, k) := mix t s.b s.c s.d
  ⟨rotateLeft s.a 5 + f + s.e + k + w, s.a, rotateLeft s.b 30, s.c, s.d⟩

/-- The state after a block. -/
def State.compress (s : State) (block : List UInt32) : State :=
  let t := (schedule block).zipIdx.foldl (fun s (w, t) ↦ s.round t w) s
  ⟨s.a + t.a, s.b + t.b, s.c + t.c, s.d + t.d, s.e + t.e⟩

/-- The words of a state in order. -/
def State.words (s : State) : List UInt32 := [s.a, s.b, s.c, s.d, s.e]

/-- The digest of a message, 20 bytes. -/
def digest (message : List UInt8) : List UInt8 :=
  ((blocks message).foldl State.compress initial).words.flatMap wordBytes

@[simp] theorem length_digest (message : List UInt8) : (digest message).length = 20 := rfl

end EnumTables.Digest.Sha1
