import EnumTables.Text.RawText

/-!
# UTF-8

A byte string is read into pieces: each piece is either a character or a maximal ill-formed
subpart, the longest run of bytes that could have begun a character.  `decodeReplacing` turns every
ill-formed piece into one replacement character; `decode` stops at the first one and says where it
is and what is wrong with it; `decodeRaw?` admits no ill-formed ones but the three bytes of a
surrogate.

Surrogates, overlong forms and values above U+10FFFF are ill-formed from their second byte on.
-/

namespace EnumTables.Text.Utf8

/-- What makes a run of bytes ill-formed. -/
inductive Malformation where
  /-- The byte begins no character. -/
  | invalidStart
  /-- A byte follows that cannot continue the character. -/
  | invalidContinuation
  /-- The bytes end inside a character. -/
  | unexpectedEnd
deriving DecidableEq, Repr

/-- A piece of a byte string. -/
inductive Piece where
  | char (c : Char)
  /-- A maximal ill-formed subpart and the bytes it holds. -/
  | malformed (why : Malformation) (bytes : List UInt8)
deriving DecidableEq, Repr

/-- What the decoder knows between two bytes. -/
inductive State where
  /-- The next byte begins a character. -/
  | start
  /-- `owed + 1` bytes are missing, the first of them between `low` and `high`; `code` is the value
  of the bytes `seen` so far, which are kept in reverse. -/
  | pending (owed : Nat) (low high : UInt8) (code : Nat) (seen : List UInt8)

/-- The piece that a first byte completes, if any, and the state after it. -/
def begin (b : UInt8) : Option Piece × State :=
  if b < 0x80 then (some (.char (Char.ofNat b.toNat)), .start)
  else if b < 0xC2 then (some (.malformed .invalidStart [b]), .start)
  else if b < 0xE0 then (none, .pending 0 0x80 0xBF (b.toNat - 0xC0) [b])
  else if b < 0xF0 then
    let low := if b = 0xE0 then 0xA0 else 0x80
    let high := if b = 0xED then 0x9F else 0xBF
    (none, .pending 1 low high (b.toNat - 0xE0) [b])
  else if b < 0xF5 then
    let low := if b = 0xF0 then 0x90 else 0x80
    let high := if b = 0xF4 then 0x8F else 0xBF
    (none, .pending 2 low high (b.toNat - 0xF0) [b])
  else (some (.malformed .invalidStart [b]), .start)

/-- The pieces that a byte completes, and the state after it.  A byte that cannot continue the
character under way ends it and is read again as a first byte. -/
def step : State → UInt8 → List Piece × State
  | .start, b => let (piece, next) := begin b; (piece.toList, next)
  | .pending owed low high code seen, b =>
    if low ≤ b ∧ b ≤ high then
      let code := code * 64 + (b.toNat - 0x80)
      match owed with
      | 0 => ([.char (Char.ofNat code)], .start)
      | owed + 1 => ([], .pending owed 0x80 0xBF code (b :: seen))
    else
      let (piece, next) := begin b
      (.malformed .invalidContinuation seen.reverse :: piece.toList, next)

/-- The pieces of the bytes that follow a state. -/
def piecesFrom : State → List UInt8 → List Piece
  | .start, [] => []
  | .pending _ _ _ _ seen, [] => [.malformed .unexpectedEnd seen.reverse]
  | state, b :: bs => (step state b).1 ++ piecesFrom (step state b).2 bs

/-- The pieces of a byte string. -/
def pieces (bytes : List UInt8) : List Piece := piecesFrom .start bytes

/-- A piece as a character, with the replacement character for an ill-formed one. -/
def Piece.toChar : Piece → Char
  | .char c => c
  | .malformed _ _ => '\uFFFD'

/-- Decode a byte string, with one replacement character for each ill-formed piece. -/
def decodeReplacing (bytes : List UInt8) : String :=
  String.ofList ((pieces bytes).map Piece.toChar)

/-- The first ill-formed piece of a byte string. -/
structure Error where
  /-- What is wrong. -/
  why : Malformation
  /-- The bytes of the piece. -/
  bytes : List UInt8
  /-- The number of bytes before it. -/
  position : Nat
deriving DecidableEq, Repr

/-- What is wrong with the bytes of a piece, in words. -/
def Malformation.message : Malformation → String
  | .invalidStart => "invalid start byte"
  | .invalidContinuation => "invalid continuation byte"
  | .unexpectedEnd => "unexpected end of data"

/-- What is wrong, in words: a single byte is shown, several are given by their positions. -/
def Error.message (e : Error) : String :=
  let place := match e.bytes with
    | [b] => s!"byte 0x{String.ofList (hexDigits 2 b.toNat)} in position {e.position}"
    | bs => s!"bytes in position {e.position}-{e.position + bs.length - 1}"
  s!"'utf-8' codec can't decode {place}: {e.why.message}"

/-- The characters of well-formed pieces, or the first ill-formed one; `position` bytes came
before. -/
def charsFrom (position : Nat) : List Piece → Except Error (List Char)
  | [] => .ok []
  | .char c :: ps => (charsFrom (position + c.utf8Size) ps).map (c :: ·)
  | .malformed why bytes :: _ => .error ⟨why, bytes, position⟩

/-- Decode a byte string that must be well-formed. -/
def decode (bytes : List UInt8) : Except Error String :=
  (charsFrom 0 (pieces bytes)).map String.ofList

/-- The number among the surrogates of the one that is encoded with these two bytes behind the byte
ED. -/
def surrogate? (b c : UInt8) : Option (Fin 0x800) :=
  if 0xA0 ≤ b ∧ b < 0xC0 ∧ 0x80 ≤ c ∧ c < 0xC0 then
    some (Fin.ofNat 0x800 ((b.toNat - 0xA0) * 0x40 + (c.toNat - 0x80)))
  else none

/-- The code points of pieces; a surrogate is three ill-formed pieces. -/
def points? : List Piece → Option (List CodePoint)
  | [] => some []
  | .char c :: ps => (points? ps).map (.char c :: ·)
  | .malformed _ [0xED] :: .malformed _ [b] :: .malformed _ [c] :: ps => do
    return .surrogate (← surrogate? b c) :: (← points? ps)
  | .malformed _ _ :: _ => none

/-- Decode a byte string in which surrogates are encoded like characters. -/
def decodeRaw? (bytes : List UInt8) : Option RawText := (points? (pieces bytes)).map RawText.mk

/-- The bytes of a text. -/
def encode (s : String) : List UInt8 := s.toList.flatMap String.utf8EncodeChar

@[simp] theorem piecesFrom_cons (state : State) (b : UInt8) (bs : List UInt8) :
    piecesFrom state (b :: bs) = (step state b).1 ++ piecesFrom (step state b).2 bs := by
  cases state <;> rfl

/-- A byte of ASCII is a character by itself. -/
theorem begin_of_lt {b : UInt8} (h : b < 0x80) :
    begin b = (some (.char (Char.ofNat b.toNat)), .start) := by
  simp [begin, h]

end EnumTables.Text.Utf8
