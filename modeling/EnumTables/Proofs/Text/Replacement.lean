import EnumTables.Proofs.Text.Character
import EnumTables.Proofs.Text.Utf8
import Mathlib.Algebra.Group.Nat.Defs

/-!
# ASCII between ill-formed bytes

Main statement: whatever bytes are decoded, well-formed or not, the ASCII of the text is the ASCII
of the bytes, in its order.  A byte of ASCII continues no character: it ends the one under way and
is read again, and what came before it leaves a replacement behind that is not ASCII.  A longer
character is not ASCII either, as the bounds of the byte behind the first one shut out every value
that fits into fewer bytes.
-/

namespace EnumTables.Text

/-- The ASCII among code points or bytes. -/
def ascii (codes : List Nat) : List Nat := codes.filter (· < 0x80)

theorem ascii_append (cs ds : List Nat) : ascii (cs ++ ds) = ascii cs ++ ascii ds :=
  List.filter_append ..

theorem ascii_cons_of_le {code : Nat} (h : 0x80 ≤ code) (cs : List Nat) :
    ascii (code :: cs) = ascii cs :=
  List.filter_cons_of_neg (by simpa using h)

namespace Utf8

variable {b low high : UInt8} {bytes seen : List UInt8} {state : State} {owed code d v : Nat}

/-! ## Pieces -/

/-- The code point of the character that a piece is decoded to. -/
def Piece.codePoint (p : Piece) : Nat := p.toChar.toNat

theorem Piece.codePoint_char (valid : v.isValidChar) : (Piece.char (Char.ofNat v)).codePoint = v :=
  toNat_ofNat valid

/-- A replacement is not ASCII. -/
theorem ascii_malformed (why : Malformation) (seen : List UInt8) (ps : List Piece) :
    ascii ((Piece.malformed why seen :: ps).map Piece.codePoint) =
      ascii (ps.map Piece.codePoint) := by
  have replaced : (Piece.malformed why seen).codePoint = 0xFFFD := rfl
  rw [List.map_cons, replaced, ascii_cons_of_le (by decide)]

/-! ## States -/

/-- The values that a character under way may still turn out to have: the next byte gives six bits
within its bounds, and every byte behind it six more. -/
def MayYield (owed : Nat) (low high : UInt8) (code v : Nat) : Prop :=
  code * 64 + low.toNat ≤ v / 64 ^ owed + 0x80 ∧ v / 64 ^ owed + 0x80 ≤ code * 64 + high.toNat

/-- No byte of ASCII continues the character under way, and all that it may turn out to be are
characters beyond ASCII. -/
def State.IsBeyondAscii : State → Prop
  | .start => True
  | .pending owed low high code _ =>
    0x80 ≤ low.toNat ∧ ∀ v, MayYield owed low high code v → 0x80 ≤ v ∧ v.isValidChar

theorem isBeyondAscii_two (least : 2 ≤ d) (below : d < 32) :
    (State.pending 0 0x80 0xBF d seen).IsBeyondAscii := by
  refine ⟨by decide, fun v ⟨from_low, to_high⟩ ↦ ?_⟩
  simp only [UInt8.reduceToNat, pow_zero, Nat.div_one] at from_low to_high
  exact ⟨by omega, .inl (by omega)⟩

theorem isBeyondAscii_three (below : d < 16) (low_eq : low.toNat = if d = 0 then 0xA0 else 0x80)
    (high_eq : high.toNat = if d = 13 then 0x9F else 0xBF) :
    (State.pending 1 low high d seen).IsBeyondAscii := by
  have low_least : 0x80 ≤ low.toNat := by split at low_eq <;> omega
  refine ⟨low_least, fun v ⟨from_low, to_high⟩ ↦ ?_⟩
  rw [pow_one] at from_low to_high
  have beyond : 0x80 ≤ v := by split at low_eq <;> omega
  -- The first byte `0xED` is that of the surrogates, which its bound leaves out.
  have valid : v < 0xD800 ∨ 0xDFFF < v ∧ v < 0x110000 := by split at high_eq <;> omega
  exact ⟨beyond, valid⟩

theorem isBeyondAscii_four (below : d < 5) (low_eq : low.toNat = if d = 0 then 0x90 else 0x80)
    (high_eq : high.toNat = if d = 4 then 0x8F else 0xBF) :
    (State.pending 2 low high d seen).IsBeyondAscii := by
  have low_least : 0x80 ≤ low.toNat := by split at low_eq <;> omega
  refine ⟨low_least, fun v ⟨from_low, to_high⟩ ↦ ?_⟩
  have square : 64 ^ 2 = 4096 := rfl
  rw [square] at from_low to_high
  -- The bounds leave out overlong forms behind `0xF0` and values too large behind `0xF4`.
  have longer : 0x10000 ≤ v := by split at low_eq <;> omega
  have valid : v < 0x110000 := by split at high_eq <;> omega
  exact ⟨by omega, .inr ⟨by omega, valid⟩⟩

/-! ## Steps -/

theorem ofNat_sub_add {k : Nat} (h : k ≤ b.toNat) : UInt8.ofNat (b.toNat - k + k) = b := by
  rw [Nat.sub_add_cancel h, UInt8.ofNat_toNat]

/-- A first byte completes its own character where it is ASCII, and else neither completes nor begins
a character of ASCII. -/
theorem begin_ascii (b : UInt8) :
    ascii ((begin b).1.toList.map Piece.codePoint) = ascii [b.toNat] ∧
      (begin b).2.IsBeyondAscii := by
  by_cases one : b.toNat < 0x80
  · rw [begin_of_lt (UInt8.lt_iff_toNat_lt.mpr one)]
    have code : (Piece.char (Char.ofNat b.toNat)).codePoint = b.toNat :=
      Piece.codePoint_char (.inl (by omega))
    exact ⟨by rw [Option.toList_some, List.map_singleton, code], trivial⟩
  have none_ascii : ascii [b.toNat] = [] := ascii_cons_of_le (by omega) []
  rw [none_ascii]
  by_cases two : 0xC2 ≤ b.toNat ∧ b.toNat < 0xE0
  · have begun := begin_two (d := b.toNat - 192) (by omega) (by omega)
    rw [ofNat_sub_add (by omega)] at begun
    rw [begun]
    exact ⟨rfl, isBeyondAscii_two (by omega) (by omega)⟩
  by_cases three : 0xE0 ≤ b.toNat ∧ b.toNat < 0xF0
  · obtain ⟨low, high, begun, low_eq, high_eq⟩ := begin_three (d := b.toNat - 224) (by omega)
    rw [ofNat_sub_add (by omega)] at begun
    rw [begun]
    exact ⟨rfl, isBeyondAscii_three (by omega) low_eq high_eq⟩
  by_cases four : 0xF0 ≤ b.toNat ∧ b.toNat < 0xF5
  · obtain ⟨low, high, begun, low_eq, high_eq⟩ := begin_four (d := b.toNat - 240) (by omega)
    rw [ofNat_sub_add (by omega)] at begun
    rw [begun]
    exact ⟨rfl, isBeyondAscii_four (by omega) low_eq high_eq⟩
  · have begun : begin b = (some (.malformed .invalidStart [b]), .start) := by
      simp only [begin, UInt8.lt_iff_toNat_lt, UInt8.reduceToNat]
      grind
    rw [begun]
    exact ⟨ascii_malformed .., trivial⟩

/-- A step gives the byte back where it is ASCII, and nothing of ASCII otherwise. -/
theorem step_ascii (beyond : state.IsBeyondAscii) (b : UInt8) :
    ascii ((step state b).1.map Piece.codePoint) = ascii [b.toNat] ∧
      (step state b).2.IsBeyondAscii := by
  cases state with
  | start => exact begin_ascii b
  | pending owed low high code seen =>
    obtain ⟨low_least, wide⟩ := beyond
    by_cases inside : low ≤ b ∧ b ≤ high
    · rw [step_inside inside]
      obtain ⟨least, most⟩ := inside
      rw [UInt8.le_iff_toNat_le] at least most
      rw [show ascii [b.toNat] = [] from ascii_cons_of_le (by omega) []]
      cases owed with
      | zero =>
        obtain ⟨not_ascii, valid⟩ := wide (code * 64 + (b.toNat - 0x80))
          (by rw [MayYield, pow_zero, Nat.div_one]; omega)
        refine ⟨?_, trivial⟩
        rw [List.map_singleton, Piece.codePoint_char valid]
        exact ascii_cons_of_le not_ascii []
      | succ owed =>
        refine ⟨rfl, by decide, fun v ⟨from_low, to_high⟩ ↦ wide v ?_⟩
        -- The value's leading bits, those of the bytes up to this one, are by now known.
        have known : v / 64 ^ (owed + 1) = code * 64 + (b.toNat - 0x80) := by
          rw [pow_succ, ← Nat.div_div_eq_div_mul]
          simp only [UInt8.reduceToNat] at from_low to_high
          omega
        rw [MayYield, known]
        omega
    · rw [step_outside inside]
      obtain ⟨same, next⟩ := begin_ascii b
      exact ⟨(ascii_malformed ..).trans same, next⟩

/-! ## Runs -/

theorem piecesFrom_ascii (bytes : List UInt8) {state : State} (beyond : state.IsBeyondAscii) :
    ascii ((piecesFrom state bytes).map Piece.codePoint) = ascii (bytes.map UInt8.toNat) := by
  induction bytes generalizing state with
  | nil =>
    cases state with
    | start => rfl
    | pending owed low high code seen => exact ascii_malformed ..
  | cons b bytes ih =>
    obtain ⟨same, next⟩ := step_ascii beyond b
    rw [piecesFrom_cons, List.map_append, ascii_append, same, ih next, ← ascii_append]
    rfl

/-- The ASCII of a decoded text is that of its bytes. -/
theorem ascii_decodeReplacing (bytes : List UInt8) :
    ascii ((decodeReplacing bytes).toList.map Char.toNat) = ascii (bytes.map UInt8.toNat) := by
  rw [decodeReplacing, String.toList_ofList, List.map_map]
  exact piecesFrom_ascii bytes trivial

end Utf8

end EnumTables.Text
