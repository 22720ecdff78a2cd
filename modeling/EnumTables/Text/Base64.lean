/-!
# Base64

The lenient reading of base64: characters outside the alphabet are skipped, and padding ends the
text as soon as it completes a group of four.
-/

namespace EnumTables.Text.Base64

/-- Why a text is not base64. -/
inductive Error where
  /-- A character is not ASCII. -/
  | notAscii
  /-- The last group holds a single data character; `count` data characters were read. -/
  | loneCharacter (count : Nat)
  /-- The last group is cut short and not padded. -/
  | incorrectPadding
deriving DecidableEq, Repr

/-- The value of a character of the alphabet. -/
def value? (c : Char) : Option Nat :=
  if 'A' ≤ c ∧ c ≤ 'Z' then some (c.toNat - 65)
  else if 'a' ≤ c ∧ c ≤ 'z' then some (c.toNat - 71)
  else if '0' ≤ c ∧ c ≤ '9' then some (c.toNat + 4)
  else if c = '+' then some 62
  else if c = '/' then some 63
  else none

/-- A group of four data characters that is under way. -/
structure Group where
  /-- How many of its characters were read, below four. -/
  size : Nat
  /-- How many padding characters followed the last data character. -/
  pads : Nat
  /-- The bits read and not yet written. -/
  bits : Nat

/-- The group before its first character. -/
def Group.empty : Group := ⟨0, 0, 0⟩

/-- Read six bits into a group; each but the first six complete a byte. -/
def Group.push (g : Group) (v : Nat) : List UInt8 × Group :=
  match g.size with
  | 0 => ([], ⟨1, 0, v⟩)
  | 1 => ([UInt8.ofNat (g.bits * 4 + v / 16)], ⟨2, 0, v % 16⟩)
  | 2 => ([UInt8.ofNat (g.bits * 16 + v / 4)], ⟨3, 0, v % 4⟩)
  | _ => ([UInt8.ofNat (g.bits * 64 + v)], .empty)

/-- Read the characters that follow a group, of whose predecessors `written` bytes came. -/
def decodeFrom (g : Group) (written : Nat) : List Char → Except Error (List UInt8)
  | [] =>
    if g.size = 0 then .ok []
    else if g.size = 1 then .error (.loneCharacter (written / 3 * 4 + 1))
    else .error .incorrectPadding
  | c :: cs =>
    if c = '=' then
      if g.size < 2 then decodeFrom g written cs
      else if 4 ≤ g.size + (g.pads + 1) then .ok []
      else decodeFrom ⟨g.size, g.pads + 1, g.bits⟩ written cs
    else match value? c with
      | none => decodeFrom g written cs
      | some v =>
        (decodeFrom (g.push v).2 (written + (g.push v).1.length) cs).map ((g.push v).1 ++ ·)

/-- The bytes that a base64 text stands for. -/
def decode (s : String) : Except Error (List UInt8) :=
  if s.toList.all (·.toNat < 0x80) then decodeFrom .empty 0 s.toList else .error .notAscii

/-- What is wrong, in words. -/
def Error.message : Error → String
  | .notAscii => "string argument should contain only ASCII characters"
  | .loneCharacter n =>
    s!"Invalid base64-encoded string: number of data characters ({n}) " ++
      "cannot be 1 more than a multiple of 4"
  | .incorrectPadding => "Incorrect padding"

/-- A character outside the alphabet, other than padding, is skipped. -/
theorem decodeFrom_skip {c : Char} (hc : c ≠ '=') (hv : value? c = none) (g : Group) (n : Nat)
    (cs : List Char) : decodeFrom g n (c :: cs) = decodeFrom g n cs := by
  simp [decodeFrom, hc, hv]

end EnumTables.Text.Base64
