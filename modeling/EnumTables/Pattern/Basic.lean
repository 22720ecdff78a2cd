import EnumTables.Pattern.Case
import EnumTables.Text.Blank
import EnumTables.Text.Digit
import EnumTables.Text.Word

/-!
# Search patterns

Regular expressions with groups that later parts can refer to, conditions on what stands before and
behind, and repetitions that give nothing back.  The letters that change the meaning of a pattern are
resolved when it is read, so every part carries its own meaning.
-/

namespace EnumTables

namespace Pattern

/-- A kind of characters. -/
inductive Category where
  | digit
  | word
  | blank
deriving DecidableEq, Repr

/-- Whether a code point is of a kind, or, of ASCII alone, in that kind. -/
def Category.holds (ascii : Bool) : Category → CodePoint → Bool
  | .digit, .char c => if ascii then c.isDigit else Text.isDecimal c
  | .word, .char c => Text.isWord c && (!ascii || c.toNat < 0x80)
  | .blank, .char c => if ascii then c == ' ' || ('\t' ≤ c && c ≤ '\r') else Text.isBlank c
  | _, .surrogate _ => false

/-- A set of code points inside a pattern. -/
inductive CharSet where
  /-- The code points between two numbers. -/
  | range (first last : Nat)
  | category (ascii : Bool) (c : Category)
  | union (a b : CharSet)
  | none
  | complement (a : CharSet)
deriving DecidableEq, Repr

/-- Whether a code point is in a set. -/
def CharSet.holds (f : Folding) : CharSet → CodePoint → Bool
  | .range first last, p =>
    if f = .exact then first ≤ p.toNat && p.toNat ≤ last
    else (List.range' first (last + 1 - first)).any fun n ↦ f.alike (.ofNat n) p
  | .category ascii c, p => c.holds ascii p
  | .union a b, p => a.holds f p || b.holds f p
  | .none, _ => false
  | .complement a, p => !a.holds f p

/-- A single code point as a set. -/
def CharSet.single (p : CodePoint) : CharSet := .range p.toNat p.toNat

/-- A condition on a place in a text. -/
inductive Anchor where
  | start
  | lineStart
  /-- The end, or before a line feed that ends the text. -/
  | stop
  | lineStop
  | textEnd
  /-- Between a word character and something else. -/
  | boundary (ascii : Bool)
  /-- Between two word characters or two others. -/
  | noBoundary (ascii : Bool)
deriving DecidableEq, Repr

/-- How far a repetition goes at first, and whether it gives back what it took. -/
inductive Greed where
  | greedy
  | lazy
  | possessive
deriving DecidableEq, Repr

/-- The least and the greatest number of code points that a match can have. -/
structure Width where
  least : Nat
  most : Nat
deriving DecidableEq, Repr

end Pattern

open Pattern in
/-- A pattern. -/
inductive Pattern where
  /-- Matches the empty text. -/
  | empty
  /-- Matches one code point of a set. -/
  | one (f : Folding) (s : CharSet)
  | seq (a b : Pattern)
  /-- The first alternative is preferred. -/
  | alt (a b : Pattern)
  /-- Matches at least `least` repetitions and, if a bound is given, at most that many. -/
  | times (g : Greed) (least : Nat) (most : Option Nat) (a : Pattern)
  /-- A group that can be referred to. -/
  | group (n : Nat) (a : Pattern)
  /-- Matches what the group with this number matched; `w` is the group's width. -/
  | back (f : Folding) (n : Nat) (w : Width)
  /-- Whether the pattern matches what stands behind. -/
  | ahead (matching : Bool) (a : Pattern)
  /-- Whether the pattern matches what stands before. -/
  | behind (matching : Bool) (a : Pattern)
  /-- Only the preferred match counts. -/
  | atomic (a : Pattern)
  /-- The first pattern if the group with this number matched, else the second. -/
  | given (n : Nat) (a b : Pattern)
  | anchor (x : Anchor)
deriving Repr

namespace Pattern

/-- A width that counts as unbounded. -/
def unbounded : Nat := 0x10000000000000000

/-- The width of a pattern. -/
def width : Pattern → Width
  | .empty | .ahead .. | .behind .. | .anchor _ => ⟨0, 0⟩
  | .one .. => ⟨1, 1⟩
  | .seq a b => ⟨min (a.width.least + b.width.least) unbounded,
      min (a.width.most + b.width.most) unbounded⟩
  | .alt a b | .given _ a b =>
    ⟨min a.width.least b.width.least, max a.width.most b.width.most⟩
  | .times _ least most a =>
    let greatest := match most with
      | some most => min (a.width.most * most) unbounded
      | none => if a.width.most = 0 then 0 else unbounded
    ⟨min (a.width.least * least) unbounded, greatest⟩
  | .group _ a | .atomic a => a.width
  | .back _ _ w => w

end Pattern

end EnumTables
