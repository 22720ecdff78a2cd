import EnumTables.Text.Width

/-!
# Characters that are shown as one

On a terminal a character is shown together with what follows it: marks and other characters without
a column of their own, a joiner with the character after it, and the selector that asks for the form
of an emoji, which may widen it.  `clusters` takes a text apart into what is shown as one, and `chop`
and `crop` cut it only between these.
-/

namespace EnumTables.Text

/-- The character that joins the one after it to the one before it. -/
def joiner : Char := '\u200D'

/-- The character that asks for the emoji form of the one before it. -/
def emojiSelector : Char := '\uFE0F'

/-- The columns that the selector adds to the last character that takes any. -/
def widening : Option Char → Nat
  | some c => if textEmoji.holds c then 1 else 0
  | none => 0

/-- The last character that takes any columns, after one more. -/
def lastShown (last : Option Char) (c : Char) : Option Char :=
  if charWidth c = 0 then last else some c

/-- The columns that a text takes after a text whose last character with any columns is `last`. -/
def widthFrom (last : Option Char) : List Char → Nat
  | [] => 0
  | c :: cs =>
    if c = joiner then
      match cs with
      | [] => 0
      | _ :: cs => widthFrom last cs
    else if c = emojiSelector then widening last + widthFrom none cs
    else charWidth c + widthFrom (lastShown last c) cs

/-- The columns that a text takes. -/
def width (cs : List Char) : Nat := widthFrom none cs

/-- Characters that are shown as one. -/
structure Cluster where
  chars : List Char
  width : Nat
deriving DecidableEq, Repr

/-- A cluster with more characters at its end. -/
def Cluster.extend (k : Cluster) (cs : List Char) (columns : Nat) : Cluster :=
  ⟨k.chars ++ cs, k.width + columns⟩

/-- The clusters of a text after the cluster `before`, with that one. -/
def clustersFrom (before : Cluster) (last : Option Char) : List Char → List Cluster
  | [] => [before]
  | c :: cs =>
    if c = joiner then
      match cs with
      | [] => [before.extend [c] 0]
      | d :: cs => clustersFrom (before.extend [c, d] 0) last cs
    else if c = emojiSelector then clustersFrom (before.extend [c] (widening last)) none cs
    else if charWidth c = 0 then clustersFrom (before.extend [c] 0) last cs
    else before :: clustersFrom ⟨[c], charWidth c⟩ (some c) cs

/-- The clusters of a text.  A joiner or selector at its beginning stands for itself. -/
def clusters : List Char → List Cluster
  | [] => []
  | c :: cs =>
    if c = joiner || c = emojiSelector then clustersFrom ⟨[c], 0⟩ none cs
    else clustersFrom ⟨[c], charWidth c⟩ (lastShown none c) cs

/-- Cut clusters into pieces of at most `size` columns; `piece` is the piece under way and `used` its
columns. -/
def chopFrom (size : Nat) (piece : List Char) (used : Nat) : List Cluster → List (List Char)
  | [] => [piece]
  | k :: ks =>
    if size < used + k.width then piece :: chopFrom size k.chars k.width ks
    else chopFrom size (piece ++ k.chars) (used + k.width) ks

/-- Cut a text into pieces of at most `size` columns. -/
def chop (size : Nat) (cs : List Char) : List (List Char) := chopFrom size [] 0 (clusters cs)

/-- The first clusters up to `size` columns; a blank stands for the half of one that does not fit. -/
def cropFrom (size : Nat) : List Cluster → List Char
  | [] => []
  | k :: ks =>
    if k.width ≤ size then k.chars ++ cropFrom (size - k.width) ks
    else if size = 0 then []
    else [' ']

/-- The beginning of a text that takes `size` columns. -/
def crop (size : Nat) (cs : List Char) : List Char := cropFrom size (clusters cs)

end EnumTables.Text
