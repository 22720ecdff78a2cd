import EnumTables.Text.Blank
import EnumTables.Text.Cluster

/-!
# Wrapping text

Text is wrapped between words, a word being a run of characters together with the blanks after it.
A word that does not fit into what is left of a line goes to the next line, its blanks not counted.
What becomes of a word that fits into no line depends on the overflow: it is folded, that is cut into
lines, or it keeps a line of its own, of which an ellipsis shows that something is missing.
-/

namespace EnumTables.Console

open Text

/-- What becomes of a word that fits into no line. -/
inductive Overflow where
  /-- The word is cut into lines. -/
  | fold
  /-- The word is cut off, with an ellipsis in the last column. -/
  | ellipsis
deriving DecidableEq, Repr

/-- Where a line stands in its space. -/
inductive Alignment where
  /-- The line is as long as its text. -/
  | free
  | left
  | centre
deriving DecidableEq, Repr

/-- The columns from one tab stop to the next. -/
def tabStop : Nat := 8

/-- Join the texts between tabs, blanks up to the next tab stop in the place of every tab; `column`
columns come before the first text.  A tab is itself a blank, measured with the text before it. -/
def joinTabs (column : Nat) : List (List Char) → List Char
  | [] => []
  | [part] => part
  | part :: parts =>
    let column := column + width (part ++ [' '])
    let more := (tabStop - column % tabStop) % tabStop
    part ++ List.replicate (more + 1) ' ' ++ joinTabs (column + more) parts

/-- Replace the tabs of a line by blanks. -/
def expandTabs (cs : List Char) : List Char := joinTabs 0 (cs.splitOnP (· = '\t'))

/-- The lines of a text, split at line feeds. -/
def lines (cs : List Char) : List (List Char) := cs.splitOnP (· = '\n')

/-- The words of a line, each with the blanks after it, the first also with those before it. -/
def wordsFrom : Nat → List Char → List (List Char)
  | 0, _ => []
  | fuel + 1, cs =>
    let lead := cs.takeWhile isBlank
    let rest := cs.dropWhile isBlank
    let body := rest.takeWhile fun c ↦ !isBlank c
    let after := rest.dropWhile fun c ↦ !isBlank c
    if body.isEmpty then []
    else (lead ++ body ++ after.takeWhile isBlank) :: wordsFrom fuel (after.dropWhile isBlank)

/-- The words of a line. -/
def words (cs : List Char) : List (List Char) := wordsFrom (cs.length + 1) cs

/-- The lines that words fill; `line` is the line under way and `used` its columns. -/
def fill (overflow : Overflow) (size : Nat) (line : List Char) (used : Nat) :
    List (List Char) → List (List Char)
  | [] => [line]
  | word :: words =>
    let bare := width (trimRight word)
    let before := if line.isEmpty then [] else [line]
    if bare + used ≤ size then fill overflow size (line ++ word) (used + width word) words
    else if size < bare && overflow = .fold then
      let pieces := chop size word
      let last := pieces.getLastD []
      before ++ pieces.dropLast ++ fill overflow size last (width last) words
    else before ++ fill overflow size word (width word) words

/-- Break a line into lines for a space of `size` columns. -/
def breakLine (overflow : Overflow) (size : Nat) (line : List Char) : List (List Char) :=
  match words line with
  | [] => [line]
  | words => fill overflow size [] 0 words

/-- A line without the blanks at its end that exceed `size` characters. -/
def dropExcess (size : Nat) (cs : List Char) : List Char :=
  let blanks := (cs.reverse.takeWhile isBlank).length
  cs.take (cs.length - min blanks (cs.length - size))

/-- A line that takes no more than `size` columns. -/
def truncate (overflow : Overflow) (size : Nat) (cs : List Char) : List Char :=
  if width cs ≤ size then cs
  else
    match overflow with
    | .fold => crop size cs
    | .ellipsis => crop (size - 1) cs ++ ['…']

/-- A line with blanks up to `size` columns. -/
def padRight (size : Nat) (cs : List Char) : List Char :=
  cs ++ List.replicate (size - width cs) ' '

/-- A line in its place in `size` columns.  In the middle it stands without the blanks at its end and
with the odd column to the right. -/
def align (alignment : Alignment) (overflow : Overflow) (size : Nat) (cs : List Char) : List Char :=
  match alignment with
  | .free => truncate overflow size cs
  | .left => padRight size (truncate overflow size cs)
  | .centre =>
    let cs := truncate overflow size (trimRight cs)
    padRight size (List.replicate ((size - width cs) / 2) ' ' ++ cs)

/-- The lines of a text in a space of `size` columns. -/
def layout (alignment : Alignment) (overflow : Overflow) (size : Nat) (cs : List Char) :
    List (List Char) :=
  (lines cs).flatMap fun line ↦
    (breakLine overflow size (expandTabs line)).map fun piece ↦
      align alignment overflow size (dropExcess size piece)

end EnumTables.Console
