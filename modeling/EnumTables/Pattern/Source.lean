import EnumTables.Pattern.Basic
import EnumTables.Pattern.Error

/-!
# The written form of a pattern

A written pattern is a row of tokens, each a character or a backslash with the character behind it.
Reading goes on token by token, and keeps what was learnt of flags and groups on the way.
-/

namespace EnumTables.Pattern

/-- A character, or a backslash with the character behind it. -/
inductive Token where
  | plain (c : Char)
  | escaped (c : Char)
deriving DecidableEq, Repr

namespace Token

/-- A token as it is written. -/
def written : Token → String
  | .plain c => String.ofList [c]
  | .escaped c => String.ofList ['\\', c]

def length (t : Token) : Nat := t.written.length

/-- The character of a token that is one and satisfies a condition. -/
def char? (p : Char → Bool) : Token → Option Char
  | .plain c => if p c then some c else none
  | .escaped _ => none

end Token

/-- The tokens of a text, and whether a single backslash is left at its end. -/
def tokens : List Char → List Token × Bool
  | [] => ([], false)
  | ['\\'] => ([], true)
  | '\\' :: c :: cs =>
    let (ts, lone) := tokens cs
    (.escaped c :: ts, lone)
  | c :: cs =>
    let (ts, lone) := tokens cs
    (.plain c :: ts, lone)

/-- The letters of the flags that are set. -/
abbrev Flags := List Char

/-- The letters of all flags. -/
def flagLetters : List Char := ['i', 'L', 'm', 's', 'x', 'a', 't', 'u']

/-- The letters of which one at most is set. -/
def characterFlags : List Char := ['a', 'L', 'u']

/-- Flags after some were set and some taken back. -/
def Flags.change (flags on off : Flags) : Flags :=
  let kept := if on.any characterFlags.contains then
      flags.filter (!characterFlags.contains ·)
    else flags
  (kept ++ on).filter (!off.contains ·)

/-- Whether only characters of ASCII are digits, words and blanks. -/
def Flags.ascii (flags : Flags) : Bool := flags.contains 'a'

/-- How the case of characters is treated. -/
def Flags.folding (flags : Flags) : Folding :=
  if !flags.contains 'i' then .exact else if flags.ascii then .ascii else .full

/-- Where reading stands, and what was learnt on the way. -/
structure Source where
  /-- The tokens that are left. -/
  rest : List Token
  /-- The characters before these. -/
  position : Nat := 0
  /-- Whether a single backslash comes behind all tokens. -/
  lone : Bool
  /-- The flags that hold everywhere. -/
  flags : Flags := []
  /-- The widths of the groups, from the first one on, as far as they are closed. -/
  widths : List (Option Width) := []
  /-- The names of groups. -/
  names : List (String × Nat) := []
  /-- The number of the next group when the outermost condition on what stands before began. -/
  behind : Option Nat := none
  /-- The groups that conditions ask for, and where. -/
  asked : List (Nat × Nat) := []

/-- A step of reading. -/
abbrev Reading := StateT Source (Except Failure)

/-- Fail at a place. -/
def failAt {α : Type} (position : Nat) (cause : Cause) : Reading α :=
  throw ⟨cause, some position⟩

/-- Fail a number of characters before the place that was reached. -/
def failBack {α : Type} (count : Nat) (cause : Cause) : Reading α := do
  failAt ((← get).position - count) cause

/-- Fail at a single backslash if it comes next. -/
def checkEnd : Reading Unit := do
  let s ← get
  if s.rest.isEmpty && s.lone then failAt s.position .loneBackslash

/-- The next token, which is left there. -/
def peek? : Reading (Option Token) := do return (← get).rest.head?

/-- Take the next token. -/
def next? : Reading (Option Token) := do
  let s ← get
  match s.rest with
  | [] => return none
  | t :: ts =>
    set { s with rest := ts, position := s.position + t.length }
    checkEnd
    return some t

/-- Take the next token if it is this character. -/
def found (c : Char) : Reading Bool := do
  if (← peek?) = some (.plain c) then
    let _ ← next?
    return true
  else return false

/-- Take characters of a kind, at most `count`. -/
def takeWhile (p : Char → Bool) : Nat → Reading (List Char)
  | 0 => return []
  | count + 1 => do
    match (← peek?).bind (Token.char? p) with
    | some c =>
      let _ ← next?
      return c :: (← takeWhile p count)
    | none => return []

/-- Take what comes before a closing character, and that character; `taken` was taken before. -/
def takeUntil (closing : Char) (what : String) : Nat → List Char → Reading String
  | 0, _ => failBack 0 (.missing what)
  | fuel + 1, taken => do
    match ← next? with
    | none =>
      if taken.isEmpty then failBack 0 (.missing what)
      else failBack taken.length (.unterminatedName closing)
    | some t =>
      if t = .plain closing then
        if taken.isEmpty then failBack 1 (.missing what) else return String.ofList taken
      else takeUntil closing what fuel (taken ++ t.written.toList)

/-- The name or number before a closing character. -/
def takeName (closing : Char) (what : String) : Reading String := do
  takeUntil closing what ((← get).rest.length + 1) []

/-- The number of a numeral in a base up to sixteen. -/
def numeral (base : Nat) (cs : List Char) : Nat :=
  cs.foldl (fun n c ↦ n * base + (Text.hexValue? c).getD 0) 0

/-- Open a group, perhaps with a name. -/
def openGroup (name? : Option String) : Reading Nat := do
  let s ← get
  let number := s.widths.length + 1
  match name? with
  | some name =>
    if let some earlier := s.names.lookup name then
      failBack (name.length + 1) (.repeatedName name number earlier)
    set { s with widths := s.widths ++ [none], names := (name, number) :: s.names }
  | none => set { s with widths := s.widths ++ [none] }
  return number

/-- Close a group. -/
def closeGroup (number : Nat) (w : Width) : Reading Unit :=
  modify fun s ↦ { s with widths := s.widths.set (number - 1) (some w) }

/-- The width of a group that is closed. -/
def widthOf? (number : Nat) : Reading (Option Width) := do
  return ((← get).widths[number - 1]?).join

/-- Fail if a group must not be referred to inside a condition on what stands before. -/
def checkBehind (number : Nat) : Reading Unit := do
  if let some limit := (← get).behind then
    if (← widthOf? number).isNone then failBack 0 .openGroup
    if limit ≤ number then failBack 0 .groupBehind

/-- A reference to a group, whose written form has been taken; it begins `length` characters
before. -/
def reference (flags : Flags) (number length : Nat) : Reading Pattern := do
  match ← widthOf? number with
  | none => failBack length .openGroup
  | some w =>
    checkBehind number
    return .back flags.folding number w

end EnumTables.Pattern
