import EnumTables.Pattern.Source
import EnumTables.Text.Integer

/-!
# Reading patterns

The written form of a pattern: literals, escapes, sets in square brackets, repetitions, anchors,
groups of all kinds, references to groups, conditions on what stands around a place, comments and
flags.  Characters cannot be given by their names, and what is not ASCII in the name of a group must
be a word character.
-/

namespace EnumTables.Pattern

/-! ## Escapes -/

/-- The characters of a kind, or all others, as a set. -/
def classEscape? (ascii : Bool) : Char → Option CharSet
  | 'd' => some (.category ascii .digit)
  | 'D' => some (.complement (.category ascii .digit))
  | 'w' => some (.category ascii .word)
  | 'W' => some (.complement (.category ascii .word))
  | 's' => some (.category ascii .blank)
  | 'S' => some (.complement (.category ascii .blank))
  | _ => none

/-- The condition that an escape outside of sets stands for. -/
def anchorEscape? (ascii : Bool) : Char → Option Anchor
  | 'A' => some .start
  | 'Z' => some .textEnd
  | 'b' => some (.boundary ascii)
  | 'B' => some (.noBoundary ascii)
  | _ => none

/-- The control that an escape stands for. -/
def controlEscape? : Char → Option Char
  | 'a' => some '\x07'
  | 'b' => some '\x08'
  | 'f' => some '\x0C'
  | 'n' => some '\n'
  | 'r' => some '\r'
  | 't' => some '\t'
  | 'v' => some '\x0B'
  | _ => none

/-- The number of hexadecimal digits behind a letter. -/
def hexLength? : Char → Option Nat
  | 'x' => some 2
  | 'u' => some 4
  | 'U' => some 8
  | _ => none

def isOctal (c : Char) : Bool := '0' ≤ c && c ≤ '7'

/-- The code point with a number in a numeric escape that has been taken. -/
def numericEscape (written : String) (base : Nat) (ds : List Char) : Reading CodePoint := do
  let n := numeral base ds
  if n < 0x110000 then return .ofNat n else failBack written.length (.badEscape written)

/-- A code point by an escape with a fixed number of hexadecimal digits; the letter has been taken. -/
def hexEscape (letter : Char) (count : Nat) : Reading CodePoint := do
  let ds ← takeWhile (fun c ↦ (Text.hexValue? c).isSome) count
  let written := String.ofList ('\\' :: letter :: ds)
  if ds.length = count then numericEscape written 16 ds
  else failBack written.length (.incompleteEscape written)

/-- A code point by an escape with octal digits, which have been taken. -/
def octalEscape (ds : List Char) : Reading CodePoint := do
  let written := String.ofList ('\\' :: ds)
  if numeral 8 ds ≤ 0xFF then numericEscape written 8 ds
  else failBack written.length (.octalTooLarge written)

/-- A character by its name: no name is known. -/
def nameEscape : Reading CodePoint := do
  if ← found '{' then
    let name ← takeName '}' "character name"
    failBack (name.length + 4) (.unknownCharacter name)
  else failBack 0 (.missing "\x7b")

/-- The code point of an escape that means the same inside and outside of sets; the escaped character
has been taken. -/
def pointEscape (c : Char) : Reading CodePoint := do
  match controlEscape? c, hexLength? c with
  | some control, _ => return .char control
  | none, some count => hexEscape c count
  | none, none =>
    if c = 'N' then nameEscape
    else if c.isAlphanum then
      let written := String.ofList ['\\', c]
      failBack 2 (.badEscape written)
    else return .char c

/-- A pattern by an escape outside of sets; the escaped character has been taken. -/
def escape (flags : Flags) (c : Char) : Reading Pattern := do
  let point (p : CodePoint) : Pattern := .one flags.folding (.single p)
  match anchorEscape? flags.ascii c, classEscape? flags.ascii c with
  | some x, _ => return .anchor x
  | none, some s => return .one flags.folding s
  | none, none =>
    if c = '0' then
      return point (← octalEscape (c :: (← takeWhile isOctal 2)))
    else if c.isDigit then
      -- three octal digits are a character, all else refers to a group
      let second ← takeWhile Char.isDigit 1
      let third ← if isOctal c && second.any isOctal then takeWhile isOctal 1 else pure []
      let ds := c :: (second ++ third)
      if third.isEmpty then
        let number := numeral 10 ds
        if number ≤ (← get).widths.length then reference flags number (ds.length + 1)
        else failBack ds.length (.noGroup number)
      else return point (← octalEscape ds)
    else return point (← pointEscape c)

/-! ## Sets -/

/-- Read one member of a set, whose first token has been taken. -/
def member (flags : Flags) : Token → Reading (CharSet ⊕ CodePoint)
  | .plain c => return .inr (.char c)
  | .escaped c => do
    match classEscape? flags.ascii c with
    | some s => return .inl s
    | none =>
      if isOctal c then return .inr (← octalEscape (c :: (← takeWhile isOctal 2)))
      else return .inr (← pointEscape c)

/-- A member of a set as a set. -/
def memberSet : CharSet ⊕ CodePoint → CharSet
  | .inl s => s
  | .inr p => .single p

/-- Read the members of a set up to its closing bracket.  A bracket that comes `first` is a member. -/
def members (flags : Flags) (opening : Nat) : Nat → Bool → CharSet → Reading CharSet
  | 0, _, _ => failAt opening .unterminatedSet
  | fuel + 1, first, read => do
    let some low ← next? | failAt opening .unterminatedSet
    if low = .plain ']' && !first then return read
    let lower ← member flags low
    if ← found '-' then
      let some high ← next? | failAt opening .unterminatedSet
      if high = .plain ']' then
        return .union (.union read (memberSet lower)) (.single (.char '-'))
      let upper ← member flags high
      let written := low.written ++ "-" ++ high.written
      match lower, upper with
      | .inr a, .inr b =>
        if b.toNat < a.toNat then failBack written.length (.badRange written)
        else members flags opening fuel false (.union read (.range a.toNat b.toNat))
      | _, _ => failBack written.length (.badRange written)
    else members flags opening fuel false (.union read (memberSet lower))

/-- Read a set, whose opening bracket has been taken. -/
def charSet (flags : Flags) : Reading Pattern := do
  let s ← get
  let complemented ← found '^'
  let read ← members flags (s.position - 1) (s.rest.length + 1) true .none
  return .one flags.folding (if complemented then .complement read else read)

/-! ## Repetitions -/

/-- What may be repeated and what may not. -/
inductive Kind where
  | anchor
  | repetition
  | other
deriving DecidableEq, Repr

/-- A part of a pattern that was read, and its kind. -/
structure Item where
  pattern : Pattern
  kind : Kind := .other

/-- A number of repetitions beyond all that can be asked for. -/
def maxRepeat : Nat := 0xFFFFFFFF

/-- Read the bounds of a repetition, whose first character has been taken; none if an opening brace
is only a character. -/
def bounds? : Char → Reading (Option (Nat × Option Nat))
  | '*' => return some (0, none)
  | '+' => return some (1, none)
  | '?' => return some (0, some 1)
  | _ => do
    let s ← get
    if s.rest.head? = some (.plain '}') then return none
    let low ← takeWhile Char.isDigit s.rest.length
    let high ← if ← found ',' then takeWhile Char.isDigit s.rest.length else pure low
    if !(← found '}') then
      set s
      return none
    let least := numeral 10 low
    let most := if high.isEmpty then none else some (numeral 10 high)
    if maxRepeat ≤ least || most.any (maxRepeat ≤ ·) then throw ⟨.hugeRepeat, none⟩
    if most.any (· < least) then failAt s.position .reversedRepeat
    return some (least, most)

/-- Read how a repetition goes on, the mark of which has been taken. -/
def greed : Reading Greed := do
  if ← found '?' then return .lazy
  if ← found '+' then return .possessive
  return .greedy

/-- The items after the last one was repeated; the mark of the repetition begins at `start`. -/
def repeated (start : Nat) (least : Nat) (most : Option Nat) : List Item → Reading (List Item)
  | [] => failAt start .nothingToRepeat
  | last :: read => do
    match last.kind with
    | .anchor => failAt start .nothingToRepeat
    | .repetition => failAt start .multipleRepeat
    | .other =>
      return ⟨.times (← greed) least most last.pattern, .repetition⟩ :: read

/-- The items, the last first, one after the other. -/
def inOrder (read : List Item) : Pattern :=
  read.foldl (fun p i ↦ .seq i.pattern p) .empty

/-! ## Flags and names -/

/-- Whether a character that is no flag looks like one. -/
def isLetter (c : Char) : Bool := Text.isWord c && !Text.isDecimal c && c != '_'

/-- The flags of a group, and those of the whole pattern. -/
inductive FlagScope where
  | all
  | group (on off : Flags)

/-- Read flags that are taken back, the first of which is `c`. -/
def flagsOff (on : Flags) : Nat → Flags → Char → Reading FlagScope
  | 0, _, _ => failBack 0 (.missing ":")
  | fuel + 1, off, c => do
    if characterFlags.contains c then failBack 0 (.flags .undone)
    let off := off ++ [c]
    match ← next? with
    | none => failBack 0 (.missing ":")
    | some t =>
      if t = .plain ':' then
        if off.contains 't' then failBack 1 (.flags (.global false))
        if off.any on.contains then failBack 1 (.flags .onAndOff)
        return .group on off
      match t.char? flagLetters.contains with
      | some c => flagsOff on fuel off c
      | none =>
        failBack t.length
          (if (t.char? isLetter).isSome then .flags .unknown else .missing ":")

/-- Go on behind the flags that are set; `mark` comes behind them. -/
def flagsOn (on : Flags) (mark : Char) : Reading FlagScope := do
  if mark = ')' then
    modify fun s ↦ { s with flags := s.flags ++ on }
    return .all
  if on.contains 't' then failBack 1 (.flags (.global true))
  if mark = ':' then return .group on []
  match ← next? with
  | none => failBack 0 (.missing "flag")
  | some t =>
    match t.char? flagLetters.contains with
    | some c => flagsOff on ((← get).rest.length + 1) [] c
    | none =>
      failBack t.length
        (if (t.char? isLetter).isSome then .flags .unknown else .missing "flag")

/-- Read flags, the first of which is `c`. -/
def flagsFrom : Nat → Flags → Char → Reading FlagScope
  | 0, _, _ => failBack 0 (.missing "-, : or )")
  | fuel + 1, on, c => do
    if c = 'L' then failBack 0 (.flags .locale)
    let on := on ++ [c]
    if characterFlags.contains c && on.any (fun d ↦ characterFlags.contains d && d ≠ c) then
      failBack 0 (.flags .incompatible)
    match ← next? with
    | none => failBack 0 (.missing "-, : or )")
    | some t =>
      match t.char? [')', '-', ':'].contains, t.char? flagLetters.contains with
      | some mark, _ => flagsOn on mark
      | none, some c => flagsFrom fuel on c
      | none, none =>
        failBack t.length
          (if (t.char? isLetter).isSome then .flags .unknown else .missing "-, : or )")

/-- Whether a text is an identifier. -/
def isIdentifier (name : String) : Bool :=
  match name.toList with
  | [] => false
  | c :: cs => Text.isWord c && !Text.isDecimal c && cs.all Text.isWord

/-- Read the name of a group up to a closing character. -/
def groupName (closing : Char) : Reading String := do
  let name ← takeName closing "group name"
  if isIdentifier name then return name else failBack (name.length + 1) (.badName name)

/-- The group that a condition asks for. -/
def askedGroup : Reading Nat := do
  let name ← takeName ')' "group name"
  let length := name.length + 1
  let number ← if isIdentifier name then
      match (← get).names.lookup name with
      | some number => pure number
      | none => failBack length (.unknownName name)
    else
      match Text.integer? name with
      | some (.ofNat 0) => failBack length .groupZero
      | some (.ofNat number) => do
        modify fun s ↦ { s with asked := (number, s.position - length) :: s.asked }
        pure number
      | _ => failBack length (.badName name)
  checkBehind number
  return number

/-! ## Groups and alternatives -/

/-- Skip a comment up to its closing parenthesis; `start` is its beginning. -/
def skipComment (start : Nat) : Nat → Reading Unit
  | 0 => failAt start .unterminatedComment
  | fuel + 1 => do
    match ← next? with
    | none => failAt start .unterminatedComment
    | some t => if t = .plain ')' then return else skipComment start fuel

/-- Skip the rest of a line. -/
def skipLine : Nat → Reading Unit
  | 0 => return
  | fuel + 1 => do
    match ← next? with
    | none => return
    | some t => if t = .plain '\n' then return else skipLine fuel

/-- Take the parenthesis that closes a group, which begins at `start`. -/
def close (start : Nat) : Reading Unit := do
  if !(← found ')') then failAt start .missingParenthesis

/-- The blanks that do not count in a pattern with comments. -/
def isLayout (c : Char) : Bool := c == ' ' || ('\t' ≤ c && c ≤ '\r')

/-- What a group of a pattern turned out to be. -/
inductive Part where
  | item (i : Item)
  /-- A comment. -/
  | nothing
  /-- Flags for the whole pattern. -/
  | flags

mutual

/-- Read alternatives; `top` says that they are in no group, `first` that nothing was read before. -/
def alternatives : Nat → Bool → Bool → Flags → Reading Pattern
  | 0, _, _, _ => failBack 0 .unexpectedEnd
  | fuel + 1, top, first, flags => do
    let a ← sequence fuel (top && first) flags []
    if ← found '|' then
      let s ← get
      return .alt a (← alternatives fuel top false (if top then s.flags else flags))
    else return a

/-- Read the items of one alternative behind those in `read`, the last first. -/
def sequence : Nat → Bool → Flags → List Item → Reading Pattern
  | 0, _, _, _ => failBack 0 .unexpectedEnd
  | fuel + 1, first, flags, read => do
    match ← peek? with
    | none | some (.plain '|') | some (.plain ')') => return inOrder read
    | some (.escaped c) =>
      let _ ← next?
      let p ← escape flags c
      let kind : Kind := if p matches .anchor _ then .anchor else .other
      sequence fuel first flags (⟨p, kind⟩ :: read)
    | some (.plain c) =>
      let start := (← get).position
      let _ ← next?
      if flags.contains 'x' && isLayout c then sequence fuel first flags read
      else if flags.contains 'x' && c = '#' then
        skipLine ((← get).rest.length + 1)
        sequence fuel first flags read
      else if ['*', '+', '?', '{'].contains c then
        match ← bounds? c with
        | none => sequence fuel first flags (⟨.one flags.folding (.single (.char c)), .other⟩ :: read)
        | some (least, most) => sequence fuel first flags (← repeated start least most read)
      else if c = '(' then
        match ← parenthesis fuel start (first && read.isEmpty) flags with
        | .item i => sequence fuel first flags (i :: read)
        | .nothing => sequence fuel first flags read
        | .flags => do
          let s ← get
          sequence fuel first s.flags read
      else
        let multiline := flags.contains 'm'
        let i : Item ← match c with
          | '.' =>
            let s := if flags.contains 's' then .none else .single (.char '\n')
            pure ⟨.one .exact (.complement s), .other⟩
          | '^' => pure ⟨.anchor (if multiline then .lineStart else .start), .anchor⟩
          | '$' => pure ⟨.anchor (if multiline then .lineStop else .stop), .anchor⟩
          | '[' => do pure ⟨← charSet flags, .other⟩
          | c => pure ⟨.one flags.folding (.single (.char c)), .other⟩
        sequence fuel first flags (i :: read)

/-- Read what an opening parenthesis begins, which stands at `start` and has been taken; `first` says
that nothing was read before. -/
def parenthesis : Nat → Nat → Bool → Flags → Reading Part
  | 0, _, _, _ => failBack 0 .unexpectedEnd
  | fuel + 1, start, first, flags => do
    if !(← found '?') then return .item (← capture fuel start none flags)
    let some t ← next? | failBack 0 .unexpectedEnd
    match t with
    | .plain 'P' =>
      if ← found '<' then return .item (← capture fuel start (← groupName '>') flags)
      if ← found '=' then
        let name ← groupName ')'
        match (← get).names.lookup name with
        | some number => return .item ⟨← reference flags number (name.length + 1), .other⟩
        | none => failBack (name.length + 1) (.unknownName name)
      let some t ← next? | failBack 0 .unexpectedEnd
      failBack (t.length + 2) (.unknownExtension ("?P" ++ t.written))
    | .plain ':' => return .item ⟨← inside fuel start flags, .other⟩
    | .plain '>' => return .item ⟨.atomic (← inside fuel start flags), .other⟩
    | .plain '#' =>
      skipComment start ((← get).rest.length + 1)
      return .nothing
    | .plain '=' => return .item ⟨.ahead true (← inside fuel start flags), .other⟩
    | .plain '!' => return .item ⟨.ahead false (← inside fuel start flags), .other⟩
    | .plain '<' =>
      let some t ← next? | failBack 0 .unexpectedEnd
      if t = .plain '=' then return .item ⟨.behind true (← before fuel start flags), .other⟩
      if t = .plain '!' then return .item ⟨.behind false (← before fuel start flags), .other⟩
      failBack (t.length + 2) (.unknownExtension ("?<" ++ t.written))
    | .plain '(' =>
      let number ← askedGroup
      let yes ← sequence fuel false flags []
      if !(← found '|') then
        close start
        return .item ⟨.given number yes .empty, .other⟩
      let no ← sequence fuel false flags []
      if (← peek?) = some (.plain '|') then failBack 0 .threeBranches
      close start
      return .item ⟨.given number yes no, .other⟩
    | t =>
      let scope ← match t.char? flagLetters.contains with
        | some c => flagsFrom ((← get).rest.length + 1) [] c
        | none =>
          if t = .plain '-' then flagsOn [] '-'
          else failBack (t.length + 1) (.unknownExtension ("?" ++ t.written))
      match scope with
      | .all => if first then return .flags else failAt start (.flags .late)
      | .group on off => return .item ⟨← inside fuel start (flags.change on off), .other⟩

/-- Read the inside of a group and its end. -/
def inside : Nat → Nat → Flags → Reading Pattern
  | 0, _, _ => failBack 0 .unexpectedEnd
  | fuel + 1, start, flags => do
    let p ← alternatives fuel false false flags
    close start
    return p

/-- Read a group that can be referred to, perhaps by a name. -/
def capture : Nat → Nat → Option String → Flags → Reading Item
  | 0, _, _, _ => failBack 0 .unexpectedEnd
  | fuel + 1, start, name?, flags => do
    let number ← openGroup name?
    let p ← inside fuel start flags
    closeGroup number p.width
    return ⟨.group number p, .other⟩

/-- Read a condition on what stands before. -/
def before : Nat → Nat → Flags → Reading Pattern
  | 0, _, _ => failBack 0 .unexpectedEnd
  | fuel + 1, start, flags => do
    let outer := (← get).behind
    modify fun s ↦ { s with behind := outer.getD (s.widths.length + 1) }
    let p ← alternatives fuel false false flags
    modify ({ · with behind := outer })
    close start
    return p

end

/-! ## Whole patterns -/

/-- The repetition as it is named in messages. -/
def Greed.operator : Greed → String
  | .greedy => "MAX_REPEAT"
  | .lazy => "MIN_REPEAT"
  | .possessive => "POSSESSIVE_REPEAT"

/-- What a pattern cannot be used for when it was read well. -/
def check (template : Bool) : Pattern → Except Cause Unit
  | .seq a b | .alt a b | .given _ a b => do
    check template a
    check template b
  | .times g _ _ a =>
    if template then .error (.templateOperator g.operator) else check template a
  | .behind _ a =>
    if a.width.least = a.width.most then check template a else .error .variableBehind
  | .group _ a | .ahead _ a | .atomic a => check template a
  | .empty | .one .. | .back .. | .anchor _ => .ok ()

/-- Read a whole text. -/
def document (length : Nat) : Reading Pattern := do
  checkEnd
  let p ← alternatives (6 * length + 6) true true []
  let s ← get
  if s.flags.contains 'a' && s.flags.contains 'u' then throw ⟨.asciiAndUnicode, none⟩
  if !s.rest.isEmpty then failAt s.position .unbalancedParenthesis
  if let some (number, position) := s.asked.reverse.find? (s.widths.length < ·.1) then
    failAt position (.noGroup number)
  match check (s.flags.contains 't') p with
  | .ok () => return p
  | .error cause => throw ⟨cause, none⟩

/-- Read a whole text as a pattern. -/
def ofText (s : String) : Except Error Pattern :=
  let (rest, lone) := tokens s.toList
  ((document s.length).run' { rest, lone }).mapError (Failure.locate s.toList)

end EnumTables.Pattern
