import EnumTables.Text.Hex
import EnumTables.Text.LineEnd
import EnumTables.Text.Printable
import EnumTables.Text.Word

/-!
# Tokens of literals

A literal is a number, a text between quotation marks, a truth value, a tuple in parentheses or a
set or dictionary in braces.  This module takes a text apart into tokens, names and operators
included, so that a text that is no literal can be told what is wrong with it.
-/

namespace EnumTables.Console.Literal

open Text

/-- The notations of numbers. -/
inductive Numeral where
  | decimal
  | hexadecimal
  | octal
  | binary
  | imaginary
deriving DecidableEq, Repr

/-- The word for a notation. -/
def Numeral.name : Numeral → String
  | .decimal => "decimal"
  | .hexadecimal => "hexadecimal"
  | .octal => "octal"
  | .binary => "binary"
  | .imaginary => "imaginary"

/-- What is wrong with a text that should be a literal. -/
inductive Error where
  /-- Nothing more than that a token stands where none of its kind can. -/
  | malformed
  | missingComma
  | missingElse
  /-- A call of a statement's name without parentheses. -/
  | missingCall (name : String)
  /-- One equals sign where two or a colon and one may be meant. -/
  | assignment
  /-- A star before something that is no operand. -/
  | badStar
  /-- A star before the only operand in parentheses. -/
  | loneStar
  /-- A member of a dictionary without a colon. -/
  | missingColon
  /-- A member of a dictionary without a value. -/
  | missingValue
  | neverClosed (bracket : Char)
  | neverOpened (bracket : Char)
  /-- A bracket is closed by one of another kind; the line is given if it is another one. -/
  | mismatched (closing opening : Char) (line : Option Nat)
  | unterminatedText (triple : Bool) (line : Nat)
  | badNumeral (n : Numeral)
  | badDigit (c : Char) (n : Numeral)
  | leadingZeros
  | badCharacter (c : Char)
  | unprintableCharacter (c : Char)
  | brokenLine
  | nullCharacter
  /-- The text is well-formed, but has other parts than literals. -/
  | notLiteral
deriving DecidableEq, Repr

/-- The number of a character, in at least four hexadecimal digits. -/
def codePoint (c : Char) : String :=
  let count := if c.toNat < 0x10000 then 4 else if c.toNat < 0x100000 then 5 else 6
  "U+" ++ String.ofList ((hexDigits count c.toNat).map Char.toUpper)

/-- A name or mark between quotation marks. -/
def marked {α : Type} [ToString α] (a : α) : String := s!"'{a}'"

/-- What is wrong, in words. -/
def Error.message : Error → String
  | .malformed => "invalid syntax"
  | .missingComma => "invalid syntax. Perhaps you forgot a comma?"
  | .missingElse => "expected 'else' after 'if' expression"
  | .assignment => "invalid syntax. Maybe you meant '==' or ':=' instead of '='?"
  | .missingCall name =>
    s!"Missing parentheses in call to {marked name}. Did you mean {name}(...)?"
  | .badStar => "Invalid star expression"
  | .loneStar => "cannot use starred expression here"
  | .missingColon => "':' expected after dictionary key"
  | .missingValue => "expression expected after dictionary key and ':'"
  | .neverClosed bracket => s!"{marked bracket} was never closed"
  | .neverOpened bracket => s!"unmatched {marked bracket}"
  | .mismatched closing opening line =>
    let place := (line.map fun n ↦ s!" on line {n}").getD ""
    let opened := s!"opening parenthesis {marked opening}{place}"
    s!"closing parenthesis {marked closing} does not match {opened}"
  | .unterminatedText false line => s!"unterminated string literal (detected at line {line})"
  | .unterminatedText true line =>
    s!"unterminated triple-quoted string literal (detected at line {line})"
  | .badNumeral n => s!"invalid {n.name} literal"
  | .badDigit c n => s!"invalid digit {marked c} in {n.name} literal"
  | .leadingZeros =>
    "leading zeros in decimal integer literals are not permitted; " ++
      "use an 0o prefix for octal integers"
  | .badCharacter c => s!"invalid character {marked c} ({codePoint c})"
  | .unprintableCharacter c => s!"invalid non-printable character {codePoint c}"
  | .brokenLine => "unexpected character after line continuation character"
  | .nullCharacter => "source code string cannot contain null bytes"
  | .notLiteral => "malformed node or string"

/-- The tokens. -/
inductive Token where
  | name (text : String)
  | number (imaginary : Bool)
  | text
  | opening (bracket : Char)
  | closing (bracket : Char)
  /-- An operator or a punctuation mark. -/
  | sign (text : String)
  /-- A backslash that does not stand at the end of its line; nothing is read after it. -/
  | brokenLine
deriving DecidableEq, Repr

/-- Characters of names, to which all characters beyond ASCII belong at first. -/
def isNameChar (c : Char) : Bool := c.isAlphanum || c = '_' || 0x80 ≤ c.toNat

/-! ## Numbers -/

/-- The text after further digits, in which single underscores may stand before a digit. -/
def skipDigits (isDigit : Char → Bool) (refuse : List Char → Error) :
    List Char → Except Error (List Char)
  | [] => .ok []
  | ['_'] => .error (refuse [])
  | '_' :: c :: cs =>
    if isDigit c then skipDigits isDigit refuse cs else .error (refuse (c :: cs))
  | c :: cs => if isDigit c then skipDigits isDigit refuse cs else .ok (c :: cs)

/-- Whether a text begins with a character that would continue an ASCII name. -/
def continuesName (cs : List Char) : Bool :=
  (cs.head?.map fun c ↦ c.isAlphanum || c = '_').getD false

/-- Whether a text begins with a word that may follow a number without a blank. -/
def startsWordAfterNumber (cs : List Char) : Bool :=
  (["if", "in", "is"].any fun w ↦ w.toList.isPrefixOf cs) ||
    ["and", "else", "for", "not", "or"].any fun w ↦
      w.toList.isPrefixOf cs && !((cs.drop w.length).head?.map isNameChar).getD false

/-- Check that a number ends where the text begins. -/
def checkEnd (n : Numeral) (cs : List Char) : Except Error Unit :=
  if continuesName cs && !startsWordAfterNumber cs then .error (.badNumeral n) else .ok ()

/-- What is wrong with a numeral of a small base at the head of a text. -/
def refuseDigit (n : Numeral) : List Char → Error
  | c :: _ => if c.isDigit && n ≠ .hexadecimal then .badDigit c n else .badNumeral n
  | [] => .badNumeral n

/-- The text after a number whose base was given by its first two characters. -/
def skipRadix (n : Numeral) (isDigit : Char → Bool) (cs : List Char) :
    Except Error (Token × List Char) := do
  let started := match cs with
    | '_' :: _ => true
    | c :: _ => isDigit c
    | [] => false
  if !started then .error (refuseDigit n cs)
  else
    let rest ← skipDigits isDigit (refuseDigit n) cs
    if n ≠ .hexadecimal && (rest.head?.map Char.isDigit).getD false then .error (refuseDigit n rest)
    else
      checkEnd n rest
      return (.number false, rest)

/-- The text after more decimal digits. -/
def skipDecimal (cs : List Char) : Except Error (List Char) :=
  skipDigits Char.isDigit (fun _ ↦ .badNumeral .decimal) cs

/-- Whether the first character is a decimal digit. -/
def startsDigit (cs : List Char) : Bool := (cs.head?.map Char.isDigit).getD false

/-- The end of a number that is not whole, or may be imaginary. -/
def endNumber (cs : List Char) : Except Error (Token × List Char) :=
  match cs with
  | c :: rest =>
    if c = 'j' || c = 'J' then (checkEnd .imaginary rest).map fun _ ↦ (.number true, rest)
    else (checkEnd .decimal cs).map fun _ ↦ (.number false, cs)
  | [] => .ok (.number false, [])

/-- The exponent and the end of a number. -/
def endExponent (cs : List Char) : Except Error (Token × List Char) := do
  match cs with
  | e :: rest =>
    if e = 'e' || e = 'E' then
      match rest with
      | sign :: digits =>
        if sign = '+' || sign = '-' then
          if startsDigit digits then endNumber (← skipDecimal digits)
          else .error (.badNumeral .decimal)
        else if sign.isDigit then endNumber (← skipDecimal rest)
        else
          checkEnd .decimal cs
          return (.number false, cs)
      | [] => .error (.badNumeral .decimal)
    else endNumber cs
  | [] => endNumber cs

/-- The fraction, the exponent and the end of a number, its point taken. -/
def endFraction (cs : List Char) : Except Error (Token × List Char) := do
  if startsDigit cs then endExponent (← skipDecimal cs) else endExponent cs

/-- The number at the head of a text that begins with a digit. -/
def number (cs : List Char) : Except Error (Token × List Char) := do
  match cs with
  | '0' :: 'x' :: rest | '0' :: 'X' :: rest =>
    skipRadix .hexadecimal (fun c ↦ c.isDigit || ('a' ≤ c.toLower && c.toLower ≤ 'f')) rest
  | '0' :: 'o' :: rest | '0' :: 'O' :: rest => skipRadix .octal (fun c ↦ '0' ≤ c && c ≤ '7') rest
  | '0' :: 'b' :: rest | '0' :: 'B' :: rest => skipRadix .binary (fun c ↦ c = '0' || c = '1') rest
  | _ =>
    let rest ← skipDecimal cs
    let digits := cs.take (cs.length - rest.length)
    match rest with
    | '.' :: places => endFraction places
    | c :: _ =>
      if c = 'e' || c = 'E' || c = 'j' || c = 'J' then endExponent rest
      else whole digits rest
    | [] => whole digits []
where
  /-- The end of a whole number, which may begin with zeros only if it is zero. -/
  whole (digits rest : List Char) : Except Error (Token × List Char) := do
    if digits.head? = some '0' && digits.any (fun c ↦ c ≠ '0' && c ≠ '_') then
      .error .leadingZeros
    else
      checkEnd .decimal rest
      return (.number false, rest)

/-! ## Texts and names -/

/-- The text after a quoted text, its opening mark taken; `line` is the line that it began on. -/
def skipText (mark : Char) (line : Nat) : List Char → Except Error (List Char)
  | [] => .error (.unterminatedText false line)
  | '\\' :: '\n' :: cs => skipText mark (line + 1) cs
  | '\\' :: _ :: cs => skipText mark line cs
  | c :: cs =>
    if c = mark then .ok cs
    else if c = '\n' then .error (.unterminatedText false line)
    else skipText mark line cs

/-- The text after a quoted text between triple marks, the opening ones taken. -/
def skipTripleText (mark : Char) (line : Nat) : List Char → Except Error (List Char)
  | [] => .error (.unterminatedText true line)
  | '\\' :: '\n' :: cs => skipTripleText mark (line + 1) cs
  | '\\' :: _ :: cs => skipTripleText mark line cs
  | '\n' :: cs => skipTripleText mark (line + 1) cs
  | a :: b :: c :: cs =>
    if a = mark && b = mark && c = mark then .ok cs else skipTripleText mark line (b :: c :: cs)
  | _ :: cs => skipTripleText mark line cs

/-- The quoted text at the head of a text that begins with its mark. -/
def quotedText (line : Nat) (mark : Char) (cs : List Char) : Except Error (Token × List Char) :=
  match cs with
  | a :: b :: rest =>
    if a = mark && b = mark then (skipTripleText mark line rest).map (.text, ·)
    else (skipText mark line cs).map (.text, ·)
  | _ => (skipText mark line cs).map (.text, ·)

/-- The letters that may stand before the mark of a quoted text. -/
def textKinds : List String := ["b", "u", "r", "f", "br", "rb", "fr", "rf"]

/-- What is wrong with a character where no token begins with it. -/
def refuseChar (c : Char) : Error := if isPrintable c then .badCharacter c else .unprintableCharacter c

/-- The name at the head of a text, or the quoted text that begins with a letter. -/
def nameOrText (line : Nat) (cs : List Char) : Except Error (Token × List Char) :=
  let name := cs.takeWhile isNameChar
  let rest := cs.dropWhile isNameChar
  match rest with
  | mark :: body =>
    if (mark = '\'' || mark = '"') && textKinds.contains (String.ofList (name.map Char.toLower)) then
      quotedText line mark body
    else checked name rest
  | [] => checked name rest
where
  /-- A name of word characters only. -/
  checked (name rest : List Char) : Except Error (Token × List Char) :=
    match name.find? fun c ↦ !isWord c with
    | some c => .error (refuseChar c)
    | none => .ok (.name (String.ofList name), rest)

/-! ## The tokens of a text -/

/-- The operators and punctuation marks of more than one character, longer ones first. -/
def longSigns : List String :=
  ["**=", "//=", ">>=", "<<=", "...", "!=", "->", "==", "<=", ">=", ":=", "+=", "-=", "*=", "/=",
   "%=", "&=", "|=", "^=", "@=", "**", "//", ">>", "<<", "<>"]

/-- The operator or punctuation mark at the head of the text `c :: cs`. -/
def sign (c : Char) (cs : List Char) : Token × List Char :=
  match longSigns.find? fun s ↦ s.toList.isPrefixOf (c :: cs) with
  | some s => (.sign s, (c :: cs).drop s.length)
  | none => (.sign (String.singleton c), cs)

/-- The token at the head of the text `c :: cs`, which is no blank, and the text after it. -/
def next (line : Nat) (c : Char) (cs : List Char) : Except Error (Token × List Char) :=
  if c = '(' || c = '[' || c = '{' then .ok (.opening c, cs)
  else if c = ')' || c = ']' || c = '}' then .ok (.closing c, cs)
  else if c.isDigit then number (c :: cs)
  else if c = '.' && startsDigit cs then endFraction cs
  else if isNameChar c then nameOrText line (c :: cs)
  else if c = '\'' || c = '"' then quotedText line c cs
  else if c.toNat < 0x20 || c = '\x7F' then .error (.unprintableCharacter c)
  else .ok (sign c cs)

/-- The bracket that closes another one. -/
def closingOf (c : Char) : Char := if c = '(' then ')' else if c = '[' then ']' else '}'

/-- The open brackets after a token, each with the line that it stands on. -/
def track (line : Nat) (opened : List (Char × Nat)) : Token → Except Error (List (Char × Nat))
  | .opening c => .ok ((c, line) :: opened)
  | .closing c =>
    match opened with
    | [] => .error (.neverOpened c)
    | (o, n) :: rest =>
      if closingOf o = c then .ok rest
      else .error (.mismatched c o (if n = line then none else some n))
  | _ => .ok opened

/-- The number of line feeds in a token, which only a quoted text can have; `after` is what is left
of the text `before`. -/
def linesIn (token : Token) (before after : List Char) : Nat :=
  if token = .text then (before.take (before.length - after.length)).count '\n' else 0

/-- The tokens of a text; `opened` holds the brackets that are open before it. -/
def tokensFrom (opened : List (Char × Nat)) (line : Nat) :
    Nat → List Char → Except Error (List Token)
  | 0, _ | _, [] => .ok []
  | fuel + 1, c :: cs => do
    if c = ' ' || c = '\t' || c = '\x0C' then tokensFrom opened line fuel cs
    else if c = '#' then tokensFrom opened line fuel (cs.dropWhile (· ≠ '\n'))
    else if c = '\n' then
      let rest ← tokensFrom opened (line + 1) fuel cs
      return if opened.isEmpty then .sign "\n" :: rest else rest
    else if c = '\\' then
      match cs with
      | '\n' :: cs => tokensFrom opened (line + 1) fuel cs
      | _ => return [.brokenLine]
    else
      let (token, rest) ← next line c cs
      let opened ← track line opened token
      let tokens ← tokensFrom opened (line + linesIn token (c :: cs) rest) fuel rest
      return token :: tokens

/-- The tokens of a text. -/
def tokens (cs : List Char) : Except Error (List Token) :=
  if cs.contains '\x00' then .error .nullCharacter
  else
    let cs := unifyLineEnds cs
    tokensFrom [] 1 cs.length cs

end EnumTables.Console.Literal
