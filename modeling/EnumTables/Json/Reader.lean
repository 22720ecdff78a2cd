import EnumTables.Json.Basic
import EnumTables.Text.WideUnits

/-!
# Reading JSON

A reader for JSON texts in which `NaN`, `Infinity` and `-Infinity` are numbers too, integers have
any size up to 4300 digits, arrays and objects are nested up to some depth, and the last of several
members of one name wins.  Escaped surrogates make a character in pairs and are code points alone.  A
byte-order mark is no part of a text.  A text that is not JSON gives the place of the failure and its
cause.
-/

namespace EnumTables.Json

/-- Why a text is not JSON. -/
inductive Cause where
  /-- The text begins with a byte-order mark, which only the decoding of bytes takes away. -/
  | byteOrderMark
  | expectedValue
  | expectedName
  | expectedColon
  | expectedComma
  | extraData
  | unterminatedString
  | controlCharacter
  | badEscape
  | badUnicodeEscape
  /-- An integer is longer than the limit, though the text may be well-formed. -/
  | tooManyDigits (count : Nat)
  /-- An array is nested deeper than the limit, whatever follows. -/
  | arrayTooDeep
  /-- An object is nested deeper than the limit, whatever follows. -/
  | objectTooDeep
deriving DecidableEq, Repr

/-- A failure to read: its cause and the text that was left at its place. -/
structure Failure where
  cause : Cause
  rest : List CodePoint

/-- What a reading step gives: a value and the text after it. -/
abbrev Reading (α : Type) := Except Failure (α × List CodePoint)

/-- Whether a character may stand between the parts of a JSON text. -/
def isSpace : CodePoint → Bool
  | .char c => c = ' ' || c = '\t' || c = '\n' || c = '\r'
  | .surrogate _ => false

/-- The text after its leading blanks. -/
def skipSpace (cs : List CodePoint) : List CodePoint := cs.dropWhile isSpace

/-- The value of a hexadecimal digit. -/
def hexValue? (p : CodePoint) : Option Nat := p.char?.bind Text.hexValue?

/-- The number of four hexadecimal digits. -/
def hex4? (a b c d : CodePoint) : Option Nat := do
  return ((← hexValue? a) * 16 + (← hexValue? b)) * 256 + (← hexValue? c) * 16 + (← hexValue? d)

/-- The character that a one-letter escape stands for. -/
def simpleEscape? : CodePoint → Option Char
  | .char '"' => some '"'
  | .char '\\' => some '\\'
  | .char '/' => some '/'
  | .char 'b' => some '\x08'
  | .char 'f' => some '\x0C'
  | .char 'n' => some '\n'
  | .char 'r' => some '\r'
  | .char 't' => some '\t'
  | _ => none

/-- The low surrogate that an escape at the head of the text stands for. -/
def partner? : List CodePoint → Except Failure (Option Nat)
  | .char '\\' :: .char 'u' :: a :: b :: c :: d :: cs =>
    match hex4? a b c d with
    | none => .error ⟨.badUnicodeEscape, .char 'u' :: a :: b :: c :: d :: cs⟩
    | some unit => .ok (if 0xDC00 ≤ unit ∧ unit < 0xE000 then some unit else none)
  | _ => .ok none

/-- Read a string to its closing mark.  `opening` is the text at the opening mark and `read` what was
read so far in reverse. -/
def string (opening read : List CodePoint) : List CodePoint → Reading RawText
  | [] => .error ⟨.unterminatedString, opening⟩
  | .char '"' :: cs => .ok (⟨read.reverse⟩, cs)
  | .char '\\' :: .char 'u' :: a :: b :: c :: d :: cs =>
    match hex4? a b c d with
    | none => .error ⟨.badUnicodeEscape, .char 'u' :: a :: b :: c :: d :: cs⟩
    | some unit =>
      if 0xD800 ≤ unit ∧ unit < 0xDC00 then
        match partner? cs with
        | .error e => .error e
        | .ok none => string opening (.ofNat unit :: read) cs
        | .ok (some low) => string opening (.char (Text.joinSurrogates unit low) :: read) (cs.drop 6)
      else string opening (.ofNat unit :: read) cs
  | .char '\\' :: .char 'u' :: cs => .error ⟨.badUnicodeEscape, .char 'u' :: cs⟩
  | .char '\\' :: c :: cs =>
    match simpleEscape? c with
    | some e => string opening (.char e :: read) cs
    | none => .error ⟨.badEscape, .char '\\' :: c :: cs⟩
  | [.char '\\'] => .error ⟨.unterminatedString, opening⟩
  | c :: cs =>
    if c.toNat < 0x20 then .error ⟨.controlCharacter, c :: cs⟩
    else string opening (c :: read) cs
termination_by cs => cs.length

/-- Whether a code point is a decimal digit. -/
def isDigit : CodePoint → Bool
  | .char c => c.isDigit
  | .surrogate _ => false

/-- The number that a run of decimal digits spells, after `n`. -/
def digitsValue (n : Nat) (ds : List CodePoint) : Nat :=
  ds.foldl (fun n d ↦ n * 10 + (d.toNat - 48)) n

/-- The double nearest to `mantissa * 10 ^ exponent`, infinite when too large. -/
def floatOf (negative : Bool) (mantissa : Nat) (exponent : Int) : Float :=
  let size : Int := (Nat.toDigits 10 mantissa).length + exponent
  let x :=
    if mantissa = 0 ∨ size < -400 then 0.0
    else if 400 < size then 1.0 / 0.0
    else if 0 ≤ exponent then Float.ofScientific mantissa false exponent.toNat
    else Float.ofScientific mantissa true (-exponent).toNat
  if negative then -x else x

/-- The digits after a point, when a digit follows it. -/
def fraction? : List CodePoint → Option (List CodePoint × List CodePoint)
  | .char '.' :: d :: cs =>
    if isDigit d then some ((d :: cs).takeWhile isDigit, (d :: cs).dropWhile isDigit) else none
  | _ => none

/-- The value of an exponent, when a digit follows its mark and sign. -/
def exponent? : List CodePoint → Option (Int × List CodePoint)
  | e :: cs =>
    let (sign, ds) : Int × List CodePoint := match cs with
      | .char '-' :: ds => (-1, ds)
      | .char '+' :: ds => (1, ds)
      | ds => (1, ds)
    let run := ds.takeWhile isDigit
    if (e = .char 'e' || e = .char 'E') && !run.isEmpty then
      some (sign * digitsValue 0 run, ds.dropWhile isDigit)
    else none
  | [] => none

/-- The digits of a number before its point: no digit follows a leading zero. -/
def whole? : List CodePoint → Option (List CodePoint × List CodePoint)
  | .char '0' :: cs => some ([.char '0'], cs)
  | cs =>
    let run := cs.takeWhile isDigit
    if run.isEmpty then none else some (run, cs.dropWhile isDigit)

/-- Read a number.  One with a point or an exponent is a floating-point number. -/
def number (text : List CodePoint) : Reading Json :=
  let (negative, cs) := match text with
    | .char '-' :: cs => (true, cs)
    | cs => (false, cs)
  match whole? cs with
  | none => .error ⟨.expectedValue, text⟩
  | some (whole, rest) =>
    let point := fraction? rest
    let (places, rest) := point.getD ([], rest)
    let scale := exponent? rest
    let (power, rest) := scale.getD (0, rest)
    if point.isNone && scale.isNone then
      if 4300 < whole.length then .error ⟨.tooManyDigits whole.length, text⟩
      else
        let n : Int := digitsValue 0 whole
        .ok (.int (if negative then -n else n), rest)
    else
      let mantissa := digitsValue (digitsValue 0 whole) places
      .ok (.float (floatOf negative mantissa (power - places.length)), rest)

/-- The text after a word that it must begin with. -/
def dropWord? (word : String) (cs : List CodePoint) : Option (List CodePoint) :=
  if (word : RawText).points.isPrefixOf cs then some (cs.drop word.length) else none

/-- The values that are written as words. -/
def words : List (String × Json) :=
  [("null", .null), ("true", .bool true), ("false", .bool false), ("NaN", .float (0.0 / 0.0)),
   ("Infinity", .float (1.0 / 0.0)), ("-Infinity", .float (-1.0 / 0.0))]

/-- Read a word or a number. -/
def scalar (cs : List CodePoint) : Reading Json :=
  match words.findSome? fun (word, v) ↦ (dropWord? word cs).map fun rest ↦ (v, rest) with
  | some r => .ok r
  | none => number cs

mutual

/-- Read a value in which arrays and objects are nested to this depth.  Every call that `fuel` counts
takes at least one character. -/
def value : Nat → Nat → List CodePoint → Reading Json
  | 0, _, cs => .error ⟨.expectedValue, cs⟩
  | fuel + 1, depth, cs =>
    match cs, depth with
    | .char '"' :: rest, _ => (string cs [] rest).map fun (s, rest) ↦ (.str s, rest)
    | .char '[' :: _, 0 => .error ⟨.arrayTooDeep, cs⟩
    | .char '[' :: rest, depth + 1 =>
      match skipSpace rest with
      | .char ']' :: rest => .ok (.arr [], rest)
      | rest => items fuel depth [] rest
    | .char '{' :: _, 0 => .error ⟨.objectTooDeep, cs⟩
    | .char '{' :: rest, depth + 1 =>
      match skipSpace rest with
      | .char '}' :: rest => .ok (.obj [], rest)
      | rest => members fuel depth [] rest
    | cs, _ => scalar cs

/-- Read the items of an array up to its closing bracket, after those in `read`. -/
def items : Nat → Nat → List Json → List CodePoint → Reading Json
  | 0, _, _, cs => .error ⟨.expectedValue, cs⟩
  | fuel + 1, depth, read, cs =>
    match value fuel depth cs with
    | .error e => .error e
    | .ok (v, rest) =>
      match skipSpace rest with
      | .char ']' :: rest => .ok (.arr (v :: read).reverse, rest)
      | .char ',' :: rest => items fuel depth (v :: read) (skipSpace rest)
      | rest => .error ⟨.expectedComma, rest⟩

/-- Read the members of an object up to its closing brace, after those in `read`. -/
def members : Nat → Nat → List (RawText × Json) → List CodePoint → Reading Json
  | 0, _, _, cs => .error ⟨.expectedName, cs⟩
  | fuel + 1, depth, read, cs =>
    match cs with
    | .char '"' :: rest =>
      match string cs [] rest with
      | .error e => .error e
      | .ok (name, rest) =>
        match skipSpace rest with
        | .char ':' :: rest =>
          match value fuel depth (skipSpace rest) with
          | .error e => .error e
          | .ok (v, rest) =>
            let read := insert read name v
            match skipSpace rest with
            | .char '}' :: rest => .ok (.obj read, rest)
            | .char ',' :: rest => members fuel depth read (skipSpace rest)
            | rest => .error ⟨.expectedComma, rest⟩
        | rest => .error ⟨.expectedColon, rest⟩
    | cs => .error ⟨.expectedName, cs⟩

end

/-- A text that is not JSON: the cause, and the place counted from one in lines and columns and
from zero in characters. -/
structure Error where
  cause : Cause
  line : Nat
  column : Nat
  offset : Nat
deriving DecidableEq, Repr

/-- The place in `text` at which a failure happened. -/
def Failure.locate (text : List CodePoint) (f : Failure) : Error :=
  let before := text.take (text.length - f.rest.length)
  { cause := f.cause
    line := before.count (.char '\n') + 1
    column := (before.reverse.takeWhile (· ≠ .char '\n')).length + 1
    offset := before.length }

/-- Read one value and the blanks around it to the end of a text. -/
def document (depth : Nat) (text : List CodePoint) : Except Failure Json :=
  match text with
  | .char '\uFEFF' :: _ => .error ⟨.byteOrderMark, text⟩
  | _ => do
    let (v, rest) ← value (text.length + 1) depth (skipSpace text)
    match skipSpace rest with
    | [] => pure v
    | rest => .error ⟨.extraData, rest⟩

/-- Read a text that holds one value and blanks around it, in which arrays and objects are nested at
most to this depth. -/
def ofText (depth : Nat) (s : RawText) : Except Error Json :=
  (document depth s.points).mapError (Failure.locate s.points)

/-- A cause in words. -/
def Cause.message : Cause → String
  | .byteOrderMark => "Unexpected UTF-8 BOM (decode using utf-8-sig)"
  | .expectedValue => "Expecting value"
  | .expectedName => "Expecting property name enclosed in double quotes"
  | .expectedColon => "Expecting ':' delimiter"
  | .expectedComma => "Expecting ',' delimiter"
  | .extraData => "Extra data"
  | .unterminatedString => "Unterminated string starting at"
  | .controlCharacter => "Invalid control character at"
  | .badEscape => "Invalid \\escape"
  | .badUnicodeEscape => "Invalid \\uXXXX escape"
  | .tooManyDigits n =>
    s!"Exceeds the limit (4300 digits) for integer string conversion: value has {n} digits; " ++
      "use sys.set_int_max_str_digits() to increase the limit"
  | .arrayTooDeep =>
    "maximum recursion depth exceeded while decoding a JSON array from a unicode string"
  | .objectTooDeep =>
    "maximum recursion depth exceeded while decoding a JSON object from a unicode string"

/-- Whether the text is not JSON, and not only beyond a limit of the reader. -/
def Cause.isMalformed : Cause → Bool
  | .tooManyDigits _ | .arrayTooDeep | .objectTooDeep => false
  | _ => true

/-- What is wrong, in words, and for a text that is not JSON also where. -/
def Error.message (e : Error) : String :=
  if e.cause.isMalformed then
    s!"{e.cause.message}: line {e.line} column {e.column} (char {e.offset})"
  else e.cause.message

/-- Whether the reader gave up because of the nesting. -/
def Error.isTooDeep (e : Error) : Bool :=
  match e.cause with
  | .arrayTooDeep | .objectTooDeep => true
  | _ => false

end EnumTables.Json
