import EnumTables.Console.Colour

/-!
# Styles

A style says how a text looks: its attributes, its colours and what it links to.  It is written in
words, of which a later one wins over an earlier one, and `Style.text` writes it in one form only, so
that two spellings of one style have the same text.
-/

namespace EnumTables.Console

open Text

/-- What a text may look like apart from its colours. -/
inductive Attribute where
  | bold
  | dim
  | italic
  | underline
  | blink
  | fastBlink
  | reverse
  | conceal
  | strike
  | doubleUnderline
  | frame
  | encircle
  | overline
deriving DecidableEq, Repr

namespace Attribute

/-- The attributes in the order in which they are written. -/
def all : List Attribute :=
  [bold, dim, italic, underline, blink, fastBlink, reverse, conceal, strike, doubleUnderline, frame,
   encircle, overline]

/-- The word for an attribute. -/
def name : Attribute → String
  | bold => "bold"
  | dim => "dim"
  | italic => "italic"
  | underline => "underline"
  | blink => "blink"
  | fastBlink => "blink2"
  | reverse => "reverse"
  | conceal => "conceal"
  | strike => "strike"
  | doubleUnderline => "underline2"
  | frame => "frame"
  | encircle => "encircle"
  | overline => "overline"

/-- The short word for an attribute, if it has one. -/
def shortName? : Attribute → Option String
  | bold => some "b"
  | dim => some "d"
  | italic => some "i"
  | underline => some "u"
  | reverse => some "r"
  | conceal => some "c"
  | strike => some "s"
  | doubleUnderline => some "uu"
  | overline => some "o"
  | blink | fastBlink | frame | encircle => none

/-- The attribute that a word stands for. -/
def ofWord? (word : List Char) : Option Attribute :=
  let word := String.ofList word
  all.find? fun a ↦ a.name = word || a.shortName? = some word

end Attribute

/-- How a text looks. -/
structure Style where
  /-- The attributes that are set or cleared, the last one first. -/
  attributes : List (Attribute × Bool)
  colour : Option (List Char)
  background : Option (List Char)
  link : Option (List Char)
deriving DecidableEq, Repr

namespace Style

/-- The style that changes nothing. -/
def plain : Style := ⟨[], none, none, none⟩

/-- Set or clear an attribute. -/
def setAttribute (s : Style) (a : Attribute) (on : Bool) : Style :=
  { s with attributes := (a, on) :: s.attributes }

/-- The style that words describe, `s` before them. -/
def ofWords (s : Style) : List (List Char) → Except ColourError Style
  | [] => .ok s
  | word :: rest =>
    let name := String.ofList (lower word)
    match name, rest with
    | "on", value :: rest => do
      let c ← Console.colour value
      { s with background := some c }.ofWords rest
    | "not", value :: rest =>
      match Attribute.ofWord? value with
      | some a => (s.setAttribute a false).ofWords rest
      | none => .error .unknown
    | "link", value :: rest => { s with link := some value }.ofWords rest
    | "on", [] | "not", [] | "link", [] => .error .unknown
    | name, rest =>
      match Attribute.ofWord? name.toList with
      | some a => (s.setAttribute a true).ofWords rest
      | none => do
        let c ← Console.colour word
        { s with colour := some c }.ofWords rest

/-- The words of a text. -/
def wordsOf (cs : List Char) : List (List Char) :=
  (cs.splitOnP isBlank).filter fun w ↦ !w.isEmpty

/-- The style that a text describes. -/
def ofText (cs : List Char) : Except ColourError Style :=
  match wordsOf cs with
  | [word] => if String.ofList word = "none" then .ok plain else plain.ofWords [word]
  | words => plain.ofWords words

/-- The words that set or clear an attribute. -/
def attributeWords (s : Style) (a : Attribute) : List (List Char) :=
  match s.attributes.lookup a with
  | some true => [a.name.toList]
  | some false => ["not".toList, a.name.toList]
  | none => []

/-- The words that describe a style. -/
def toWords (s : Style) : List (List Char) :=
  Attribute.all.flatMap s.attributeWords ++ s.colour.toList ++
    (s.background.map fun c ↦ ["on".toList, c]).getD [] ++
    (s.link.map fun url ↦ ["link".toList, url]).getD []

/-- The text of a style. -/
def text (s : Style) : List Char :=
  if s.toWords.isEmpty then "none".toList else [' '].intercalate s.toWords

end Style

/-- The one form of a name: the text of the style that it describes, or else the name without the
blanks at its ends and in lower case. -/
def canonicalName (name : List Char) : Except ColourError (List Char) :=
  match Style.ofText name with
  | .ok s => .ok s.text
  | .error .unknown => .ok (lower (trimRight (trimLeft name)))
  | .error .missingComponent => .error .missingComponent

end EnumTables.Console
