import EnumTables.Text.Digit
import EnumTables.Text.Integer
import EnumTables.Text.Lowercase

/-!
# Colours

A colour is written as its name, as six hexadecimal digits after a hash, as its number in the palette
of the terminal or as its three components.  Letters may be written in either case.
-/

namespace EnumTables.Console

open Text

/-- How a word fails to be a colour. -/
inductive ColourError where
  | unknown
  /-- One of the three components is left out. -/
  | missingComponent
deriving DecidableEq, Repr

/-- The shades of grey that have a name, in hundredths. -/
def greys : List Nat :=
  [0, 3, 7, 11, 15, 19, 23, 27, 30, 35, 37, 39, 42, 46, 50, 53, 54, 58, 62, 63, 66, 69, 70, 74,
   78, 82, 84, 85, 89, 93, 100]

/-- The names of the other colours. -/
def colourNames : List String :=
  ["default", "black", "red", "green", "yellow", "blue", "magenta", "cyan", "white",
   "bright_black", "bright_red", "bright_green", "bright_yellow", "bright_blue", "bright_magenta",
   "bright_cyan", "bright_white", "navy_blue", "dark_blue", "blue3", "blue1", "dark_green",
   "deep_sky_blue4", "dodger_blue3", "dodger_blue2", "green4", "spring_green4", "turquoise4",
   "deep_sky_blue3", "dodger_blue1", "green3", "spring_green3", "dark_cyan", "light_sea_green",
   "deep_sky_blue2", "deep_sky_blue1", "spring_green2", "cyan3", "dark_turquoise", "turquoise2",
   "green1", "spring_green1", "medium_spring_green", "cyan2", "cyan1", "dark_red", "deep_pink4",
   "purple4", "purple3", "blue_violet", "orange4", "medium_purple4", "slate_blue3", "royal_blue1",
   "chartreuse4", "dark_sea_green4", "pale_turquoise4", "steel_blue", "steel_blue3",
   "cornflower_blue", "chartreuse3", "cadet_blue", "sky_blue3", "steel_blue1", "pale_green3",
   "sea_green3", "aquamarine3", "medium_turquoise", "chartreuse2", "sea_green2", "sea_green1",
   "aquamarine1", "dark_slate_gray2", "dark_magenta", "dark_violet", "purple", "light_pink4",
   "plum4", "medium_purple3", "slate_blue1", "yellow4", "wheat4", "light_slate_grey",
   "light_slate_gray", "medium_purple", "light_slate_blue", "dark_olive_green3", "dark_sea_green",
   "light_sky_blue3", "sky_blue2", "dark_sea_green3", "dark_slate_gray3", "sky_blue1",
   "chartreuse1", "light_green", "pale_green1", "dark_slate_gray1", "red3", "medium_violet_red",
   "magenta3", "dark_orange3", "indian_red", "hot_pink3", "medium_orchid3", "medium_orchid",
   "medium_purple2", "dark_goldenrod", "light_salmon3", "rosy_brown", "medium_purple1", "gold3",
   "dark_khaki", "navajo_white3", "light_steel_blue3", "light_steel_blue", "yellow3",
   "dark_sea_green2", "light_cyan3", "light_sky_blue1", "green_yellow", "dark_olive_green2",
   "dark_sea_green1", "pale_turquoise1", "deep_pink3", "magenta2", "hot_pink2", "orchid",
   "medium_orchid1", "orange3", "light_pink3", "pink3", "plum3", "violet", "light_goldenrod3",
   "tan", "misty_rose3", "thistle3", "plum2", "khaki3", "light_goldenrod2", "light_yellow3",
   "light_steel_blue1", "yellow2", "dark_olive_green1", "honeydew2", "light_cyan1", "red1",
   "deep_pink2", "deep_pink1", "magenta1", "orange_red1", "indian_red1", "hot_pink",
   "dark_orange", "salmon1", "light_coral", "pale_violet_red1", "orchid2", "orchid1", "orange1",
   "sandy_brown", "light_salmon1", "light_pink1", "pink1", "plum1", "gold1", "navajo_white1",
   "misty_rose1", "thistle1", "yellow1", "light_goldenrod1", "khaki1", "wheat1", "cornsilk1"]

/-- Whether a word names a colour. -/
def isColourName (word : List Char) : Bool :=
  let name := String.ofList word
  colourNames.contains name || greys.any fun n ↦ name = s!"grey{n}" || name = s!"gray{n}"

/-- The largest number of a colour in the palette, and the largest component of a colour. -/
def maxComponent : Nat := 255

/-- A hexadecimal digit in lower case. -/
def isHexDigit (c : Char) : Bool := ('0' ≤ c && c ≤ '9') || ('a' ≤ c && c ≤ 'f')

/-- What stands between an opening text and a closing parenthesis at the end. -/
def enclosed? (opening : String) (word : List Char) : Option (List Char) :=
  if opening.toList.isPrefixOf word then
    match (word.drop opening.length).reverse with
    | ')' :: body => some body.reverse
    | _ => none
  else none

/-- Whether a text is the number of a colour in the palette, of at most three digits. -/
def isPaletteNumber (cs : List Char) : Bool :=
  cs.length ≤ 3 && cs.all Char.isDigit && (natural? cs).any (· ≤ maxComponent)

/-- Check the components of a colour, which digits of any script may spell. -/
def checkComponents (cs : List Char) : Except ColourError Unit :=
  let components := cs.splitOnP (· = ',')
  if cs.isEmpty || !cs.all (fun c ↦ c = ',' || isDecimal c) || components.length ≠ 3 then
    .error .unknown
  else if components.any List.isEmpty then .error .missingComponent
  else if components.all fun ds ↦ (natural? ds).any (· ≤ maxComponent) then .ok ()
  else .error .unknown

/-- The colour that a word stands for, as it is written in lower case. -/
def colour (word : List Char) : Except ColourError (List Char) :=
  let word := lower word
  if isColourName word then .ok word
  else
    match word, enclosed? "color(" word, enclosed? "rgb(" word with
    | '#' :: ds, _, _ =>
      if ds.length = 6 && ds.all isHexDigit then .ok word else .error .unknown
    | _, some number, _ => if isPaletteNumber number then .ok word else .error .unknown
    | _, none, some components => (checkComponents components).map fun _ ↦ word
    | _, none, none => .error .unknown

end EnumTables.Console
