import EnumTables.Decimal.Shortest

/-!
# Floating-point numbers as text

A double is written with the fewest digits that read back to it, positionally when its leading
digit stands between 10^-4 and 10^15 and with a signed exponent of at least two digits otherwise.
A positional number always shows a digit after the point.
-/

namespace EnumTables.Decimal

/-- How digits are laid out as text. -/
structure Layout where
  /-- The least power of ten of the leading digit that is written positionally. -/
  positionalFrom : Int
  /-- The first power of ten of the leading digit that is not. -/
  positionalBelow : Int
  /-- The least number of digits of an exponent. -/
  exponentDigits : Nat

/-- The layout of numbers in messages. -/
def messageLayout : Layout := ⟨-4, 16, 2⟩

/-- A natural number with at least `count` digits. -/
def padded (count n : Nat) : List Char :=
  let ds := Nat.toDigits 10 n
  List.replicate (count - ds.length) '0' ++ ds

/-- The digits of a decimal without trailing zeros, and the power of ten of the leading one. -/
def normal (x : Decimal) : List Char × Int :=
  let ds := Nat.toDigits 10 x.digits
  let kept := (ds.reverse.dropWhile (· = '0')).reverse
  (if kept.isEmpty then ['0'] else kept, x.exponent + ds.length - 1)

/-- A positive decimal as text. -/
def Layout.render (l : Layout) (x : Decimal) : List Char :=
  let (ds, lead) := x.normal
  if l.positionalFrom ≤ lead ∧ lead < l.positionalBelow then
    if lead < 0 then '0' :: '.' :: List.replicate (-lead - 1).toNat '0' ++ ds
    else
      let whole := ds.take (lead + 1).toNat
      let zeros := List.replicate ((lead + 1).toNat - whole.length) '0'
      let fraction := ds.drop (lead + 1).toNat
      whole ++ zeros ++ '.' :: (if fraction.isEmpty then ['0'] else fraction)
  else
    let mantissa := match ds with
      | [] => []
      | [d] => [d]
      | d :: rest => d :: '.' :: rest
    mantissa ++ 'e' :: (if lead < 0 then '-' else '+') :: padded l.exponentDigits lead.natAbs

/-- One more than the greatest fraction of a double. -/
def fractionBound : Nat := 0x10000000000000

/-- One more than the greatest exponent field of a double. -/
def exponentBound : Nat := 0x800

/-- The number that the bits of a positive finite double stand for. -/
def Binary.ofBits (bits : Nat) : Binary :=
  let fraction : Nat := bits % fractionBound
  let power : Nat := bits / fractionBound % exponentBound
  if power = 0 then ⟨fraction, -1074, false⟩
  else ⟨fraction + fractionBound, (power : Int) - 1075, fraction = 0 && 1 < power⟩

/-- The text of a double. -/
def renderFloat (x : Float) : String :=
  if x.isNaN then "nan"
  else
    let bits := x.toBits.toNat
    let sign := if bits / (exponentBound * fractionBound) = 1 then "-" else ""
    let magnitude := bits % (exponentBound * fractionBound)
    if magnitude = 0 then sign ++ "0.0"
    else if magnitude = (exponentBound - 1) * fractionBound then sign ++ "inf"
    else sign ++ String.ofList (messageLayout.render (shortest (Binary.ofBits magnitude)))

end EnumTables.Decimal
