/-!
# The shortest decimal of a binary number

The fewest decimal digits that read back to a given binary floating-point number.  The number is
taken as an exact rational together with the interval of rationals that round to it; for one digit,
two digits, and so on, the two neighbours of the number on that decimal grid are tested, and the
first grid with a hit gives the answer.  Of two hits the nearer one wins.
-/

namespace EnumTables

/-- A decimal number `digits * 10 ^ exponent`. -/
structure Decimal where
  digits : Nat
  exponent : Int
deriving DecidableEq, Repr

namespace Decimal

/-- A positive binary number `mantissa * 2 ^ exponent` among those of its format. -/
structure Binary where
  mantissa : Nat
  exponent : Int
  /-- Whether the next smaller number of the format is at half the usual distance. -/
  closeBelow : Bool

/-- Numerator and denominator of `n * 2 ^ e`. -/
def scale (n : Nat) (e : Int) : Nat × Nat :=
  if 0 ≤ e then (n * Nat.pow 2 e.toNat, 1) else (n, Nat.pow 2 (-e).toNat)

/-- Whether `a / b ≤ c / d`, without the bound itself when `strict`. -/
def fractionLe (strict : Bool) (a b c d : Nat) : Bool :=
  if strict then a * d < c * b else a * d ≤ c * b

/-- The decimal `n * 10 ^ e` as numerator and denominator. -/
def fraction (x : Decimal) : Nat × Nat :=
  if 0 ≤ x.exponent then (x.digits * Nat.pow 10 x.exponent.toNat, 1)
  else (x.digits, Nat.pow 10 (-x.exponent).toNat)

/-- Whether a decimal rounds to a binary number: it lies between the middles to the two
neighbours, the middles included when the mantissa is even. -/
def Binary.admits (x : Binary) (d : Decimal) : Bool :=
  let (n, k) := d.fraction
  let strict := x.mantissa % 2 = 1
  let below := if x.closeBelow then 1 else 2
  let (low, lowDen) := scale (4 * x.mantissa - below) (x.exponent - 2)
  let (high, highDen) := scale (4 * x.mantissa + 2) (x.exponent - 2)
  fractionLe strict low lowDen n k && fractionLe strict n k high highDen

/-- The least `k`, at most `fuel`, for which `n * 10 ^ k` reaches `d`. -/
def stepsUp : Nat → Nat → Nat → Nat
  | 0, _, _ => 0
  | fuel + 1, n, d => if d ≤ n then 0 else stepsUp fuel (n * 10) d + 1

/-- The power of ten of the leading digit of `n / d`, for positive `n` and `d`. -/
def leadingPower (n d : Nat) : Int :=
  if d ≤ n then (Nat.toDigits 10 (n / d)).length - 1 else -(stepsUp (d.log2 + 1) n d : Int)

/-- The two neighbours of `x` on the grid of `count` digits, the nearer one first. -/
def neighbours (x : Binary) (lead : Int) (count : Nat) : List Decimal :=
  let unit := lead - count + 1
  let (n, d) := scale x.mantissa x.exponent
  let (n, d) :=
    if 0 ≤ unit then (n, d * Nat.pow 10 unit.toNat) else (n * Nat.pow 10 (-unit).toNat, d)
  let low : Decimal := ⟨n / d, unit⟩
  let high : Decimal := ⟨n / d + 1, unit⟩
  let rest := n % d
  if 2 * rest < d || 2 * rest = d && n / d % 2 = 0 then [low, high] else [high, low]

/-- The better of the two neighbours of `x` on the grid of `count` digits that rounds to it. -/
def onGrid? (x : Binary) (lead : Int) (count : Nat) : Option Decimal :=
  (neighbours x lead count).find? x.admits

/-- The grids of `count` digits and more are tried in turn, `fuel` of them. -/
def search (x : Binary) (lead : Int) : Nat → Nat → Option Decimal
  | 0, _ => none
  | fuel + 1, count => onGrid? x lead count <|> search x lead fuel (count + 1)

/-- The shortest decimal that rounds to `x`.  Seventeen digits always suffice for a number of 53
bits. -/
def shortest (x : Binary) : Decimal :=
  let (n, d) := scale x.mantissa x.exponent
  (search x (leadingPower n d) 17 1).getD ⟨0, 0⟩

end Decimal

end EnumTables
