import GraphLoad.Number.Decimal

/-!
Non-negative binary numbers of 64-bit floating point, and rounding to them. Every operation on such
numbers is an exact operation on fractions followed by `nearest`, so no rule of hardware arithmetic
is assumed anywhere. `shortest` finds the decimal with the fewest digits that rounds back.
-/

namespace GraphLoad

/-- The number `mantissa · 2 ^ exponent`. -/
structure Binary64 where
  mantissa : Nat
  exponent : Int
deriving DecidableEq, Repr

namespace Binary64

def zero : Binary64 := ⟨0, 0⟩

/-- The least exponent of a mantissa's last bit. -/
def minExponent : Int := -1074

/-- The greatest exponent of a mantissa's last bit. -/
def maxExponent : Int := 971

def fraction (x : Binary64) : Nat × Nat :=
  if 0 ≤ x.exponent then (x.mantissa * Nat.pow 2 x.exponent.toNat, 1)
  else (x.mantissa, Nat.pow 2 (-x.exponent).toNat)

def greatest : Binary64 := ⟨Nat.pow 2 53 - 1, maxExponent⟩

/-- The fraction `num / den` divided by `2 ^ e`, as a fraction. -/
def scale (num den : Nat) (e : Int) : Nat × Nat :=
  if 0 ≤ e then (num, den * Nat.pow 2 e.toNat) else (num * Nat.pow 2 (-e).toNat, den)

/-- The quotient rounded to the nearest whole number, a tie to the even one. -/
def roundEven (num den : Nat) : Nat :=
  let q := num / den
  let twice := 2 * (num % den)
  if twice < den then q
  else if den < twice then q + 1
  else if q % 2 = 0 then q else q + 1

/-- The quotient rounded to the nearest whole number, a tie upwards. -/
def roundUp (num den : Nat) : Nat :=
  (2 * num + den) / (2 * den)

/-- The exponent of the last bit of the 53 that stand for `num / den`, within the least exponent. -/
def lastBit (num den : Nat) : Int :=
  let guess : Int := (Nat.log2 num : Int) - Nat.log2 den - 52
  let (n, d) := scale num den guess
  let exact := if n < Nat.pow 2 52 * d then guess - 1 else guess
  max exact minExponent

/-- The number nearest to `num / den`, of two equally near the one with the even mantissa, whatever
its exponent. -/
def rounded (num den : Nat) : Binary64 :=
  if num = 0 then zero else
  let e := lastBit num den
  let (n, d) := scale num den e
  let m := roundEven n d
  if m = Nat.pow 2 53 then ⟨Nat.pow 2 52, e + 1⟩ else ⟨m, e⟩

/-- The number nearest to `num / den`; none if it lies beyond the greatest number. -/
def nearest? (num den : Nat) : Option Binary64 :=
  if maxExponent < (rounded num den).exponent then none else some (rounded num den)

/-- The number nearest to a fraction, the greatest one for what lies beyond it. -/
def nearest (num den : Nat) : Binary64 :=
  (nearest? num den).getD greatest

def ofNat (n : Nat) : Binary64 :=
  nearest n 1

def mul (x y : Binary64) : Binary64 :=
  nearest (x.fraction.1 * y.fraction.1) (x.fraction.2 * y.fraction.2)

def div (x y : Binary64) : Binary64 :=
  nearest (x.fraction.1 * y.fraction.2) (x.fraction.2 * y.fraction.1)

def floor (x : Binary64) : Nat :=
  x.fraction.1 / x.fraction.2

/-- The nearest whole number, a tie upwards. -/
def round (x : Binary64) : Nat :=
  roundUp x.fraction.1 x.fraction.2

/-! ### Shortest decimals -/

/-- The numbers that round to one: those between two fractions over a common denominator, with or
without the ends. -/
private structure Cell where
  low : Nat
  value : Nat
  high : Nat
  den : Nat
  closed : Bool

private def cell (x : Binary64) : Cell :=
  -- A quarter of the last bit is the unit; below a power of two the lower gap is half as wide.
  let gap := if x.mantissa = Nat.pow 2 52 ∧ minExponent < x.exponent then 1 else 2
  let (unit, den) := fraction ⟨1, x.exponent - 2⟩
  ⟨(4 * x.mantissa - gap) * unit, 4 * x.mantissa * unit, (4 * x.mantissa + 2) * unit, den,
    x.mantissa % 2 = 0⟩

private def Cell.holds (c : Cell) (n : Nat) (p : Int) : Bool :=
  let (a, b) := if 0 ≤ p then (n * Nat.pow 10 p.toNat, 1) else (n, Nat.pow 10 (-p).toNat)
  let v := a * c.den
  if c.closed then c.low * b ≤ v && v ≤ c.high * b else c.low * b < v && v < c.high * b

private def leadingExponent (num den : Nat) : Int :=
  let t : Int := (Text.decimal num).length - (Text.decimal den).length
  let reached := if 0 ≤ t then den * Nat.pow 10 t.toNat ≤ num else den ≤ num * Nat.pow 10 (-t).toNat
  if reached then t else t - 1

/-- The two neighbours of the value on the grid of multiples of `10 ^ p`, the nearer one first; of
two equally near the even one. -/
private def neighbours (num den : Nat) (p : Int) : List Nat :=
  let (n, d) :=
    if 0 ≤ p then (num, den * Nat.pow 10 p.toNat) else (num * Nat.pow 10 (-p).toNat, den)
  let q := n / d
  if roundEven n d = q then [q, q + 1] else [q + 1, q]

/-- The decimal with the fewest digits, at most `limit` more than `count`, in the cell; of two the
nearer. Seventeen digits always suffice. -/
private def search (negative : Bool) (c : Cell) (leading : Int) : (limit count : Nat) → Decimal
  | 0, _ => Decimal.zero negative
  | limit + 1, count =>
    let p := leading - count
    match (neighbours c.value c.den p).find? (c.holds · p) with
    | some n => Decimal.strip negative n p
    | none => search negative c leading limit (count + 1)

/-- The decimal with the fewest digits that rounds to the number, the nearest of those. -/
def shortest (negative : Bool) (x : Binary64) : Decimal :=
  if x.mantissa = 0 then Decimal.zero negative else
  let c := cell x
  search negative c (leadingExponent c.value c.den) 18 0

end Binary64

namespace Decimal

/-- The shortest decimal of the 64-bit number nearest to a fraction; none beyond the range. -/
def ofFraction? (negative : Bool) (num den : Nat) : Option Decimal :=
  (Binary64.nearest? num den).map (Binary64.shortest negative)

/-- The shortest decimal of the 64-bit number nearest to an integer. -/
def ofInt (i : Int) : Decimal :=
  Binary64.shortest (i < 0) (Binary64.ofNat i.natAbs)

/-- The 64-bit number nearest to `digits · 10 ^ exponent`, as its shortest decimal; none beyond the
range. Exponents far outside the range are decided without their powers of ten. -/
def ofScientific? (negative : Bool) (digits : List Char) (exponent : Int) : Option Decimal :=
  let n := Text.decimalValue digits
  let leading : Int := (Text.decimal n).length + exponent
  if n = 0 ∨ leading < -330 then some (zero negative)
  else if 330 < leading then none
  else if 0 ≤ exponent then ofFraction? negative (n * Nat.pow 10 exponent.toNat) 1
  else ofFraction? negative n (Nat.pow 10 (-exponent).toNat)

def magnitude (d : Decimal) : Binary64 :=
  if 0 ≤ d.exponent then Binary64.nearest (d.coefficient * Nat.pow 10 d.exponent.toNat) 1
  else Binary64.nearest d.coefficient (Nat.pow 10 (-d.exponent).toNat)

end Decimal
end GraphLoad
