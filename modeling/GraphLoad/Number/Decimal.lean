import GraphLoad.Text.Digits

/-!
Finite decimal numbers with a sign, in the one form without a trailing zero digit, and their
written form. Since a zero may carry a sign, `0` and `-0` are two numbers here.
-/

namespace GraphLoad

/-- The number `± coefficient · 10 ^ exponent`. The coefficient ends in no zero, so each number has
one form; zero has exponent zero. -/
structure Decimal where
  negative : Bool
  coefficient : Nat
  exponent : Int
  normal : coefficient % 10 ≠ 0 ∨ (coefficient = 0 ∧ exponent = 0)
deriving DecidableEq, Repr

namespace Decimal

def zero (negative : Bool) : Decimal :=
  ⟨negative, 0, 0, .inr ⟨rfl, rfl⟩⟩

/-- The coefficient without its trailing zeros, whose number goes into the exponent. -/
def strip (negative : Bool) (coefficient : Nat) (exponent : Int) : Decimal :=
  if h : coefficient = 0 then zero negative
  else if hm : coefficient % 10 ≠ 0 then ⟨negative, coefficient, exponent, .inl hm⟩
  else strip negative (coefficient / 10) (exponent + 1)
termination_by coefficient
decreasing_by omega

/-- How numbers are laid out: the decimal exponents of the first digit that are written without an
exponent part. -/
structure Layout where
  lowest : Int
  highest : Int

/-- The digits with a point after the first `point` of them; zeros fill up on either side, and one
digit at least stands on either side of the point. -/
def pointed (digits : List Char) (point : Int) : List Char :=
  if point ≤ 0 then
    '0' :: '.' :: List.replicate (-point).toNat '0' ++ digits
  else
    let whole := digits.take point.toNat
    let fraction := digits.drop point.toNat
    whole ++ List.replicate (point.toNat - digits.length) '0' ++
      '.' :: (if fraction.isEmpty then ['0'] else fraction)

/-- The digits with a point after the first, if there are more, and the exponent with its sign. -/
def scientific (digits : List Char) (exponent : Int) : List Char :=
  let mantissa := match digits with
    | [] => []
    | [d] => [d]
    | d :: r => d :: '.' :: r
  mantissa ++ 'e' :: (if exponent < 0 then '-' else '+') :: Text.decimal exponent.natAbs

def chars (layout : Layout) (d : Decimal) : List Char :=
  let digits := Text.decimal d.coefficient
  let leading : Int := d.exponent + digits.length - 1
  let unsigned :=
    if layout.lowest ≤ leading ∧ leading ≤ layout.highest then pointed digits (leading + 1)
    else scientific digits leading
  if d.negative then '-' :: unsigned else unsigned

end Decimal
end GraphLoad
