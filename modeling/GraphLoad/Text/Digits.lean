/-! Numbers written in digits: reading a run of decimal or hexadecimal digits, and padding. -/

namespace GraphLoad.Text

/-- The value of a run of decimal digits, most significant first. -/
def decimalValue (digits : List Char) : Nat :=
  digits.foldl (fun n c => 10 * n + (c.toNat - '0'.toNat)) 0

/-- The number written by a non-empty run of ASCII digits and nothing else. -/
def natural? (s : List Char) : Option Nat :=
  if s.isEmpty || !s.all Char.isDigit then none else some (decimalValue s)

/-- The number written by ASCII digits after an optional plus sign. -/
def unsigned? : List Char → Option Nat
  | '+' :: r => natural? r
  | s => natural? s

inductive NumberProblem where
  | empty
  | invalidDigit
  | tooLarge
deriving DecidableEq, Repr

def NumberProblem.message : NumberProblem → String
  | empty => "cannot parse integer from empty string"
  | invalidDigit => "invalid digit found in string"
  | tooLarge => "number too large to fit in target type"

/-- Reads digits after those that make up `n`, up to the first problem. -/
def digitsBelow (bound : Nat) : (n : Nat) → List Char → Except NumberProblem Nat
  | n, [] => .ok n
  | n, c :: r =>
    if !c.isDigit then .error .invalidDigit
    else
      let n := 10 * n + (c.toNat - '0'.toNat)
      if bound ≤ n then .error .tooLarge else digitsBelow bound n r

/-- The number below a bound that is written by ASCII digits after an optional plus sign. -/
def unsignedBelow (bound : Nat) : List Char → Except NumberProblem Nat
  | [] => .error .empty
  | ['+'] => .error .invalidDigit
  | '+' :: r => digitsBelow bound 0 r
  | s => digitsBelow bound 0 s

/-- The leading run of ASCII digits, and what follows it. -/
def spanDigits (s : List Char) : List Char × List Char :=
  (s.takeWhile Char.isDigit, s.dropWhile Char.isDigit)

/-- The value of one hexadecimal digit of either case. -/
def hexValue? (c : Char) : Option Nat :=
  if c.isDigit then some (c.toNat - '0'.toNat)
  else if 'a' ≤ c && c ≤ 'f' then some (c.toNat - 'a'.toNat + 10)
  else if 'A' ≤ c && c ≤ 'F' then some (c.toNat - 'A'.toNat + 10)
  else none

/-- The number written by digits of a base up to 16, most significant first. No digits stand for
zero. -/
def inBase? (base : Nat) (s : List Char) : Option Nat :=
  s.foldlM (fun n c => ((hexValue? c).filter (· < base)).map (base * n + ·)) 0

/-- A number in lower-case hexadecimal digits. -/
def hex (n : Nat) : List Char :=
  Nat.toDigits 16 n

def decimal (n : Nat) : List Char :=
  Nat.toDigits 10 n

/-- The digits with zeros in front, up to the given width. -/
def padZero (width : Nat) (digits : List Char) : List Char :=
  List.replicate (width - digits.length) '0' ++ digits

end GraphLoad.Text
