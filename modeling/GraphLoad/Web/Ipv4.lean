import GraphLoad.Text.Digits
import GraphLoad.Text.Pieces

/-!
Numeric addresses of 32 bits. The strict form is four decimal numbers; the lax one, in which the URL
standard reads hosts, also knows octal and hexadecimal numbers and has fewer of them, the last then
being worth several bytes.
-/

namespace GraphLoad.Ipv4

/-- A decimal number below 256, without a needless zero in front. -/
def octet? (s : List Char) : Option Nat :=
  (Text.natural? s).filter fun n => n < 256 && (s.length == 1 || s.head? != some '0')

/-- The address written in the strict form. -/
def ofOctets? (s : List Char) : Option Nat :=
  match (Text.split (· == '.') s).map octet? with
  | [some a, some b, some c, some d] => some (((a * 256 + b) * 256 + c) * 256 + d)
  | _ => none

/-- The number of a part: hexadecimal behind `0x`, octal behind another zero, else decimal. -/
def number? : List Char → Option Nat
  | [] => none
  | '0' :: 'x' :: r => Text.inBase? 16 r
  | '0' :: 'X' :: r => Text.inBase? 16 r
  | '0' :: r => Text.inBase? 8 r
  | s => Text.inBase? 10 s

/-- The numbers between the dots; a dot may stand at the end. -/
def parts (s : List Char) : List (List Char) :=
  Text.splitClosed (· == '.') s

/-- Whether the last part is meant as a number, which makes the whole an address. -/
def endsInNumber (s : List Char) : Bool :=
  (parts s).getLast?.any fun part => (Text.natural? part).isSome || (number? part).isSome

/-- The address made of numbers of one byte and a last one that fills the bytes left. -/
def ofNumbers? (numbers : List Nat) : Option Nat :=
  let leading := numbers.dropLast
  let left := Nat.pow 256 (4 - leading.length)
  numbers.getLast?.bind fun last =>
    if leading.length < 4 ∧ leading.all (· < 256) ∧ last < left then
      some (leading.foldl (fun n b => 256 * n + b) 0 * left + last)
    else none

/-- The address written in the lax form. -/
def ofText? (s : List Char) : Option Nat :=
  ((parts s).mapM number?).bind ofNumbers?

end GraphLoad.Ipv4
