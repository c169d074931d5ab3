import GraphLoad.Json.Value
import GraphLoad.Number.Binary64

/-!
Reading JSON text, strictly. A reader takes the characters before it and answers with what it read
and the characters that are left, or with the first problem in reading order. Loops are bounded by
the length of the text, since every turn takes a character.
-/

namespace GraphLoad

inductive Json.Problem where
  /-- The text is not JSON. -/
  | malformed
  /-- The text stops before the value is complete. -/
  | unexpectedEnd
  /-- The text is JSON so far, but not of the wanted form. -/
  | mismatch
deriving DecidableEq, Repr

/-- How closely a value is looked at. Of a skipped value only the outline counts: it may nest at
any depth, hold halves of surrogate pairs, and numbers of any size. -/
inductive Json.Care where
  | kept
  | skipped
deriving DecidableEq, Repr

namespace Json.Read

abbrev Result (α : Type) := Except Problem (α × List Char)

/-- The most that arrays and objects may nest. -/
def maxDepth : Nat := 127

/-- The text after leading blanks, tabs and line ends. -/
def skipBlank (s : List Char) : List Char :=
  s.dropWhile fun c => c == ' ' || c == '\n' || c == '\t' || c == '\r'

def word {α : Type} (value : α) : (rest : List Char) → List Char → Result α
  | [], s => .ok (value, s)
  | _ :: _, [] => .error .unexpectedEnd
  | c :: w, d :: s => if c = d then word value w s else .error .malformed

/-! ### Texts -/

/-- Reads four hexadecimal digits. Where fewer than four bytes are left the text has ended. -/
def hex4 : List Char → Result Nat
  | a :: b :: c :: d :: r =>
    match Text.hexValue? a, Text.hexValue? b, Text.hexValue? c, Text.hexValue? d with
    | some a, some b, some c, some d => .ok (((a * 16 + b) * 16 + c) * 16 + d, r)
    | _, _, _, _ => .error .malformed
  | short =>
    .error (if (String.ofList short).utf8ByteSize < 4 then .unexpectedEnd else .malformed)

/-- Reads what follows `\u`: one code unit, or the two of a surrogate pair. -/
def unicodeEscape (care : Care) (s : List Char) : Except Problem (Char × List Char) := do
  let (n, r) ← hex4 s
  if care = .skipped ∨ n < 0xd800 ∨ 0xdfff < n then .ok (Char.ofNat n, r)
  else if 0xdc00 ≤ n then .error .malformed
  else match r with
    | [] | ['\\'] => .error .unexpectedEnd
    | '\\' :: 'u' :: r =>
      let (m, r) ← hex4 r
      if m < 0xdc00 ∨ 0xdfff < m then .error .malformed
      else .ok (Char.ofNat (0x10000 + (n - 0xd800) * 0x400 + (m - 0xdc00)), r)
    | _ => .error .malformed

def escape (care : Care) : List Char → Result Char
  | [] => .error .unexpectedEnd
  | '"' :: r => .ok ('"', r)
  | '\\' :: r => .ok ('\\', r)
  | '/' :: r => .ok ('/', r)
  | 'b' :: r => .ok ('\x08', r)
  | 'f' :: r => .ok ('\x0c', r)
  | 'n' :: r => .ok ('\n', r)
  | 'r' :: r => .ok ('\r', r)
  | 't' :: r => .ok ('\t', r)
  | 'u' :: r => unicodeEscape care r
  | _ => .error .malformed

/-- Reads a text up to its closing quote; `read` holds what was read, last character first. -/
def textBody (care : Care) : (fuel : Nat) → (read : List Char) → List Char → Result String
  | 0, _, _ => .error .malformed
  | _, _, [] => .error .unexpectedEnd
  | _, read, '"' :: r => .ok (String.ofList read.reverse, r)
  | fuel + 1, read, '\\' :: r =>
    match escape care r with
    | .error p => .error p
    | .ok (c, r) => textBody care fuel (c :: read) r
  | fuel + 1, read, c :: r =>
    if c.toNat < 0x20 then .error .malformed else textBody care fuel (c :: read) r

def text (care : Care) (s : List Char) : Result String :=
  textBody care (s.length + 1) [] s

/-! ### Numbers -/

/-- The problem of a number that stops too early; of a skipped one it is never the end that is to
blame. -/
def cutShort : Care → Problem
  | .kept => .unexpectedEnd
  | .skipped => .malformed

def digits (care : Care) (s : List Char) : Result (List Char) :=
  match Text.spanDigits s with
  | ([], []) => .error (cutShort care)
  | ([], _) => .error .malformed
  | (ds, r) => .ok (ds, r)

/-- Reads the digits before the point: a zero stands alone. -/
def wholeDigits (care : Care) : List Char → Result (List Char)
  | '0' :: r => if (r.head?.any Char.isDigit) then .error .malformed else .ok (['0'], r)
  | s => digits care s

def fractionDigits (care : Care) : List Char → Result (Option (List Char))
  | '.' :: r => (digits care r).map fun (ds, r) => (some ds, r)
  | s => .ok (none, s)

def exponentPart (care : Care) : List Char → Result (Option Int)
  | c :: r =>
    if c = 'e' ∨ c = 'E' then
      let (negative, r) := match r with
        | '+' :: r => (false, r)
        | '-' :: r => (true, r)
        | r => (false, r)
      (digits care r).map fun (ds, r) =>
        let n : Int := Text.decimalValue ds
        (some (if negative then -n else n), r)
    else .ok (none, c :: r)
  | [] => .ok (none, [])

/-- The number a literal stands for: without point and exponent an integer, if it fits 64 bits,
signed when negative; else the nearest 64-bit real number, as is a negative zero. None beyond the
range. -/
def ofLiteral? (negative : Bool) (whole : List Char) (fraction : Option (List Char))
    (exponent : Option Int) : Option Number :=
  let n := Text.decimalValue whole
  let real := (Decimal.ofScientific? negative (whole ++ fraction.getD [])
    (exponent.getD 0 - (fraction.getD []).length)).map Number.real
  match fraction, exponent, negative with
  | none, none, false => if n < Nat.pow 2 64 then some (.int n) else real
  | none, none, true => if n ≠ 0 ∧ n ≤ Nat.pow 2 63 then some (.int (-n)) else real
  | _, _, _ => real

def number (care : Care) (negative : Bool) (s : List Char) :
    Except Problem (Number × List Char) := do
  let (whole, r) ← wholeDigits care s
  let (fraction, r) ← fractionDigits care r
  let (exponent, r) ← exponentPart care r
  match care, ofLiteral? negative whole fraction exponent with
  | .skipped, _ => .ok (.int 0, r)
  | .kept, some n => .ok (n, r)
  | .kept, none => .error .malformed

/-! ### Values -/

def colon (s : List Char) : Except Problem (List Char) :=
  match skipBlank s with
  | ':' :: r => .ok r
  | [] => .error .unexpectedEnd
  | _ => .error .malformed

def key (care : Care) (s : List Char) : Result String :=
  match skipBlank s with
  | '"' :: r => text care r
  | [] => .error .unexpectedEnd
  | _ => .error .malformed

mutual

/-- Reads a value in which arrays and objects may nest `depth` times. -/
def value (care : Care) : (fuel depth : Nat) → List Char → Result Json
  | 0, _, _ => .error .malformed
  | fuel + 1, depth, s =>
    match skipBlank s with
    | [] => .error .unexpectedEnd
    | 'n' :: r => word .null ['u', 'l', 'l'] r
    | 't' :: r => word (.bool true) ['r', 'u', 'e'] r
    | 'f' :: r => word (.bool false) ['a', 'l', 's', 'e'] r
    | '-' :: r => (number care true r).map fun (n, r) => (.number n, r)
    | '"' :: r => (text care r).map fun (t, r) => (.string t, r)
    | '[' :: r =>
      if care = .kept ∧ depth = 0 then .error .malformed
      else match skipBlank r with
        | ']' :: r => .ok (.array [], r)
        | r => items care fuel (depth - 1) [] r
    | '{' :: r =>
      if care = .kept ∧ depth = 0 then .error .malformed
      else match skipBlank r with
        | '}' :: r => .ok (.object [], r)
        | r => members care fuel (depth - 1) [] r
    | c :: r =>
      if c.isDigit then (number care false (c :: r)).map fun (n, r) => (.number n, r)
      else .error .malformed

/-- Reads the items of an array, those in `read` being read already, last first. -/
def items (care : Care) : (fuel depth : Nat) → (read : List Json) → List Char → Result Json
  | 0, _, _, _ => .error .malformed
  | fuel + 1, depth, read, s =>
    match value care fuel depth s with
    | .error p => .error p
    | .ok (v, r) =>
      match skipBlank r with
      | ',' :: r => items care fuel depth (v :: read) r
      | ']' :: r => .ok (.array (v :: read).reverse, r)
      | [] => .error .unexpectedEnd
      | _ => .error .malformed

/-- Reads the members of an object into the fields read already; a later one with the key of an
earlier one takes its place. -/
def members (care : Care) : (fuel depth : Nat) → (read : Fields) → List Char → Result Json
  | 0, _, _, _ => .error .malformed
  | fuel + 1, depth, read, s =>
    match key care s with
    | .error p => .error p
    | .ok (k, r) =>
      match colon r with
      | .error p => .error p
      | .ok r =>
        match value care fuel depth r with
        | .error p => .error p
        | .ok (v, r) =>
          let read := read.insert k v
          match skipBlank r with
          | ',' :: r => members care fuel depth read r
          | '}' :: r => .ok (.object read, r)
          | [] => .error .unexpectedEnd
          | _ => .error .malformed

end

/-- Enough turns for any text of this length: a value and the list it stands in share a
character. -/
def fuelFor (s : List Char) : Nat :=
  2 * s.length + 2

/-- Reads a value and keeps it. -/
def any (depth : Nat) (s : List Char) : Result Json :=
  value .kept (fuelFor s) depth s

/-- Reads past a value. -/
def skipped (s : List Char) : Result Json :=
  value .skipped (fuelFor s) 0 s

/-- Nothing but blanks is left. -/
def finish {α : Type} : Result α → Except Problem α
  | .error p => .error p
  | .ok (a, r) => if (skipBlank r).isEmpty then .ok a else .error .malformed

end Json.Read

def Json.read (s : String) : Except Json.Problem Json :=
  Json.Read.finish (Json.Read.any Json.Read.maxDepth s.toList)

end GraphLoad
