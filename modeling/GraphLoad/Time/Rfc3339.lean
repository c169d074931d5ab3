import GraphLoad.Json.Decode
import GraphLoad.Text.Space
import GraphLoad.Time.Instant

/-!
Times as text, by RFC 3339. They are written in UTC with as few of 0, 3, 6 or 9 places as are exact.
They are read with any offset, and with some freedom: blanks around the parts, `t` or a blank for
`T`, `UTC` for `Z`.
-/

namespace GraphLoad

namespace Instant

/-- Four digits, or a sign and at least four for years that need one. -/
private def yearChars (year : Int) : List Char :=
  let digits := Text.padZero 4 (Text.decimal year.natAbs)
  if year < 0 then '-' :: digits else if 9999 < year then '+' :: digits else digits

private def two (n : Nat) : List Char :=
  Text.padZero 2 (Text.decimal n)

private def fractionChars (nanoseconds : Nat) : List Char :=
  if nanoseconds = 0 then []
  else if nanoseconds % 1000000 = 0 then
    '.' :: Text.padZero 3 (Text.decimal (nanoseconds / 1000000))
  else if nanoseconds % 1000 = 0 then '.' :: Text.padZero 6 (Text.decimal (nanoseconds / 1000))
  else '.' :: Text.padZero 9 (Text.decimal nanoseconds)

/-- The time in UTC. A leap second is written as second 60. -/
def text (t : Instant) : String :=
  let d := t.date
  let leap := if billion ≤ t.nanoseconds then 1 else 0
  let s := t.secondsOfDay
  String.ofList <| yearChars d.year ++ '-' :: two d.month ++ '-' :: two d.day ++ 'T' ::
    two (s / 3600) ++ ':' :: two (s / 60 % 60) ++ ':' :: two (s % 60 + leap) ++
    fractionChars (t.nanoseconds - leap * billion) ++ ['Z']

inductive Problem where
  | outOfRange
  | impossible
  | invalid
  | tooShort
  | tooLong
deriving DecidableEq, Repr

def Problem.message : Problem → String
  | outOfRange => "input is out of range"
  | impossible => "no possible date and time matching input"
  | invalid => "input contains invalid characters"
  | tooShort => "premature end of input"
  | tooLong => "trailing input"

namespace Read

/-- What a reader answers: what it read and the characters that are left. -/
abbrev Result (α : Type) := Except Problem (α × List Char)

/-- Reads one digit up to as many as allowed, after white space. -/
def digits (atMost : Nat) (s : List Char) : Result Nat :=
  let s := Text.trimStart s
  match s, (s.take atMost).takeWhile Char.isDigit with
  | [], _ => .error .tooShort
  | _, [] => .error .invalid
  | _, ds => .ok (Text.decimalValue ds, s.drop ds.length)

def bounded (low high : Nat) (s : List Char) : Result Nat :=
  match digits 2 s with
  | .error p => .error p
  | .ok (n, r) => if low ≤ n ∧ n ≤ high then .ok (n, r) else .error .outOfRange

/-- Reads a year: four digits at most, or any number of them after a sign. -/
def year (s : List Char) : Result Int :=
  let signed (negative : Bool) (r : List Char) : Result Int :=
    match r, r.takeWhile Char.isDigit with
    | [], _ => .error .tooShort
    | _, [] => .error .invalid
    | _, ds =>
      let n : Int := Text.decimalValue ds
      let y := if negative then -n else n
      if -Nat.pow 2 31 ≤ y ∧ y < Nat.pow 2 31 then .ok (y, r.drop ds.length) else .error .outOfRange
  match Text.trimStart s with
  | '-' :: r => signed true r
  | '+' :: r => signed false r
  | s => (digits 4 s).map fun (n, r) => ((n : Int), r)

/-- Reads a given character after white space. -/
def mark (c : Char) (s : List Char) : Except Problem (List Char) :=
  match Text.trimStart s with
  | [] => .error .tooShort
  | d :: r => if d = c then .ok r else .error .invalid

/-- Reads the places after a point, if there is one, as nanoseconds. Places after the ninth are
dropped. -/
def fraction : List Char → Result Nat
  | '.' :: r =>
    match r, r.takeWhile Char.isDigit with
    | [], _ => .error .tooShort
    | _, [] => .error .invalid
    | _, ds =>
      let kept := ds.take 9
      .ok (Text.decimalValue kept * Nat.pow 10 (9 - kept.length), r.drop ds.length)
  | s => .ok (0, s)

/-- Reads two digits of an offset, the first of them below a bound. -/
def offsetPair (firstBelow : Char) : List Char → Result Nat
  | [] => .error .tooShort
  | [c] => .error (if c.utf8Size < 2 then .tooShort else .invalid)
  | a :: b :: r =>
    if !a.isDigit || !b.isDigit then .error .invalid
    else if firstBelow ≤ a then .error .outOfRange
    else .ok (Text.decimalValue [a, b], r)

/-- Reads an offset in seconds: `Z`, `UTC`, or a sign, hours and minutes with colons or white space
between. -/
def offset (s : List Char) : Result Int :=
  let signed (negative : Bool) (r : List Char) : Result Int :=
    match offsetPair ':' r with
    | .error p => .error p
    | .ok (hours, r) =>
      match offsetPair '6' (r.dropWhile fun c => c == ':' || Text.isSpace c) with
      | .error p => .error p
      | .ok (minutes, r) =>
        let seconds : Int := hours * 3600 + minutes * 60
        .ok (if negative then -seconds else seconds, r)
  match Text.trimStart s with
  | [] => .error .tooShort
  | a :: b :: c :: r =>
    if [a, b, c].map Char.toUpper = ['U', 'T', 'C'] then .ok (0, r)
    else if a = 'Z' ∨ a = 'z' then .ok (0, b :: c :: r)
    else if a = '+' then signed false (b :: c :: r)
    else if a = '-' ∨ a = '−' then signed true (b :: c :: r)
    else .error .invalid
  | a :: r =>
    if a = 'Z' ∨ a = 'z' then .ok (0, r)
    else if a = '+' then signed false r
    else if a = '-' ∨ a = '−' then signed true r
    else .error .invalid

end Read

def read (s : List Char) : Except Problem Instant := do
  let (year, s) ← Read.year s
  let s ← Read.mark '-' s
  let (month, s) ← Read.bounded 1 12 s
  let s ← Read.mark '-' s
  let (day, s) ← Read.bounded 1 31 s
  let s ← match s with
    | [] => .error .tooShort
    | c :: s => if c = 'T' ∨ c = 't' ∨ c = ' ' then .ok s else .error .invalid
  let (hour, s) ← Read.bounded 0 23 s
  let s ← Read.mark ':' s
  let (minute, s) ← Read.bounded 0 59 s
  let s ← Read.mark ':' s
  let (second, s) ← Read.bounded 0 60 s
  let (nanoseconds, s) ← Read.fraction s
  let (offset, s) ← Read.offset s
  if !(Text.trimStart s).isEmpty then .error .tooLong
  else
    let date : Date := ⟨year, month, day⟩
    -- Second 60 is the second before it, a billion nanoseconds late.
    let leap : Nat := if second = 60 then 1 else 0
    let seconds : Int := hour * 3600 + minute * 60 + second - leap
    let t : Instant := ⟨date.toDays * 86400 + seconds - offset, nanoseconds + leap * billion⟩
    if !date.isValid || 86400 ≤ offset.natAbs then .error .outOfRange
    else if t.inRange then .ok t
    else .error .impossible

end Instant

def Json.Decode.time : Json → Except DecodeError Instant
  | .string s => (Instant.read s.toList).mapError fun p => .invalidTime p.message
  | j => .error (.invalidType j "an RFC 3339 formatted date and time string")

end GraphLoad
