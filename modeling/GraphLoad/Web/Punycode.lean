/-!
Punycode: texts written in letters, digits and hyphens. What is plain stands in front, up to the
last hyphen; behind it, numbers say in ascending order of codes which characters go in between, and
where. The digits of a number have weights that adapt to the numbers before it.
-/

namespace GraphLoad.Punycode

/-- The value of a digit of base 36, of which the letters come first. -/
def digit? (c : Char) : Option Nat :=
  if 'a' ≤ c && c ≤ 'z' then some (c.toNat - 'a'.toNat)
  else if 'A' ≤ c && c ≤ 'Z' then some (c.toNat - 'A'.toNat)
  else if c.isDigit then some (c.toNat - '0'.toNat + 26)
  else none

/-- The value from which on a digit is not the last one of its number, for the digit whose place is
`k / 36`, counted from one. -/
def threshold (k bias : Nat) : Nat :=
  max 1 (min 26 (k - bias))

/-- Divides by 35 until the number is small, and counts 36 for each time. -/
def damp (delta : Nat) : Nat × Nat :=
  if 455 < delta then
    let (rest, k) := damp (delta / 35)
    (rest, k + 36)
  else (delta, 0)
termination_by delta
decreasing_by omega

/-- The bias after a number, given how many characters there are then. -/
def adapt (delta count : Nat) (isFirst : Bool) : Nat :=
  let delta := if isFirst then delta / 700 else delta / 2
  let (rest, k) := damp (delta + delta / count)
  k + 36 * rest / (rest + 38)

/-- Reads a number, least digit first, and adds it to `sum`. Sums and weights have 32 bits. -/
def number? (bias : Nat) : (k weight sum : Nat) → List Char → Option (Nat × List Char)
  | _, _, _, [] => none
  | k, weight, sum, c :: r =>
    match digit? c with
    | none => none
    | some d =>
      let sum := sum + d * weight
      let next := weight * (36 - threshold k bias)
      if Nat.pow 2 32 ≤ sum then none
      else if d < threshold k bias then some (sum, r)
      else if Nat.pow 2 32 ≤ next then none
      else number? bias (k + 36) next sum r

/-- What is left behind a number is shorter. -/
theorem length_lt_of_number? {bias k weight sum n : Nat} {s r : List Char}
    (h : number? bias k weight sum s = some (n, r)) : r.length < s.length := by
  induction s generalizing k weight sum with
  | nil => simp [number?] at h
  | cons c t ih =>
    unfold number? at h
    split at h
    · simp at h
    · simp only at h
      split at h
      · simp at h
      · split at h
        · obtain ⟨-, rfl⟩ := Prod.mk.inj (Option.some.inj h)
          exact Nat.lt_succ_self _
        · split at h
          · simp at h
          · exact Nat.lt_succ_of_lt (ih h)

/-- Puts the characters in between. `code` is that of the last one, `place` the place behind it. -/
def fill (bias code place : Nat) (text : List Char) (s : List Char) : Option (List Char) :=
  if s.isEmpty then some text
  else match _ : number? bias 36 1 place s with
    | none => none
    | some (sum, r) =>
      let count := text.length + 1
      let code := code + sum / count
      if code.isValidChar then
        fill (adapt (sum - place) count (place == 0)) code (sum % count + 1)
          (text.insertIdx (sum % count) (Char.ofNat code)) r
      else none
termination_by s.length
decreasing_by exact length_lt_of_number? ‹_›

/-- What stands before the last hyphen and behind it. A hyphen that comes first is none. -/
def cut (s : List Char) : List Char × List Char :=
  let behind := (s.reverse.takeWhile (· != '-')).reverse
  let plain := (s.reverse.dropWhile (· != '-')).tail.reverse
  if plain.isEmpty then ([], s) else (plain, behind)

def decode (s : List Char) : Option (List Char) :=
  let (plain, behind) := cut s
  fill 72 128 0 plain behind

end GraphLoad.Punycode
