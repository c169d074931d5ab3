import GraphLoad.Json.Decode
import GraphLoad.Json.Reader

/-!
Reading a record straight from text. As with a decoded value the text is an object or the array of
the parts in order; fields that are no parts are read past. Since a problem counts where it stands
in the text, a part of the wrong kind goes before a fault later in the text, and a part may be given
only once.
-/

namespace GraphLoad

/-- A part of a record type as it is read from text, in which arrays and objects may nest `depth`
times. -/
structure TextPart (ρ : Type) where
  name : String
  absence : Absence
  read : (depth : Nat) → ρ → List Char → Json.Read.Result ρ

/-- A record type as it is read from text: its parts, and the record whose parts are all at their
defaults. -/
structure TextShape (ρ : Type) where
  parts : List (TextPart ρ)
  blank : ρ

namespace Json.Read

/-- The text does not start with what is wanted: it is malformed or holds something else. Arrays and
objects are not looked into. -/
def unwanted {α : Type} (s : List Char) : Result α :=
  match skipBlank s with
  | '[' :: _ | '{' :: _ => .error .mismatch
  | s => match any 0 s with
    | .error p => .error p
    | .ok _ => .error .mismatch

end Json.Read

namespace TextPart

variable {ρ : Type}

/-- A part that may be any value. -/
def whole (p : Part ρ) : TextPart ρ where
  name := p.name
  absence := p.absence
  read depth record s :=
    match Json.Read.any depth s with
    | .error p => .error p
    | .ok (v, r) => match p.read v record with
      | .error _ => .error .mismatch
      | .ok record => .ok (record, r)

/-- A part that is neither array nor object. -/
def scalar (p : Part ρ) : TextPart ρ where
  name := p.name
  absence := p.absence
  read _ record s :=
    match Json.Read.skipBlank s with
    | '[' :: _ | '{' :: _ => .error .mismatch
    | s => (whole p).read 0 record s

end TextPart

namespace TextShape

open Json.Read

variable {ρ : Type}

/-- The record at the end of an object in which these parts were seen. -/
def closed (t : TextShape ρ) (seen : List String) (record : ρ) (rest : List Char) : Result ρ :=
  if t.parts.any fun part => part.absence = .required ∧ !seen.contains part.name then
    .error .mismatch
  else .ok (record, rest)

/-- Reads the members of an object up to the closing brace: `seen` are the parts given so far, none
before the first member. -/
def members (t : TextShape ρ) (depth : Nat) : (fuel : Nat) → (first : Bool) →
    (seen : List String) → ρ → List Char → Result ρ
  | 0, _, _, _, _ => .error .malformed
  | fuel + 1, first, seen, record, s =>
    match skipBlank s, first with
    | [], _ => .error .unexpectedEnd
    | '}' :: r, _ => t.closed seen record r
    | ',' :: s, false | s, true =>
      match key .kept s with
      | .error p => .error p
      | .ok (k, r) =>
        match t.parts.find? (·.name == k) with
        | none =>
          match colon r with
          | .error p => .error p
          | .ok r => match skipped r with
            | .error p => .error p
            | .ok (_, r) => members t depth fuel false seen record r
        | some part =>
          if seen.contains k then .error .mismatch
          else match colon r with
            | .error p => .error p
            | .ok r => match part.read depth record r with
              | .error p => .error p
              | .ok (record, r) => members t depth fuel false (k :: seen) record r
    | _ :: _, false => .error .malformed

/-- Reads the items of an array into the given parts, and the closing bracket. -/
def items (depth : Nat) : (parts : List (TextPart ρ)) → (first : Bool) → ρ → List Char → Result ρ
  | [], _, record, s =>
    match skipBlank s with
    | [] => .error .unexpectedEnd
    | ']' :: r => .ok (record, r)
    | _ => .error .malformed
  | part :: parts, first, record, s =>
    let next (s : List Char) : Result ρ :=
      match part.read depth record s with
      | .error p => .error p
      | .ok (record, r) => items depth parts false record r
    match skipBlank s, first with
    | [], _ => .error .unexpectedEnd
    | ']' :: r, _ =>
      if (part :: parts).all (·.absence = .defaulted) then .ok (record, r) else .error .mismatch
    | s, true => next s
    | ',' :: s, false =>
      match skipBlank s with
      | [] => .error .unexpectedEnd
      | ']' :: _ => .error .malformed
      | s => next s
    | _ :: _, false => .error .malformed

/-- Reads a record in which arrays and objects may nest so deep, its own brackets included. -/
def read (t : TextShape ρ) (depth : Nat) (s : List Char) : Result ρ :=
  match skipBlank s with
  | '[' :: r => if depth = 0 then .error .malformed else items (depth - 1) t.parts true t.blank r
  | '{' :: r =>
    if depth = 0 then .error .malformed
    else members t (depth - 1) (r.length + 1) true [] t.blank r
  | s => unwanted s

def ofText (t : TextShape ρ) (s : String) : Except Json.Problem ρ :=
  finish (t.read maxDepth s.toList)

end TextShape

/-- A part that is a record itself. -/
def TextPart.nested {ρ τ : Type} (name : String) (absence : Absence) (t : TextShape τ)
    (set : τ → ρ → ρ) : TextPart ρ where
  name := name
  absence := absence
  read depth record s := (t.read depth s).map fun (v, r) => (set v record, r)

end GraphLoad
