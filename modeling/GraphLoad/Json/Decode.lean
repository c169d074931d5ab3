import GraphLoad.Json.Printer
import GraphLoad.Number.Binary64
import GraphLoad.Text.Visible

/-!
Decoding values into types. A record type is described by its parts (`Shape`) and may be given as
an object or as the array of its parts in order. Of an object the fields are visited in their order
and the first problem counts; parts that are missing are complained about after that, in the order
of the parts.
-/

namespace GraphLoad

inductive DecodeError where
  | invalidType (found : Json) (expected : String)
  | invalidValue (found : Int) (expected : String)
  | invalidLength (length : Nat) (expected : String)
  | missingField (name : String)
  | unknownField (name : String) (known : List String)
  | duplicateField (name : String)
  /-- A text that is no time. -/
  | invalidTime (reason : String)
deriving DecidableEq, Repr

namespace DecodeError

def describe : Json → String
  | .null => "null"
  | .bool b => "boolean `" ++ (if b then "true" else "false") ++ "`"
  | .number (.int i) => "integer `" ++ String.ofList (Number.int i).chars ++ "`"
  | .number (.real d) => "floating point `" ++ String.ofList (Number.real d).chars ++ "`"
  | .string s => "string " ++ Text.shown s
  | .array _ => "sequence"
  | .object _ => "map"

private def ticked (name : String) : String :=
  "`" ++ name ++ "`"

private def oneOf : List String → String
  | [] => "there are no fields"
  | [a] => "expected " ++ ticked a
  | [a, b] => "expected " ++ ticked a ++ " or " ++ ticked b
  | names => "expected one of " ++ ", ".intercalate (names.map ticked)

def message : DecodeError → String
  | invalidType found expected => "invalid type: " ++ describe found ++ ", expected " ++ expected
  | invalidValue found expected =>
    "invalid value: " ++ describe (.number (.int found)) ++ ", expected " ++ expected
  | invalidLength length expected => s!"invalid length {length}, expected " ++ expected
  | missingField name => "missing field " ++ ticked name
  | unknownField name known => "unknown field " ++ ticked name ++ ", " ++ oneOf known
  | duplicateField name => "duplicate field " ++ ticked name
  | invalidTime reason => reason

end DecodeError

namespace Json.Decode

/-- A decoded value or the first problem. -/
abbrev Outcome (α : Type) := Except DecodeError α

def string : Json → Outcome String
  | .string s => .ok s
  | j => .error (.invalidType j "a string")

def bool : Json → Outcome Bool
  | .bool b => .ok b
  | j => .error (.invalidType j "a boolean")

/-- Decodes an integer from `low` up to but not including `high`. -/
def integer (expected : String) (low high : Int) : Json → Outcome Int
  | .number (.int i) =>
    if low ≤ i ∧ i < high then .ok i else .error (.invalidValue i expected)
  | j => .error (.invalidType j expected)

/-- Decodes a natural number below `2 ^ bits`. -/
def natural (expected : String) (bits : Nat) (j : Json) : Outcome Nat :=
  (integer expected 0 (Nat.pow 2 bits) j).map Int.toNat

def size : Json → Outcome Nat :=
  natural "usize" 64

def counter : Json → Outcome Nat :=
  natural "u64" 64

/-- Decodes a real number; an integer stands for the 64-bit number nearest to it. -/
def real : Json → Outcome Decimal
  | .number (.int i) => .ok (.ofInt i)
  | .number (.real d) => .ok d
  | j => .error (.invalidType j "f64")

/-- Decodes the items of an array, up to the first problem. -/
def sequence {α : Type} (item : Json → Outcome α) : Json → Outcome (List α)
  | .array items => items.mapM item
  | j => .error (.invalidType j "a sequence")

def fields : Json → Outcome Fields
  | .object fs => .ok fs
  | j => .error (.invalidType j "a map")

def optional {α : Type} (value : Json → Outcome α) : Json → Outcome (Option α)
  | .null => .ok none
  | j => (value j).map some

end Json.Decode

/-- What it means that a part of a record is not given. -/
inductive Absence where
  /-- The part has to be given. -/
  | required
  /-- In an object the part may be left out, for `null`. -/
  | nullable
  /-- The part may be left out, for its default. -/
  | defaulted
deriving DecidableEq, Repr

/-- A part of a record type: its name, all names it goes by, and how it is written into a record. -/
structure Part (ρ : Type) where
  name : String
  spellings : List String
  absence : Absence
  read : Json → ρ → Except DecodeError ρ

/-- A record type: its name and parts, and the record whose parts are all at their defaults. In a
strict one every field of an object has to be a part. -/
structure Shape (ρ : Type) where
  name : String
  strict : Bool
  parts : List (Part ρ)
  blank : ρ

namespace Shape

variable {ρ : Type}

def spellings (s : Shape ρ) : List String :=
  s.parts.flatMap Part.spellings

/-- Visits a field of an object: the record so far and the parts seen so far. -/
def visit (s : Shape ρ) (so : ρ × List String) (field : String × Json) :
    Except DecodeError (ρ × List String) :=
  match s.parts.find? (·.spellings.contains field.1) with
  | none => if s.strict then .error (.unknownField field.1 s.spellings) else .ok so
  | some part =>
    if so.2.contains part.name then .error (.duplicateField part.name)
    else (part.read field.2 so.1).map (·, part.name :: so.2)

def decodeFields (s : Shape ρ) (fields : Fields) : Except DecodeError ρ := do
  let (record, seen) ← fields.foldlM s.visit (s.blank, [])
  match s.parts.find? fun part => part.absence = .required ∧ !seen.contains part.name with
  | some part => .error (.missingField part.name)
  | none => .ok record

/-- Decodes the items of an array into the parts from position `index` on. -/
def decodeItemsFrom (s : Shape ρ) (total : Nat) :
    (parts : List (Part ρ)) → (items : List Json) → (index : Nat) → ρ → Except DecodeError ρ
  | [], [], _, record => .ok record
  | [], _ :: _, _, _ => .error (.invalidLength total "fewer elements in array")
  | part :: parts, [], index, record =>
    if part.absence = .defaulted then decodeItemsFrom s total parts [] (index + 1) record
    else .error (.invalidLength index s!"struct {s.name} with {s.parts.length} elements")
  | part :: parts, item :: items, index, record =>
    match part.read item record with
    | .error e => .error e
    | .ok record => decodeItemsFrom s total parts items (index + 1) record

/-- Decodes a record given as an object or as the array of its parts. -/
def decode (s : Shape ρ) : Json → Except DecodeError ρ
  | .object fields => s.decodeFields fields
  | .array items => s.decodeItemsFrom items.length s.parts items 0 s.blank
  | j => .error (.invalidType j ("struct " ++ s.name))

end Shape

/-- A part with one name, read by a decoder and written by a setter. -/
def Part.of {ρ α : Type} (name : String) (absence : Absence) (value : Json → Except DecodeError α)
    (set : α → ρ → ρ) : Part ρ :=
  ⟨name, [name], absence, fun j record => (value j).map (set · record)⟩

end GraphLoad
