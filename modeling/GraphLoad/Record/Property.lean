import GraphLoad.Record.Record

/-!
Properties: which fields of a record are written to the graph, and as what. Blank fields are left
out, and nested values are written as their text, since a property cannot hold them.
-/

namespace GraphLoad.Property

/-- The texts that stand for "no value", in lower case. -/
def sentinels : List String := ["none", "null", "empty"]

/-- Whether a value is not to be written: `null`, the empty text, or a sentinel in any case of its
ASCII letters. -/
def isBlank : Json → Bool
  | .null => true
  | .string s => s.isEmpty || sentinels.contains (s.map Char.toLower)
  | _ => false

/-- A value in the form in which it is handed over: arrays and objects as their text. -/
def bindable : Json → Json
  | .array items => .string (Json.array items).render
  | .object fields => .string (Json.object fields).render
  | scalar => scalar

/-- The properties that a record gives: its fields that are neither excluded nor blank. -/
def of (exclude : List String) (record : Record) : Fields :=
  (record.filter fun e => !exclude.contains e.1 && !isBlank e.2).map fun e => (e.1, bindable e.2)

end GraphLoad.Property
