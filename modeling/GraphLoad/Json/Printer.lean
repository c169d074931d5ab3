import GraphLoad.Json.Value

/-!
The compact written form of values: no blanks, fields in the order they stand, and in texts only
what must be escaped.
-/

namespace GraphLoad

/-- Decimals whose first digit has an exponent from -5 to 15 are written without an exponent. -/
def Number.layout : Decimal.Layout := ⟨-5, 15⟩

def Number.chars : Number → List Char
  | .int i => if i < 0 then '-' :: Text.decimal i.natAbs else Text.decimal i.natAbs
  | .real d => d.chars layout

namespace Json

def escape (c : Char) : List Char :=
  match c with
  | '"' => ['\\', '"']
  | '\\' => ['\\', '\\']
  | '\n' => ['\\', 'n']
  | '\r' => ['\\', 'r']
  | '\t' => ['\\', 't']
  | '\x08' => ['\\', 'b']
  | '\x0c' => ['\\', 'f']
  | c => if c.toNat < 0x20 then '\\' :: 'u' :: Text.padZero 4 (Text.hex c.toNat) else [c]

def quote (s : List Char) : List Char :=
  '"' :: s.flatMap escape ++ ['"']

mutual

def chars : Json → List Char
  | .null => ['n', 'u', 'l', 'l']
  | .bool true => ['t', 'r', 'u', 'e']
  | .bool false => ['f', 'a', 'l', 's', 'e']
  | .number n => n.chars
  | .string s => quote s.toList
  | .array [] => ['[', ']']
  | .array (v :: r) => '[' :: chars v ++ itemsChars r
  | .object [] => ['{', '}']
  | .object ((k, v) :: r) => '{' :: quote k.toList ++ ':' :: chars v ++ fieldsChars r

/-- The items after the first, and the closing bracket. -/
def itemsChars : List Json → List Char
  | [] => [']']
  | v :: r => ',' :: chars v ++ itemsChars r

/-- The fields after the first, and the closing bracket. -/
def fieldsChars : List (String × Json) → List Char
  | [] => ['}']
  | (k, v) :: r => ',' :: quote k.toList ++ ':' :: chars v ++ fieldsChars r

end

/-- The compact text of a value. -/
def render (j : Json) : String :=
  String.ofList j.chars

end Json
end GraphLoad
