import GraphLoad.Text.Digits

/-!
Names in statements. An identifier stands in backticks, with a backtick inside it doubled. A
placeholder may only use ASCII letters, digits and underscores, so every other character of its key
is written by its code, between underscores.
-/

namespace GraphLoad.Cypher

def quoteChar (c : Char) : List Char :=
  if c = '\x60' then ['\x60', '\x60'] else [c]

def quoteChars (name : List Char) : List Char :=
  '\x60' :: name.flatMap quoteChar ++ ['\x60']

/-- A label, relationship type or property key as a statement writes it. -/
def quote (name : String) : String :=
  String.ofList (quoteChars name.toList)

/-- A character inside a placeholder: an underscore is doubled, a letter or digit stands for
itself, any other is written `_x`, its code in hexadecimal, and `_`. -/
def placeholderChar (c : Char) : List Char :=
  if c = '_' then ['_', '_']
  else if c.isAlphanum then [c]
  else '_' :: 'x' :: Text.hex c.toNat ++ ['_']

/-- The placeholder for a key in the record that the suffix stands for. -/
def placeholder (key suffix : String) : String :=
  String.ofList (key.toList.flatMap placeholderChar ++ '_' :: suffix.toList)

end GraphLoad.Cypher
