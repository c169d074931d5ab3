import GraphLoad.Cypher.Name
import GraphLoad.Record.Property

/-!
Statements with parameters. A statement lists elements, one for each record: the values that
identify nodes, and a block of properties. Values never stand in the text. Each is bound to a
placeholder, which is its key followed by the suffix of the element.
-/

namespace GraphLoad

/-- A write statement, ready to run. -/
structure Statement where
  text : String
  parameters : Fields
  /-- The number of properties that the statement assigns. -/
  propertyBindings : Nat
deriving DecidableEq, Repr

/-- What a statement wrote. -/
structure Counters where
  nodesCreated : Nat
  relationshipsCreated : Nat
  propertiesSet : Nat
deriving DecidableEq, Repr

/-- A block of properties, and the parameters it refers to. -/
structure Fragment where
  text : String
  parameters : Fields
deriving DecidableEq, Repr

namespace Fragment

def ofProperties (suffix : String) (properties : Fields) : Fragment where
  text := " \x7b" ++ ", ".intercalate (properties.map fun e =>
    Cypher.quote e.1 ++ ":$" ++ Cypher.placeholder e.1 suffix) ++ "\x7d"
  parameters := Fields.ofList (properties.map fun e => (Cypher.placeholder e.1 suffix, e.2))

def ofRecord (suffix : String) (exclude : List String) (record : Record) : Fragment :=
  ofProperties suffix (Property.of exclude record)

def size (f : Fragment) : Nat :=
  f.parameters.length

end Fragment

/-- One record as a statement writes it: the values that identify nodes, each with the key it was
found under, and the properties. -/
structure Element where
  suffix : String
  ends : Fields
  properties : Fields
deriving DecidableEq, Repr

namespace Element

def fragment (e : Element) : Fragment :=
  .ofProperties e.suffix e.properties

/-- The identifying placeholders and the block of properties, in brackets. -/
def text (e : Element) : String :=
  "[" ++ ", ".intercalate (e.ends.map fun v => "$" ++ Cypher.placeholder v.1 e.suffix) ++ "," ++
    e.fragment.text ++ "]"

/-- The parameters in the order in which they are bound: an identifying value is bound after the
properties, so it stands where both have one placeholder. -/
def bindings (e : Element) : List (String × Json) :=
  e.fragment.parameters ++ e.ends.map fun v => (Cypher.placeholder v.1 e.suffix, v.2)

end Element

namespace Statement

/-- The statement that lists the elements under a name, writes each by the given clauses. -/
def ofElements (elements : List Element) (listName clauses : String) : Statement where
  text := "WITH [" ++ ", ".intercalate (elements.map Element.text) ++ "] AS " ++ listName ++ "\n" ++
    clauses
  parameters := Fields.ofList (elements.flatMap Element.bindings)
  propertyBindings := (elements.flatMap (·.fragment.parameters)).length

end Statement
end GraphLoad
