import GraphLoad.Specification.Format

/-!
Checking a specification before anything is written. The groups are checked in order, node groups
first, and the first fault counts.
-/

namespace GraphLoad

inductive PayloadError where
  | undecodable (cause : DecodeError)
  /-- A node group has no label, or an empty one. -/
  | unlabelled (group : Nat)
  /-- A node group names no key. -/
  | emptyKey (group : Nat) (label : String)
  /-- A record of a node group has no value for the key. -/
  | keyless (record group : Nat) (label key : String)
  /-- A relationship group names no type. -/
  | emptyType (group : Nat)
  /-- An endpoint lacks one of its two keys. -/
  | incompleteEndpoint (group : Nat) (type : String) (side : Side)
  /-- An endpoint's label is given, but empty. -/
  | emptyNodeLabel (group : Nat) (type : String) (side : Side)
deriving DecidableEq, Repr

def PayloadError.message : PayloadError → String
  | undecodable cause => cause.message
  | unlabelled group => s!"node group {group} needs at least one non-empty label"
  | emptyKey group label => s!"node group {group} ({label}) has an empty key"
  | keyless record group label key =>
    s!"record {record} of node group {group} ({label}) has no value for key '{key}'"
  | emptyType group => s!"relationship group {group} has an empty type"
  | incompleteEndpoint group type side =>
    s!"relationship group {group} ({type}) {side.fieldName} needs node_key and record_key"
  | emptyNodeLabel group type side =>
    s!"relationship group {group} ({type}) {side.fieldName} has an empty node_label"

/-- Whether a record has a value other than `null` for a key. -/
def Record.hasValue (record : Record) (key : String) : Bool :=
  (Path.present (Fields.get? record key)).isSome

def NodeGroup.fault? (g : NodeGroup) (position : Nat) : Option PayloadError :=
  match g.labels with
  | [] => some (.unlabelled position)
  | label :: _ =>
    if g.labels.any (·.isEmpty) then some (.unlabelled position)
    else if g.key.isEmpty then some (.emptyKey position label)
    else (g.records.findIdx? (!·.hasValue g.key)).map (.keyless · position label g.key)

def RelationshipGroup.endpointFault? (g : RelationshipGroup) (position : Nat) (side : Side) :
    Option PayloadError :=
  let e := g.endpoint side
  if e.nodeKey.isEmpty ∨ e.recordKey.isEmpty then some (.incompleteEndpoint position g.type side)
  else if e.label = some "" then some (.emptyNodeLabel position g.type side)
  else none

def RelationshipGroup.fault? (g : RelationshipGroup) (position : Nat) : Option PayloadError :=
  if g.type.isEmpty then some (.emptyType position)
  else (g.endpointFault? position .source).or (g.endpointFault? position .target)

namespace Specification

def fault? (s : Specification) : Option PayloadError :=
  (s.nodes.zipIdx.findSome? fun (g, i) => g.fault? i).or
    (s.relationships.zipIdx.findSome? fun (g, i) => g.fault? i)

def validate (s : Specification) : Except PayloadError Unit :=
  match s.fault? with
  | some fault => .error fault
  | none => .ok ()

/-- Decodes a payload and checks it. -/
def ofJson (payload : Json) : Except PayloadError Specification :=
  match shape.decode payload with
  | .error cause => .error (.undecodable cause)
  | .ok s => s.validate.map fun _ => s

end Specification
end GraphLoad
