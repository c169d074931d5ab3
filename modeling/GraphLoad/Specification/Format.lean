import GraphLoad.Json.Decode
import GraphLoad.Specification.Group

/-!
Specifications as JSON. Each type has a shape, by which it is decoded, and an encoder, which writes
all parts.
-/

namespace GraphLoad

open Json.Decode

def Record.decode : Json → Except DecodeError Record :=
  fields

/-- A set of keys, given as an array of keys in any order. -/
def KeySet.decode (j : Json) : Except DecodeError KeySet :=
  (sequence string j).map KeySet.ofList

def Endpoint.shape : Shape Endpoint where
  name := "TargetNodeRef"
  strict := true
  blank := ⟨none, "", ""⟩
  parts := [
    .of "node_label" .defaulted (optional string) fun v e => { e with label := v },
    .of "node_key" .required string fun v e => { e with nodeKey := v },
    .of "record_key" .required string fun v e => { e with recordKey := v }]

def Endpoint.toJson (e : Endpoint) : Json :=
  .ofEntries [
    ("node_label", .orNull (e.label.map .string)),
    ("node_key", .string e.nodeKey),
    ("record_key", .string e.recordKey)]

def NodeGroup.shape : Shape NodeGroup where
  name := "NodeGroup"
  strict := true
  blank := ⟨[], "", [], [], true⟩
  parts := [
    .of "labels" .required (sequence string) fun v g => { g with labels := v },
    .of "key" .required string fun v g => { g with key := v },
    .of "records" .required (sequence Record.decode) fun v g => { g with records := v },
    .of "exclude_keys" .defaulted KeySet.decode fun v g => { g with excludeKeys := v },
    .of "dedupe" .defaulted bool fun v g => { g with dedupe := v }]

def NodeGroup.toJson (g : NodeGroup) : Json :=
  .ofEntries [
    ("labels", .strings g.labels),
    ("key", .string g.key),
    ("records", .array (g.records.map .object)),
    ("exclude_keys", .strings g.excludeKeys),
    ("dedupe", .bool g.dedupe)]

/-- How a relationship group is given. Either end goes by a short name as well. -/
def RelationshipGroup.shape : Shape RelationshipGroup where
  name := "RelationshipGroup"
  strict := true
  blank := ⟨"", Endpoint.shape.blank, Endpoint.shape.blank, [], [], true, true⟩
  parts := [
    .of "type" .required string fun v g => { g with type := v },
    { Part.of "from_node" .required Endpoint.shape.decode fun v g => { g with source := v } with
      spellings := ["from", "from_node"] },
    { Part.of "to_node" .required Endpoint.shape.decode fun v g => { g with target := v } with
      spellings := ["to", "to_node"] },
    .of "records" .required (sequence Record.decode) fun v g => { g with records := v },
    .of "exclude_keys" .defaulted KeySet.decode fun v g => { g with excludeKeys := v },
    .of "auto_exclude_keys" .defaulted bool fun v g => { g with autoExcludeKeys := v },
    .of "dedupe" .defaulted bool fun v g => { g with dedupe := v }]

def RelationshipGroup.toJson (g : RelationshipGroup) : Json :=
  .ofEntries [
    ("type", .string g.type),
    ("from_node", g.source.toJson),
    ("to_node", g.target.toJson),
    ("records", .array (g.records.map .object)),
    ("exclude_keys", .strings g.excludeKeys),
    ("auto_exclude_keys", .bool g.autoExcludeKeys),
    ("dedupe", .bool g.dedupe)]

def Specification.shape : Shape Specification where
  name := "GraphSpecification"
  strict := true
  blank := ⟨[], []⟩
  parts := [
    .of "nodes" .defaulted (sequence NodeGroup.shape.decode) fun v s => { s with nodes := v },
    .of "relationships" .defaulted (sequence RelationshipGroup.shape.decode) fun v s =>
      { s with relationships := v }]

def Specification.toJson (s : Specification) : Json :=
  .ofEntries [
    ("nodes", .array (s.nodes.map NodeGroup.toJson)),
    ("relationships", .array (s.relationships.map RelationshipGroup.toJson))]

def Statement.toJson (s : Statement) : Json :=
  .ofEntries [
    ("text", .string s.text),
    ("parameters", .object s.parameters),
    ("property_bindings", .nat s.propertyBindings)]

end GraphLoad
