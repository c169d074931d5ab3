import GraphLoad.Specification.Group

/-!
Relationship groups whose endpoint lies inside a list. A record such as
`{"from": "a", "to": [{"id": "x"}, {"id": "y"}]}` with the target at `to.id` describes one
relationship for each element of the list. A round of expansion turns every record into one record
per element, shortens the record key to what follows the list (`id`), and carries the other endpoint
into each element. Rounds go on while the first record has a list on the way to an endpoint, the
target before the source; each takes segments off a record key, so they end.
-/

namespace GraphLoad

inductive ExpansionError where
  /-- A record key stops at a list. -/
  | listAtEnd (side : Side) (recordKey type place : String)
  /-- A record holds something else where the first one holds a list. -/
  | notAList (record : Nat) (type place : String)
deriving DecidableEq, Repr

def ExpansionError.message : ExpansionError → String
  | listAtEnd side recordKey type place =>
    s!"{side.fieldName} record_key '{recordKey}' of relationship {type} points at a list " ++
      s!"with nothing after '{place}'"
  | notAList record type place =>
    s!"record {record} of relationship {type} has a non-list value at '{place}' while the first " ++
      "record has a list"

/-- A list on the way to an endpoint: the end it belongs to, the path of the list, and what follows
it. -/
structure ListPlace where
  side : Side
  path : String
  rest : String
deriving DecidableEq, Repr

/-- What a record holds where a list is expected. -/
inductive Held where
  | nothing
  | list (items : List Json)
  | other
deriving DecidableEq, Repr

namespace Record

def heldAt (record : Record) (path : String) : Held :=
  match Path.resolveIn path record with
  | none => .nothing
  | some (.array items) => .list items
  | some _ => .other

/-- What is copied into each element of a list, and to which path, so that the other endpoint can
still be found: its scalar value, or, as that may lie inside a list too, the whole top field. -/
def carried (record : Record) (recordKey : String) : Option (String × Json) :=
  match record.endpointValue? recordKey with
  | some value => some (recordKey, value)
  | none =>
    let root := (Path.segments recordKey).headD ""
    (Fields.get? record root).map (root, ·)

def carry (item : Json) : Option (String × Json) → Json
  | some (path, value) => Path.withValueAt item path value
  | none => item

def ofElement? : Json → Option Record
  | .object fields => some fields
  | _ => none

end Record

namespace RelationshipGroup

variable (g : RelationshipGroup)

/-- The list that a record has on the way to one end. -/
def listOn? (record : Record) (side : Side) : Option ListPlace :=
  let key := (g.endpoint side).recordKey
  if key.isEmpty then none
  else (Path.firstList (Path.segments key) (.object record)).map fun (before, after) =>
    ⟨side, Path.join before, Path.join after⟩

/-- The list to expand next, as the first record shows it. -/
def nextList? : Option ListPlace :=
  match g.records with
  | [] => none
  | first :: _ => (g.listOn? first .target).or (g.listOn? first .source)

/-- The elements that a record at an index is split into, with the other endpoint in each. -/
def split (p : ListPlace) (record : Record) (index : Nat) : Except ExpansionError (List Json) :=
  match record.heldAt p.path with
  | .nothing => .ok []
  | .other => .error (.notAList index g.type p.path)
  | .list items =>
    .ok (items.map (Record.carry · (record.carried (g.endpoint p.side.opposite).recordKey)))

/-- The records that all records are split into. -/
def splitAll (p : ListPlace) : Except ExpansionError (List Record) :=
  (g.records.zipIdx.mapM fun (record, index) => g.split p record index).map
    fun (elements : List (List Json)) => elements.flatten.filterMap Record.ofElement?

def expandAt (p : ListPlace) : Except ExpansionError RelationshipGroup :=
  let e := g.endpoint p.side
  if p.rest.isEmpty then .error (.listAtEnd p.side e.recordKey g.type p.path)
  else (g.splitAll p).map fun records =>
    { g with records }.setEndpoint { e with recordKey := p.rest } p.side

/-! ### The rounds end -/

/-- The number of segments of both record keys. -/
def keyLength : Nat :=
  (Path.segments g.source.recordKey).length + (Path.segments g.target.recordKey).length

theorem segments_rest {p : ListPlace} (h : g.nextList? = some p) (hr : p.rest ≠ "") :
    (Path.segments p.rest).length < (Path.segments (g.endpoint p.side).recordKey).length := by
  have key : ∀ (record : Record) (side : Side), g.listOn? record side = some p →
      (Path.segments p.rest).length < (Path.segments (g.endpoint p.side).recordKey).length := by
    intro record side h
    simp only [listOn?] at h
    split at h
    · simp at h
    · obtain ⟨⟨before, after⟩, hf, rfl⟩ := Option.map_eq_some_iff.mp h
      obtain ⟨hb, ha⟩ := Path.firstList_append hf
      have hne : after ≠ [] := by
        rintro rfl
        exact hr (by simp [Path.join])
      have hs : Path.segments (Path.join after) = after :=
        Path.segments_join hne fun s hs =>
          Path.dot_not_mem_segments (ha ▸ List.mem_append_right _ hs)
      simp only [hs, ← ha, List.length_append]
      have := List.length_pos_iff.mpr hb
      omega
  unfold nextList? at h
  split at h
  · simp at h
  · rcases Option.or_eq_some_iff.mp h with h | ⟨_, h⟩ <;> exact key _ _ h

theorem keyLength_expandAt {p : ListPlace} {g' : RelationshipGroup} (h : g.nextList? = some p)
    (he : g.expandAt p = .ok g') : g'.keyLength < g.keyLength := by
  unfold expandAt at he
  split at he
  · simp at he
  · rename_i hr
    have hlt := g.segments_rest h (by simpa using hr)
    cases hs : g.splitAll p with
    | error e => simp [hs, Except.map] at he
    | ok records =>
      simp only [hs, Except.map, Except.ok.injEq] at he
      subst he
      cases hside : p.side <;> rw [hside] at hlt <;>
        simp only [setEndpoint, keyLength, endpoint] at hlt ⊢ <;> omega

/-- The group with one record per element of every list on the way to an endpoint. -/
def expand (g : RelationshipGroup) : Except ExpansionError RelationshipGroup :=
  match _h : g.nextList? with
  | none => .ok g
  | some p =>
    match _he : g.expandAt p with
    | .error e => .error e
    | .ok g' => expand g'
termination_by g.keyLength
decreasing_by exact g.keyLength_expandAt _h _he

/-! ### What is said on the way -/

/-- The warnings about a record: nothing found, or elements that are no objects. -/
def splitLog (p : ListPlace) (record : Record) (index : Nat) : List Log.Entry :=
  match record.heldAt p.path with
  | .nothing => [.warn s!"⚠️  Skipping {g.type} record {index}: nothing found at '{p.path}'"]
  | _ =>
    match g.split p record index with
    | .error _ => []
    | .ok elements =>
      (elements.filter fun element => (Record.ofElement? element).isNone).map fun _ =>
        .warn <| s!"⚠️  Skipping non-object element at '{p.path}' in {g.type} record {index}"

/-- The warnings of a round, up to the record that fails, and its outcome. -/
def roundLog (p : ListPlace) : List Log.Entry :=
  if p.rest.isEmpty then [] else
  let read := g.records.zipIdx.takeWhile fun (record, _) => record.heldAt p.path != .other
  (read.flatMap fun (record, index) => g.splitLog p record index) ++
  match g.expandAt p with
  | .error _ => []
  | .ok expanded => [.info <|
      s!"🔀 Expanded {g.type} {p.side.fieldName} list at '{p.path}': " ++
      s!"{g.records.length} records -> {expanded.records.length} records"]

def expandLog (g : RelationshipGroup) : List Log.Entry :=
  match _h : g.nextList? with
  | none => []
  | some p =>
    g.roundLog p ++
    match _he : g.expandAt p with
    | .error _ => []
    | .ok g' => expandLog g'
termination_by g.keyLength
decreasing_by exact g.keyLength_expandAt _h _he

end RelationshipGroup
end GraphLoad
