import GraphLoad.Json.Value
import GraphLoad.Text.Digits
import GraphLoad.Text.Space

/-!
Dotted paths into nested values. A path such as `person.address.city` or `friends.0.uid` walks
objects by key and arrays by index. Reading never fails: a path that does not fit the data finds
nothing. Writing always succeeds: what does not fit is replaced by an object.

`join_segments` and `segments_join` say that a path and its segments determine each other;
`firstList_append` that a landing on an array cuts the walk in two.
-/

namespace GraphLoad.Path

/-- The parts of a path between its dots; there is always one. -/
def segments (path : String) : List String :=
  (path.toList.splitOn '.').map String.ofList

def join (segments : List String) : String :=
  ".".intercalate segments

/-- The array index that a segment denotes: digits after an optional plus sign, within white
space. -/
def index? (segment : String) : Option Nat :=
  Text.unsigned? (Text.trim segment.toList)

def child? (segment : String) : Json → Option Json
  | .object fields => Fields.get? fields segment
  | .array items => (index? segment).bind fun i => items[i]?
  | _ => none

/-- The value at the end of a walk. -/
def walk : (segments : List String) → Json → Option Json
  | [], j => some j
  | s :: r, j => (child? s j).bind (walk r)

/-- A value other than `null`. -/
def present (found : Option Json) : Option Json :=
  found.filter (!·.isNull)

/-- The value other than `null` at a path; the empty path leads nowhere. -/
def resolve (path : String) (data : Json) : Option Json :=
  if path.isEmpty then none else present (walk (segments path) data)

def resolveIn (path : String) (record : Fields) : Option Json :=
  match segments path with
  | [] => none
  | first :: rest => present ((Fields.get? record first).bind (walk rest))

/-- Where a walk first lands on an array: the segments up to there and those after. -/
def firstList : (segments : List String) → Json → Option (List String × List String)
  | [], _ => none
  | s :: r, j =>
    match child? s j with
    | none => none
    | some v =>
      if v.isArray then some ([s], r) else (firstList r v).map fun (b, a) => (s :: b, a)

/-- The part of a path up to where the walk first lands on an array. -/
def firstListPrefix (path : String) (data : Json) : Option String :=
  if path.isEmpty then none else (firstList (segments path) data).map fun (b, _) => join b

def containsList (path : String) (data : Json) : Bool :=
  (firstListPrefix path data).isSome

/-- Writes a value at the end of a walk. An array takes it where a segment is an index within its
bounds; anything else that is no object becomes one. -/
def put : (segments : List String) → (value base : Json) → Json
  | [], value, _ => value
  | s :: r, value, .array items =>
    match (index? s).bind fun i => items[i]?.map (i, ·) with
    | some (i, item) => .array (items.set i (put r value item))
    | none => .object [(s, put r value .null)]
  | s :: r, value, .object fields =>
    .object (Fields.insert s (put r value ((Fields.get? fields s).getD .null)) fields)
  | s :: r, value, _ => .object [(s, put r value .null)]

def withValueAt (base : Json) (path : String) (value : Json) : Json :=
  put (segments path) value base

/-! ### Segments -/

theorem segments_ne_nil (path : String) : segments path ≠ [] := by
  simp [segments]

private theorem not_mem_of_mem_splitOn (cs : List Char) :
    ∀ seg ∈ cs.splitOn '.', '.' ∉ seg := by
  induction cs with
  | nil => simp
  | cons c r ih =>
    rw [List.splitOn_cons_eq_if_modifyHead]
    split
    · simpa using ih
    · rename_i hc
      have hc : '.' ≠ c := fun h => hc (beq_iff_eq.mpr h.symm)
      cases hs : List.splitOn '.' r with
      | nil => simp
      | cons seg segs =>
        rw [hs] at ih
        simp only [List.modifyHead_cons, List.mem_cons, forall_eq_or_imp] at ih ⊢
        exact ⟨fun h => h.elim hc ih.1, ih.2⟩

/-- No segment of a path holds a dot. -/
theorem dot_not_mem_segments {path seg : String} (h : seg ∈ segments path) :
    '.' ∉ seg.toList := by
  obtain ⟨cs, hcs, rfl⟩ := List.mem_map.mp h
  simpa using not_mem_of_mem_splitOn _ cs hcs

theorem join_segments (path : String) : join (segments path) = path := by
  apply String.toList_injective
  simp [join, segments, String.toList_intercalate, List.intercalate_splitOn]

theorem segments_join {segs : List String} (hne : segs ≠ []) (h : ∀ s ∈ segs, '.' ∉ s.toList) :
    segments (join segs) = segs := by
  have hs : (segs.map String.toList) ≠ [] := by simpa using hne
  rw [segments, join, String.toList_intercalate]
  show ((List.intercalate ['.'] _).splitOn '.').map _ = _
  rw [List.splitOn_intercalate '.' (by simpa using h) hs]
  simp [Function.comp_def]

/-- The walk to an array takes at least one segment, and what is left follows it. -/
theorem firstList_append {segs before after : List String} {j : Json}
    (h : firstList segs j = some (before, after)) : before ≠ [] ∧ before ++ after = segs := by
  induction segs generalizing j before with
  | nil => simp [firstList] at h
  | cons s r ih =>
    rw [firstList] at h
    split at h
    · simp at h
    · split at h
      · obtain ⟨rfl, rfl⟩ := by simpa using h
        simp
      · obtain ⟨⟨b, a⟩, hb, he⟩ := Option.map_eq_some_iff.mp h
        obtain ⟨rfl, rfl⟩ := by simpa using he
        simp [(ih hb).2]

end GraphLoad.Path
