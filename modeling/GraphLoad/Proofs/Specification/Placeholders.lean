import GraphLoad.Proofs.Cypher.Placeholder
import GraphLoad.Specification.Compilation

/-!
# Batches keep their placeholders apart

The suffix of a placeholder is made of what its batch is called and of a number. A batch is called by
its position, between one letter for all batches and one for the kind of its group, so the key, the
kind, the position and the number can be read off a placeholder (`placeholders_apart`).
-/

namespace GraphLoad

namespace Group

/-- The letter that stands for the kind of a group. -/
def letter : Group → Char
  | nodes _ => 'n'
  | relationships _ => 'r'

theorem isDigit_letter (g : Group) : g.letter.isDigit = false := by
  cases g <;> rfl

theorem isAlphanum_letter (g : Group) : g.letter.isAlphanum := by
  cases g <;> rfl

/-- What the batches of a group are called. -/
def batchIds (maxBatchSize : Nat) : Group → Except CompileError (List String)
  | nodes g => (g.batches maxBatchSize).map (List.map NodeBatch.id)
  | relationships g => (g.batches maxBatchSize).map (List.map RelationshipBatch.id)

/-- What the batch at a position is called. -/
def batchId (g : Group) (position : Nat) : String :=
  s!"b{position}{g.letter}"

private theorem exists_slice {β : Type} {batch : List Record → Nat → β} {name : β → String}
    {records : List Record} {size position : Nat} {ids : List String} {id : String}
    (hids : ((Record.chunks records size).map fun slices =>
      slices.zipIdx.map fun (slice, n) => batch slice n).map (List.map name) = .ok ids)
    (hid : ids[position]? = some id) : ∃ slice, id = name (batch slice position) := by
  cases hslices : Record.chunks records size with
  | error e =>
    rw [hslices] at hids
    cases hids
  | ok slices =>
    rw [hslices] at hids
    obtain rfl := Except.ok.inj hids
    simp only [List.getElem?_map, List.getElem?_zipIdx, Option.map_map, Option.map_eq_some_iff] at hid
    obtain ⟨slice, -, rfl⟩ := hid
    exact ⟨slice, by simp⟩

theorem eq_batchId {g : Group} {maxBatchSize position : Nat} {ids : List String} {id : String}
    (hids : g.batchIds maxBatchSize = .ok ids) (hid : ids[position]? = some id) :
    id = g.batchId position := by
  cases g with
  | nodes g =>
    obtain ⟨slice, rfl⟩ := exists_slice hids hid
    rfl
  | relationships g =>
    rw [batchIds, RelationshipGroup.batches] at hids
    cases hexpand : g.expand with
    | error cause =>
      rw [hexpand] at hids
      cases hids
    | ok expanded =>
      rw [hexpand] at hids
      obtain ⟨slice, rfl⟩ := exists_slice hids hid
      rfl

end Group

namespace Cypher

variable {g g' : Group} {position position' number number' : Nat} {key key' : String}

theorem underscore_not_mem_suffix (g : Group) (position number : Nat) :
    '_' ∉ (toString position ++ g.letter.toString ++ toString number).toList := by
  refine underscore_not_mem_of_alphanum ?_
  rw [String.toList_append, String.toList_append, List.all_append, List.all_append,
    all_isAlphanum_toString, all_isAlphanum_toString]
  simp [g.isAlphanum_letter]

theorem batch_placeholder_inj
    (h : placeholder key (g.batchId position ++ toString number) =
      placeholder key' (g'.batchId position' ++ toString number')) :
    g.letter = g'.letter ∧ position = position' ∧ number = number' ∧ key = key' := by
  have hbase (g : Group) (position number : Nat) : g.batchId position ++ toString number =
      "b" ++ (toString position ++ g.letter.toString ++ toString number) := by
    show "b" ++ toString position ++ g.letter.toString ++ toString number = _
    simp only [String.append_assoc]
  rw [hbase, hbase] at h
  obtain ⟨rfl, hsuffix⟩ := placeholder_inj (underscore_not_mem_suffix g position number)
    (underscore_not_mem_suffix g' position' number') h
  have hdigits (n : Nat) : ∀ c ∈ (toString n).toList, c.isDigit := by
    rw [Nat.toString_eq_repr, Nat.toList_repr]
    exact fun c => Text.isDigit_of_mem_decimal
  have hchars := congrArg String.toList hsuffix
  simp only [String.toList_append, Char.toString, String.toList_singleton, List.append_assoc,
    List.singleton_append] at hchars
  obtain ⟨hposition, hletter, hnumber⟩ := Text.append_cons_inj_of (hdigits _) (hdigits _)
    g.isDigit_letter g'.isDigit_letter hchars
  exact ⟨hletter, Text.toString_inj (String.toList_inj.mp hposition),
    Text.toString_inj (String.toList_inj.mp hnumber), rfl⟩

/-- A placeholder behind any text and a number tells the key and the number; one of a batch tells the
kind of the group and the position too; and it is one word if the text is alphanumeric. -/
theorem placeholders_apart :
    (∀ (base key key' : String) (number number' : Nat),
      placeholder key (base ++ toString number) = placeholder key' (base ++ toString number') →
        key = key' ∧ number = number') ∧
    (∀ (g g' : Group) (size size' position position' number number' : Nat) (ids ids' : List String)
      (id id' key key' : String),
      g.batchIds size = .ok ids → g'.batchIds size' = .ok ids' →
      ids[position]? = some id → ids'[position']? = some id' →
      placeholder key (id ++ toString number) = placeholder key' (id' ++ toString number') →
        g.letter = g'.letter ∧ position = position' ∧ number = number' ∧ key = key') ∧
    ∀ (base key : String) (number : Nat), base.toList.all Char.isAlphanum →
      (placeholder key (base ++ toString number)).toList.all isWord := by
  refine ⟨fun _ _ _ _ _ h => placeholder_toString_inj h, ?_, ?_⟩
  · intro g g' size size' position position' number number' ids ids' id id' key key' hids hids' hid hid' h
    rw [Group.eq_batchId hids hid, Group.eq_batchId hids' hid'] at h
    exact batch_placeholder_inj h
  · intro base key number hbase
    refine isWord_placeholder ?_
    rw [String.toList_append, List.all_append, hbase, all_isAlphanum_toString, Bool.and_self]

/-- A key that spells out the code of another does not share its placeholder, not even behind a text
with an underscore and a digit at its end, and neither do the records of two batches. -/
theorem placeholders_apart_spelled_out :
    placeholder "a.b" ("b_1" ++ toString 2) ≠ placeholder "a_x2e_b" ("b_1" ++ toString 2) ∧
    ((Group.nodes ⟨["Person"], "uid", [[], []], [], true⟩).batchIds 1 = .ok ["b0n", "b1n"] ∧
      placeholder "uid" ("b0n" ++ toString 11) ≠ placeholder "uid" ("b1n" ++ toString 1)) ∧
    "b0n".toList.all Char.isAlphanum ∧
    (placeholder "名 a_" ("b0n" ++ toString 2)).toList.all isWord := by
  have hids : (Group.nodes ⟨["Person"], "uid", [[], []], [], true⟩).batchIds 1 = .ok ["b0n", "b1n"] := by
    cbv
  refine ⟨fun h => ?_, ⟨hids, fun h => ?_⟩, by decide, placeholders_apart.2.2 "b0n" "名 a_" 2 (by decide)⟩
  · exact absurd (placeholders_apart.1 "b_1" "a.b" "a_x2e_b" 2 2 h).1 (by decide)
  · have happart := placeholders_apart.2.1 _ _ 1 1 0 1 11 1 _ _ _ _ _ _ hids hids rfl rfl h
    exact absurd happart.2.1 (by decide)

end Cypher
end GraphLoad
