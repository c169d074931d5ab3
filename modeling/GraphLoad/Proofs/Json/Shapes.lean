import GraphLoad.Json.Decode
import GraphLoad.Proofs.Json.Entries
import GraphLoad.Proofs.Traversal
import Mathlib.Data.List.Nodup
import Mathlib.Data.List.Pairwise
import Mathlib.Data.List.Perm.Basic

/-!
# Records and their shapes

A record that is written with all its parts under their names is read back, in whatever order the fields
of an object stand (`decode_ofEntries`). And what every part keeps holds of every record that is read, be
it given as an object or as an array (`decode_preserves`).
-/

namespace GraphLoad

variable {ρ : Type}

/-- The values that a value is made of: the items of an array, or what stands under the keys of an
object. -/
def Json.children : Json → List Json
  | .array items => items
  | .object fields => fields.map Prod.snd
  | .null | .bool _ | .number _ | .string _ => []

namespace Json.Decode

/-! ## Items -/

variable {α : Type} {decoder : Json → Outcome α} {encoder : α → Json}

theorem sequence_map {items : List α} (h : ∀ item ∈ items, decoder (encoder item) = .ok item) :
    sequence decoder (.array (items.map encoder)) = .ok items :=
  Traversal.mapM_eq_ok_iff.mpr (List.forall₂_map_left_iff.mpr (List.forall₂_same.mpr h))

theorem sequence_strings (texts : List String) : sequence string (.strings texts) = .ok texts :=
  sequence_map fun _ _ => rfl

theorem optional_string (text : Option String) :
    optional string (.orNull (text.map .string)) = .ok text := by
  cases text <;> rfl

theorem exists_of_mem_sequence {j : Json} {items : List α} (h : sequence decoder j = .ok items) {item : α}
    (hitem : item ∈ items) : ∃ v ∈ j.children, decoder v = .ok item := by
  cases j with
  | array values =>
    have hvalues := Traversal.mapM_eq_ok_iff.mp h
    obtain ⟨i, hi, rfl⟩ := List.mem_iff_getElem.mp hitem
    have hlt : i < values.length := hvalues.length_eq ▸ hi
    exact ⟨values[i], List.getElem_mem hlt, hvalues.get hlt hi⟩
  | null | bool | number | string | object => cases h

theorem forall_of_sequence {P : α → Prop} (h : ∀ j item, decoder j = .ok item → P item) {j : Json}
    {items : List α} (hdecode : sequence decoder j = .ok items) : ∀ item ∈ items, P item := by
  intro item hitem
  obtain ⟨v, -, hv⟩ := exists_of_mem_sequence hdecode hitem
  exact h v item hv

end Json.Decode

/-! ## Parts -/

/-- A part of a record, a value that it is read from, and what the value does to a record. -/
structure Filling (ρ : Type) where
  part : Part ρ
  value : Json
  fill : ρ → ρ
  reads : ∀ record, part.read value record = .ok (fill record)

namespace Filling

/-- A part that a decoder reads and a setter writes, given what the decoder makes of the value. -/
def of {α : Type} (name : String) (absence : Absence) (decoder : Json → Except DecodeError α)
    (set : α → ρ → ρ) (value : Json) {v : α} (h : decoder value = .ok v) : Filling ρ where
  part := .of name absence decoder set
  value := value
  fill := set v
  reads _ := congrArg (Except.map _) h

/-- The part with all names it goes by. -/
def spelled (f : Filling ρ) (spellings : List String) : Filling ρ where
  part := { f.part with spellings := spellings }
  value := f.value
  fill := f.fill
  reads := f.reads

def name (f : Filling ρ) : String :=
  f.part.name

/-- The field of an object. -/
def entry (f : Filling ρ) : String × Json :=
  (f.name, f.value)

/-- It does not count which of two parts is filled first. -/
def Commute (f g : Filling ρ) : Prop :=
  ∀ record, f.fill (g.fill record) = g.fill (f.fill record)

/-- The record with all parts filled. -/
def fillAll (fillings : List (Filling ρ)) (record : ρ) : ρ :=
  fillings.foldl (fun record f => f.fill record) record

theorem fillAll_perm {fillings fillings' : List (Filling ρ)} (h : fillings.Perm fillings')
    (hcommute : fillings.Pairwise Commute) (record : ρ) :
    fillAll fillings record = fillAll fillings' record := by
  have : Std.Symm (Commute (ρ := ρ)) := ⟨fun _ _ h record => (h record).symm⟩
  have hany := hcommute.forall_of_forall fun _ _ _ => rfl
  exact h.foldl_eq' (fun f hf g hg record => hany hg hf record) record

/-- An object holds its fields in an order of its own. -/
theorem exists_ordered {fillings : List (Filling ρ)} (h : (fillings.map name).Nodup) :
    ∃ ordered : List (Filling ρ), ordered.Perm fillings ∧
      Fields.ofList (fillings.map entry) = ordered.map entry := by
  have hkeys : Fields.keys (fillings.map entry) = fillings.map name := List.map_map
  obtain ⟨ordered, hforall, hperm⟩ := List.perm_comp_forall₂ (r := fun e f => e = entry f)
    (Fields.ofList_perm (hkeys ▸ h)) (List.forall₂_map_left_iff.mpr (List.forall₂_same.mpr fun _ _ => rfl))
  rw [← List.forall₂_map_right_iff, List.forall₂_eq_eq_eq] at hforall
  exact ⟨ordered, hperm, hforall⟩

end Filling

/-- What holds of a record holds of it still when a part has been read. -/
def Part.Keeps (P : ρ → Prop) (read : Json → ρ → Except DecodeError ρ) : Prop :=
  ∀ j record record', P record → read j record = .ok record' → P record'

/-- What holds of a record holds of it still when a part has been read from a value of some kind. -/
def Part.KeepsOn (Q : Json → Prop) (P : ρ → Prop) (read : Json → ρ → Except DecodeError ρ) : Prop :=
  ∀ j record record', Q j → P record → read j record = .ok record' → P record'

theorem Part.keepsOn_of {Q : Json → Prop} {P : ρ → Prop} {α : Type} {name : String}
    {absence : Absence} {decoder : Json → Except DecodeError α} {set : α → ρ → ρ}
    (h : ∀ j v record, Q j → decoder j = .ok v → P record → P (set v record)) :
    Part.KeepsOn Q P (Part.of name absence decoder set).read := by
  intro j record record' hj hrecord hread
  obtain ⟨v, hv, rfl⟩ := Traversal.map_eq_ok_iff.mp hread
  exact h j v record hj hv hrecord

theorem Part.keeps_of {P : ρ → Prop} {α : Type} {name : String} {absence : Absence}
    {decoder : Json → Except DecodeError α} {set : α → ρ → ρ}
    (h : ∀ j v record, decoder j = .ok v → P record → P (set v record)) :
    Part.Keeps P (Part.of name absence decoder set).read := fun j record record' =>
  Part.keepsOn_of (Q := fun _ => True) (fun j v record _ => h j v record) j record record' trivial

namespace Shape

variable {s : Shape ρ} {fillings : List (Filling ρ)}

/-! ## Objects -/

/-- No name stands for two parts, and each part goes by its own. -/
structure Distinct (s : Shape ρ) : Prop where
  nodup : s.spellings.Nodup
  named : ∀ part ∈ s.parts, part.name ∈ part.spellings

theorem Distinct.disjoint (h : s.Distinct) :
    s.parts.Pairwise fun part part' => part.spellings.Disjoint part'.spellings :=
  (List.nodup_flatMap.mp h.nodup).2

theorem Distinct.nodup_names (h : s.Distinct) : (s.parts.map Part.name).Nodup := by
  refine List.pairwise_map.mpr (h.disjoint.imp_of_mem fun {part part'} hpart hpart' hdisjoint heq => ?_)
  have hname := h.named part' hpart'
  rw [← heq] at hname
  exact hdisjoint (h.named part hpart) hname

theorem Distinct.find?_name (h : s.Distinct) {part : Part ρ} (hpart : part ∈ s.parts) :
    s.parts.find? (·.spellings.contains part.name) = some part := by
  have hname := h.named part hpart
  have hdisjoint := h.disjoint
  generalize s.parts = parts at hpart hdisjoint
  induction parts with
  | nil => cases hpart
  | cons first rest ih =>
    obtain ⟨hfirst, hrest⟩ := List.pairwise_cons.mp hdisjoint
    obtain rfl | hpart := List.mem_cons.mp hpart
    · exact List.find?_cons_of_pos (by simpa using hname)
    · have hnot : part.name ∉ first.spellings := fun hmem => hfirst part hpart hmem hname
      rw [List.find?_cons_of_neg (by simpa using hnot), ih hpart hrest]

theorem visit_entry (hdistinct : s.Distinct) {f : Filling ρ} (hf : f.part ∈ s.parts) {seen : List String}
    (hseen : f.name ∉ seen) (record : ρ) :
    s.visit (record, seen) f.entry = .ok (f.fill record, f.name :: seen) := by
  rw [visit, Filling.entry, Filling.name, hdistinct.find?_name hf]
  dsimp only
  rw [if_neg (by simpa [Filling.name] using hseen), f.reads]
  rfl

theorem foldlM_visit_entries (hdistinct : s.Distinct) (hparts : ∀ f ∈ fillings, f.part ∈ s.parts)
    {seen : List String} (hnodup : (fillings.map Filling.name).Nodup)
    (hseen : ∀ f ∈ fillings, f.name ∉ seen) (record : ρ) :
    (fillings.map Filling.entry).foldlM s.visit (record, seen) =
      .ok (Filling.fillAll fillings record, (fillings.map Filling.name).reverse ++ seen) := by
  induction fillings generalizing record seen with
  | nil => rfl
  | cons f rest ih =>
    obtain ⟨hnot, hrest⟩ := List.nodup_cons.mp hnodup
    obtain ⟨hf, hparts⟩ := List.forall_mem_cons.mp hparts
    obtain ⟨hfseen, hseen⟩ := List.forall_mem_cons.mp hseen
    have hseen' : ∀ g ∈ rest, g.name ∉ f.name :: seen := by
      intro g hg hmem
      obtain heq | hmem := List.mem_cons.mp hmem
      · exact hnot (List.mem_map.mpr ⟨g, hg, heq⟩)
      · exact hseen g hg hmem
    rw [List.map_cons, List.foldlM_cons, visit_entry hdistinct hf hfseen]
    refine (ih hparts hrest hseen' (f.fill record)).trans ?_
    rw [List.map_cons, List.reverse_cons, List.append_assoc]
    rfl

/-- What is written with all its parts is read back. -/
theorem decode_ofEntries (fillings : List (Filling ρ)) (hdistinct : s.Distinct)
    (hparts : fillings.map Filling.part = s.parts)
    (hcommute : fillings.Pairwise Filling.Commute) {record : ρ}
    (hrecord : Filling.fillAll fillings s.blank = record) :
    s.decode (.ofEntries (fillings.map Filling.entry)) = .ok record := by
  have hnames : fillings.map Filling.name = s.parts.map Part.name := by
    rw [← hparts, List.map_map]
    rfl
  have hnodup := hdistinct.nodup_names
  obtain ⟨ordered, hperm, hmap⟩ := Filling.exists_ordered (hnames ▸ hnodup)
  have hordered : (ordered.map Filling.name).Perm (s.parts.map Part.name) := by
    rw [← hnames]
    exact hperm.map _
  have hmem : ∀ f ∈ ordered, f.part ∈ s.parts := by
    intro f hf
    rw [← hparts]
    exact List.mem_map_of_mem (hperm.mem_iff.mp hf)
  have hvisit := foldlM_visit_entries hdistinct hmem (hordered.nodup_iff.mpr hnodup)
    (fun _ _ => List.not_mem_nil) s.blank
  have hall : s.parts.find? (fun part => part.absence = .required ∧
      !((ordered.map Filling.name).reverse ++ []).contains part.name) = none := by
    rw [List.find?_eq_none]
    intro part hpart
    have hseen : part.name ∈ ordered.map Filling.name :=
      hordered.mem_iff.mpr (List.mem_map_of_mem hpart)
    simp [hseen]
  show s.decodeFields (Fields.ofList _) = _
  rw [decodeFields, hmap, hvisit]
  dsimp only [bind, Except.bind]
  rw [hall, ← hrecord, Filling.fillAll_perm hperm.symm hcommute]

/-! ## What is kept -/

variable {P : ρ → Prop} {Q : Json → Prop}

theorem visit_preserves (hkeeps : ∀ part ∈ s.parts, Part.KeepsOn Q P part.read) {field : String × Json}
    {so so' : ρ × List String} (hfield : Q field.2) (h : s.visit so field = .ok so') (hso : P so.1) :
    P so'.1 := by
  rw [visit] at h
  split at h
  · split at h
    · cases h
    · obtain rfl := Except.ok.inj h
      exact hso
  · rename_i part hpart
    split at h
    · cases h
    · obtain ⟨record, hread, rfl⟩ := Traversal.map_eq_ok_iff.mp h
      exact hkeeps part (List.mem_of_find?_eq_some hpart) _ _ _ hfield hso hread

theorem foldlM_visit_preserves (hkeeps : ∀ part ∈ s.parts, Part.KeepsOn Q P part.read) {fields : Fields}
    {so so' : ρ × List String} (hfields : ∀ v ∈ (Json.object fields).children, Q v)
    (h : fields.foldlM s.visit so = .ok so') (hso : P so.1) : P so'.1 := by
  induction fields generalizing so with
  | nil =>
    obtain rfl := Except.ok.inj h
    exact hso
  | cons field rest ih =>
    obtain ⟨hfield, hrest⟩ := List.forall_mem_cons.mp hfields
    rw [List.foldlM_cons] at h
    obtain ⟨so₁, hvisit, h⟩ := Traversal.bind_eq_ok_iff.mp h
    exact ih hrest h (visit_preserves hkeeps hfield hvisit hso)

theorem decodeItemsFrom_preserves {total index : Nat} {parts : List (Part ρ)} {items : List Json}
    {record record' : ρ} (hkeeps : ∀ part ∈ parts, Part.KeepsOn Q P part.read)
    (hitems : ∀ v ∈ items, Q v)
    (h : s.decodeItemsFrom total parts items index record = .ok record') (hrecord : P record) :
    P record' := by
  induction parts generalizing items index record with
  | nil =>
    cases items with
    | nil =>
      obtain rfl := Except.ok.inj h
      exact hrecord
    | cons item items => cases h
  | cons part parts ih =>
    obtain ⟨hpart, hparts⟩ := List.forall_mem_cons.mp hkeeps
    cases items with
    | nil =>
      rw [decodeItemsFrom] at h
      split at h
      · exact ih hparts hitems h hrecord
      · cases h
    | cons item items =>
      obtain ⟨hitem, hitems⟩ := List.forall_mem_cons.mp hitems
      rw [decodeItemsFrom] at h
      split at h
      · cases h
      · rename_i record₁ hread
        exact ih hparts hitems h (hpart _ _ _ hitem hrecord hread)

/-- What holds of the record without any part, and is kept by every part that is read from a value of
some kind, holds of what is read from values of that kind. -/
theorem decode_preserves_on (hblank : P s.blank)
    (hkeeps : ∀ part ∈ s.parts, Part.KeepsOn Q P part.read) {j : Json} {record : ρ}
    (hj : ∀ v ∈ j.children, Q v) (h : s.decode j = .ok record) : P record := by
  unfold decode at h
  split at h
  · rw [decodeFields] at h
    rename_i fields
    obtain ⟨so, hvisit, hrest⟩ := Traversal.bind_eq_ok_iff.mp h
    dsimp only at hrest
    split at hrest
    · cases hrest
    · obtain rfl := Except.ok.inj hrest
      exact foldlM_visit_preserves hkeeps hj hvisit hblank
  · exact decodeItemsFrom_preserves hkeeps hj h hblank
  · cases h

/-- What holds of the record without any part, and is kept by every part, holds of what is read. -/
theorem decode_preserves (hblank : P s.blank) (hkeeps : ∀ part ∈ s.parts, Part.Keeps P part.read) {j : Json}
    {record : ρ} (h : s.decode j = .ok record) : P record :=
  decode_preserves_on (Q := fun _ => True) hblank
    (fun part hpart j record record' _ => hkeeps part hpart j record record') (fun _ _ => trivial) h

end Shape
end GraphLoad
