import GraphLoad.Proofs.Cypher.Placeholder
import GraphLoad.Proofs.Cypher.Reading
import GraphLoad.Proofs.Json.Entries

/-!
# Statements that list elements

`Statement.says_ofElements`: a statement that lists elements says their values and properties, row by
row. The text is read back by the rule for units; what a row binds is found again because a
placeholder stands for one key of one element (`Element.Listed`), and within an element the values
bound under one key agree.
-/

namespace GraphLoad

namespace Element

/-- The row that the statement's text holds for the element. -/
def textRow (e : Element) : Row String where
  ends := e.ends.map fun v => Cypher.placeholder v.1 e.suffix
  properties := e.properties.map fun v => (v.1, Cypher.placeholder v.1 e.suffix)

/-- The row that the element stands for. -/
def row (e : Element) : Row Json where
  ends := e.ends.map Prod.snd
  properties := e.properties

/-- Everything that the element binds, by key. -/
def bound (e : Element) : Fields :=
  e.properties ++ e.ends

/-- Elements that a statement can list without one taking the place of another's values. -/
structure Listed (elements : List Element) : Prop where
  ends_ne_nil : ∀ e ∈ elements, e.ends ≠ []
  suffix : ∀ e ∈ elements, e.suffix.toList.all Char.isAlphanum
  nodup : ∀ e ∈ elements, e.properties.keys.Nodup
  agree : ∀ e ∈ elements, ∀ k v w, (k, v) ∈ e.bound → (k, w) ∈ e.bound → v = w
  apart : ∀ e ∈ elements, ∀ f ∈ elements, ∀ k l,
    Cypher.placeholder k e.suffix = Cypher.placeholder l f.suffix → e = f ∧ k = l

end Element

namespace Cypher

/-! ## The text -/

private theorem flatMap_intercalate {α β : Type} (f : α → List β) (sep : List α)
    (xs : List (List α)) :
    (sep.intercalate xs).flatMap f = (sep.flatMap f).intercalate (xs.map (·.flatMap f)) := by
  induction xs with
  | nil => rfl
  | cons x xs ih =>
    cases xs with
    | nil => simp
    | cons y ys =>
      simp only [List.map_cons, List.intercalate_cons_cons, List.flatMap_append] at ih ⊢
      rw [ih]

/-- Separators behind all parts are separators between them and one more. -/
private theorem flatMap_append_eq_intercalate {α : Type} (sep : List α) (xs : List (List α))
    (h : xs ≠ []) : xs.flatMap (· ++ sep) = sep.intercalate xs ++ sep := by
  induction xs with
  | nil => exact absurd rfl h
  | cons x xs ih =>
    cases xs with
    | nil => simp
    | cons y ys =>
      rw [List.flatMap_cons, ih (List.cons_ne_nil _ _), List.intercalate_cons_cons]
      simp

theorem chars_rowLexemes {e : Element} (h : e.ends ≠ []) :
    (Lexeme.char '[' :: rowLexemes e.textRow).flatMap Lexeme.chars = e.text.toList := by
  have hends := flatMap_append_eq_intercalate [',', ' ']
    (e.ends.map fun v => '$' :: (placeholder v.1 e.suffix).toList) (by simpa using h)
  rw [List.flatMap_map] at hends
  simp only [List.cons_append] at hends
  simp [Element.text, Element.fragment, Fragment.ofProperties, Element.textRow, rowLexemes,
    entryLexemes, Lexeme.chars, Cypher.quote, String.toList_intercalate, flatMap_intercalate,
    List.flatMap_assoc, List.flatMap_map, Function.comp_def, hends]

theorem chars_listLexemes {elements : List Element} (h : ∀ e ∈ elements, e.ends ≠ []) :
    (listLexemes (elements.map Element.textRow)).flatMap Lexeme.chars =
      ("WITH [" ++ ", ".intercalate (elements.map Element.text) ++ "]").toList := by
  have hrows : elements.map (fun e => (Lexeme.char '[' :: rowLexemes e.textRow).flatMap
      Lexeme.chars) = elements.map (·.text.toList) :=
    List.map_congr_left fun e he => chars_rowLexemes (h e he)
  simp only [listLexemes, List.flatMap_append, flatMap_chars_plain, flatMap_intercalate,
    List.map_map, Function.comp_def, hrows]
  simp [String.toList_intercalate, Lexeme.chars, Function.comp_def]

/-! ## Units that can be told apart -/

private theorem Spaced.entries {entries : List (String × String)} {rest : List Lexeme}
    (hp : ∀ entry ∈ entries, entry.2.toList.all isWord) (h : Spaced (.char '}' :: rest)) :
    Spaced ((plain ", ").intercalate (entries.map entryLexemes) ++ .char '}' :: rest) := by
  have entry : ∀ (e : String × String) (ls : List Lexeme), e.2.toList.all isWord → Stops ls →
      Spaced ls → Spaced (entryLexemes e ++ ls) := fun e ls he hs hls =>
    .name (.char rfl) (.char (by decide) (by decide) (.parameter he hs hls))
  induction entries with
  | nil => exact h
  | cons e es ih =>
    obtain ⟨he, hes⟩ := List.forall_mem_cons.mp hp
    cases es with
    | nil =>
      rw [List.map_singleton, List.intercalate_singleton]
      exact entry e _ he (.char rfl) h
    | cons e' es =>
      simp only [List.map_cons, List.intercalate_cons_cons, List.append_assoc] at ih ⊢
      exact entry e _ he (.char rfl) (.plain_append (by decide) (ih hes))

private theorem Spaced.row {row : Row String} {rest : List Lexeme}
    (hends : ∀ p ∈ row.ends, p.toList.all isWord)
    (hprops : ∀ entry ∈ row.properties, entry.2.toList.all isWord) (h : Spaced rest) :
    Spaced (rowLexemes row ++ rest) := by
  obtain ⟨ends, properties⟩ := row
  simp only at hends hprops
  have hblock : Spaced (.char '{' :: ((plain ", ").intercalate (properties.map entryLexemes) ++
      .char '}' :: .char ']' :: rest)) :=
    .char (by decide) (by decide) (.entries hprops
      (.char (by decide) (by decide) (.char (by decide) (by decide) h)))
  induction ends with
  | nil => simpa [rowLexemes] using hblock
  | cons p ends ih =>
    obtain ⟨hp, hps⟩ := List.forall_mem_cons.mp hends
    exact .parameter hp (.char rfl) (.char (by decide) (by decide)
      (.char (by decide) (by decide) (ih hps)))

/-- A list is spaced whatever names stand in it, if its parameters are made of word characters. -/
theorem Spaced.list {rows : List (Row String)} {rest : List Lexeme}
    (hends : ∀ row ∈ rows, ∀ p ∈ row.ends, p.toList.all isWord)
    (hprops : ∀ row ∈ rows, ∀ entry ∈ row.properties, entry.2.toList.all isWord)
    (h : Spaced rest) : Spaced (listLexemes rows ++ rest) := by
  have hrows : Spaced ((plain ", ").intercalate (rows.map (.char '[' :: rowLexemes ·)) ++
      .char ']' :: rest) := by
    induction rows with
    | nil => exact .char (by decide) (by decide) h
    | cons row rows ih =>
      obtain ⟨he, hes⟩ := List.forall_mem_cons.mp hends
      obtain ⟨hp, hps⟩ := List.forall_mem_cons.mp hprops
      cases rows with
      | nil =>
        rw [List.map_singleton, List.intercalate_singleton]
        exact .char (by decide) (by decide) (.row he hp (.char (by decide) (by decide) h))
      | cons row' rows =>
        have ih := ih hes hps
        simp only [List.map_cons, List.intercalate_cons_cons, List.append_assoc] at ih ⊢
        exact .char (by decide) (by decide) (.row he hp (.plain_append (by decide) ih))
  rw [listLexemes, List.append_assoc, List.append_assoc]
  exact .plain_append (by decide) hrows

/-! ## Parameters of a list -/

private theorem mem_intercalate {α : Type} {x : α} {sep : List α} {xs : List (List α)}
    (hx : x ∉ sep) : x ∈ sep.intercalate xs ↔ ∃ l ∈ xs, x ∈ l := by
  induction xs with
  | nil => simp
  | cons l xs ih =>
    cases xs with
    | nil => simp
    | cons l' xs =>
      rw [List.intercalate_cons_cons, List.mem_append, List.mem_append, ih]
      simp [hx]

theorem parameter_not_mem_plain (p text : String) : Lexeme.parameter p ∉ plain text := by
  simp [plain]

private theorem parameter_mem_rowLexemes {p : String} {row : Row String} :
    Lexeme.parameter p ∈ rowLexemes row ↔ p ∈ row.ends ∨ p ∈ row.properties.map Prod.snd := by
  have hblock : Lexeme.parameter p ∈ (plain ", ").intercalate (row.properties.map entryLexemes) ↔
      p ∈ row.properties.map Prod.snd := by
    rw [mem_intercalate (parameter_not_mem_plain p _), List.mem_map]
    constructor
    · rintro ⟨l, hl, hp⟩
      obtain ⟨entry, hentry, rfl⟩ := List.mem_map.mp hl
      exact ⟨entry, hentry, by simpa [entryLexemes, eq_comm] using hp⟩
    · rintro ⟨entry, hentry, rfl⟩
      exact ⟨_, List.mem_map.mpr ⟨entry, hentry, rfl⟩, by simp [entryLexemes]⟩
  simp only [rowLexemes, List.mem_append, List.mem_cons, hblock]
  simp [eq_comm]

theorem parameter_mem_listLexemes {p : String} {rows : List (Row String)} :
    Lexeme.parameter p ∈ listLexemes rows ↔
      ∃ row ∈ rows, p ∈ row.ends ∨ p ∈ row.properties.map Prod.snd := by
  rw [listLexemes, List.mem_append, List.mem_append,
    mem_intercalate (parameter_not_mem_plain p _), or_iff_right (parameter_not_mem_plain p _),
    or_iff_left (by simp)]
  constructor
  · rintro ⟨l, hl, hp⟩
    obtain ⟨row, hrow, rfl⟩ := List.mem_map.mp hl
    exact ⟨row, hrow, parameter_mem_rowLexemes.mp (by simpa using hp)⟩
  · rintro ⟨row, hrow, hp⟩
    refine ⟨_, List.mem_map.mpr ⟨row, hrow, rfl⟩, ?_⟩
    exact List.mem_cons_of_mem _ (parameter_mem_rowLexemes.mpr hp)

end Cypher

namespace Element

/-! ## What the elements bind -/

theorem bound_of_mem_bindings {e : Element} {p : String} {v : Json} (h : (p, v) ∈ e.bindings) :
    ∃ k, (k, v) ∈ e.bound ∧ p = Cypher.placeholder k e.suffix := by
  rcases List.mem_append.mp h with h | h
  · obtain ⟨⟨k, w⟩, hk, he⟩ := List.mem_map.mp (Fields.mem_of_mem_ofList h)
    obtain ⟨rfl, rfl⟩ := Prod.mk.inj he
    exact ⟨k, List.mem_append_left _ hk, rfl⟩
  · obtain ⟨⟨k, w⟩, hk, he⟩ := List.mem_map.mp h
    obtain ⟨rfl, rfl⟩ := Prod.mk.inj he
    exact ⟨k, List.mem_append_right _ hk, rfl⟩

theorem mem_keys_bindings {e : Element} {p : String} :
    p ∈ Fields.keys e.bindings ↔
      p ∈ e.textRow.ends ∨ p ∈ e.textRow.properties.map Prod.snd := by
  have hfragment : p ∈ Fields.keys e.fragment.parameters ↔
      p ∈ e.textRow.properties.map Prod.snd := by
    rw [fragment, Fragment.ofProperties, Fields.mem_keys_ofList]
    simp [Fields.keys, textRow]
  rw [bindings, Fields.keys, List.map_append, List.mem_append, ← Fields.keys, hfragment, or_comm]
  simp [textRow]

namespace Listed

variable {elements : List Element} (h : Listed elements)
include h

theorem mem_bindings {e : Element} (he : e ∈ elements) {k : String} {v : Json}
    (hk : (k, v) ∈ e.bound) : (Cypher.placeholder k e.suffix, v) ∈ e.bindings := by
  rcases List.mem_append.mp hk with hp | hp
  · refine List.mem_append_left _ (Fields.mem_of_get? (Fields.get?_ofList_of_agree ?_ ?_))
    · exact List.mem_map.mpr ⟨_, hp, rfl⟩
    · intro w hw
      obtain ⟨⟨l, w'⟩, hl, hlw⟩ := List.mem_map.mp hw
      obtain ⟨hkey, rfl⟩ := Prod.mk.inj hlw
      obtain ⟨-, rfl⟩ := h.apart e he e he l k hkey
      exact h.agree e he l _ _ (List.mem_append_left _ hl) hk
  · exact List.mem_append_right _ (List.mem_map.mpr ⟨_, hp, rfl⟩)

/-- A value is found under its placeholder among the parameters of all elements. -/
theorem get?_parameters {e : Element} (he : e ∈ elements) {k : String} {v : Json}
    (hk : (k, v) ∈ e.bound) :
    Fields.get? (Fields.ofList (elements.flatMap bindings)) (Cypher.placeholder k e.suffix) =
      some v := by
  refine Fields.get?_ofList_of_agree (List.mem_flatMap.mpr ⟨e, he, h.mem_bindings he hk⟩) ?_
  intro w hw
  obtain ⟨f, hf, hfw⟩ := List.mem_flatMap.mp hw
  obtain ⟨l, hl, hkl⟩ := bound_of_mem_bindings hfw
  obtain ⟨rfl, rfl⟩ := h.apart e he f hf k l hkl
  exact h.agree e he k _ _ hl hk

end Listed

private theorem mapM_map_eq_some {α β γ : Type} {f : α → β} {g : β → Option γ} {k : α → γ}
    (xs : List α) (h : ∀ x ∈ xs, g (f x) = some (k x)) : (xs.map f).mapM g = some (xs.map k) := by
  induction xs with
  | nil => rfl
  | cons x xs ih =>
    obtain ⟨hx, hxs⟩ := List.forall_mem_cons.mp h
    simp [hx, ih hxs]

theorem Listed.bind?_textRow {elements : List Element} (h : Listed elements) {e : Element}
    (he : e ∈ elements) :
    e.textRow.bind? (Fields.ofList (elements.flatMap bindings)) = some e.row := by
  have hends : e.textRow.ends.mapM (Fields.get? (Fields.ofList (elements.flatMap bindings))) =
      some e.row.ends :=
    mapM_map_eq_some _ fun v hv => h.get?_parameters he (List.mem_append_right _ hv)
  have hprops : e.textRow.properties.mapM (fun entry =>
      (Fields.get? (Fields.ofList (elements.flatMap bindings)) entry.2).map (entry.1, ·)) =
      some e.row.properties := by
    have hp := mapM_map_eq_some e.properties
      (f := fun v => (v.1, Cypher.placeholder v.1 e.suffix))
      (g := fun entry => (Fields.get? (Fields.ofList (elements.flatMap bindings)) entry.2).map
        (entry.1, ·)) (k := id) fun v hv => by
        rw [h.get?_parameters he (List.mem_append_left _ hv)]
        rfl
    rwa [List.map_id] at hp
  simp only [Row.bind?, hends]
  rw [hprops]
  rfl

/-- The block of an element binds each of its properties once. -/
theorem Listed.length_fragment {elements : List Element} (h : Listed elements) {e : Element}
    (he : e ∈ elements) : e.fragment.parameters.length = e.properties.length := by
  rw [fragment, Fragment.ofProperties, Fields.length_ofList, List.length_map]
  rw [Fields.keys, List.map_map]
  have hn := h.nodup e he
  rw [Fields.keys, List.Nodup, List.pairwise_map] at hn
  rw [List.Nodup, List.pairwise_map]
  exact hn.imp fun hne hp => hne (h.apart e he e he _ _ hp).2

/-! ## Numbered elements -/

/-- Elements whose suffixes number them behind one text can be listed, if each by itself can. -/
theorem Listed.of_numbered {α : Type} {base : String} {make : α → Nat → Option Element}
    (hbase : base.toList.all Char.isAlphanum)
    (hsuffix : ∀ x i e, make x i = some e → e.suffix = base ++ toString i) (xs : List α)
    (hends : ∀ x ∈ xs, ∀ i e, make x i = some e → e.ends ≠ [])
    (hnodup : ∀ x ∈ xs, ∀ i e, make x i = some e → e.properties.keys.Nodup)
    (hagree : ∀ x ∈ xs, ∀ i e, make x i = some e →
      ∀ k v w, (k, v) ∈ e.bound → (k, w) ∈ e.bound → v = w) :
    Listed (xs.zipIdx.filterMap fun (x, i) => make x i) := by
  have made : ∀ e ∈ xs.zipIdx.filterMap (fun (x, i) => make x i),
      ∃ x i, (x, i) ∈ xs.zipIdx ∧ x ∈ xs ∧ make x i = some e := by
    intro e he
    obtain ⟨⟨x, i⟩, hx, hmake⟩ := List.mem_filterMap.mp he
    exact ⟨x, i, hx, List.fst_mem_of_mem_zipIdx hx, hmake⟩
  refine ⟨?_, ?_, ?_, ?_, ?_⟩
  · intro e he
    obtain ⟨x, i, -, hx, hmake⟩ := made e he
    exact hends x hx i e hmake
  · intro e he
    obtain ⟨x, i, -, -, hmake⟩ := made e he
    rw [hsuffix x i e hmake, String.toList_append, List.all_append, hbase,
      Cypher.all_isAlphanum_toString]
    rfl
  · intro e he
    obtain ⟨x, i, -, hx, hmake⟩ := made e he
    exact hnodup x hx i e hmake
  · intro e he
    obtain ⟨x, i, -, hx, hmake⟩ := made e he
    exact hagree x hx i e hmake
  · intro e he f hf k l hkl
    obtain ⟨x, i, hx, -, hmake⟩ := made e he
    obtain ⟨y, j, hy, -, hmake'⟩ := made f hf
    rw [hsuffix x i e hmake, hsuffix y j f hmake'] at hkl
    obtain ⟨rfl, rfl⟩ := Cypher.placeholder_toString_inj hkl
    -- one number, so one position
    have hxi := List.mk_mem_zipIdx_iff_getElem?.mp hx
    rw [List.mk_mem_zipIdx_iff_getElem?.mp hy] at hxi
    obtain rfl := Option.some.inj hxi
    exact ⟨Option.some.inj (hmake.symm.trans hmake'), rfl⟩

theorem map_row_numbered {α : Type} {make : α → Nat → Option Element} {f : α → Option (Row Json)}
    (h : ∀ x i, (make x i).map row = f x) (xs : List α) :
    (xs.zipIdx.filterMap fun (x, i) => make x i).map row = xs.filterMap f := by
  rw [List.map_filterMap]
  simp only [h]
  rw [← Function.comp_def f Prod.fst, ← List.filterMap_map, List.zipIdx_map_fst]

end Element

namespace Statement

open Cypher Element

variable {elements : List Element} {listName clauses : String} {ls : List Lexeme}
  (h : Listed elements) (hls : Spaced ls)
  (htext : ls.flatMap Lexeme.chars = (" AS " ++ listName ++ "\n" ++ clauses).toList)
include h hls htext

theorem lexemes_ofElements :
    lexemes (ofElements elements listName clauses).text.toList =
      some (listLexemes (elements.map textRow) ++ ls) := by
  have hchars : (ofElements elements listName clauses).text.toList =
      (listLexemes (elements.map textRow) ++ ls).flatMap Lexeme.chars := by
    rw [List.flatMap_append, chars_listLexemes h.ends_ne_nil, htext, ← String.toList_append]
    simp [ofElements, String.append_assoc]
  rw [hchars]
  refine lexemes_flatMap_chars (.list ?_ ?_ hls)
  · intro row hrow p hp
    obtain ⟨e, he, rfl⟩ := List.mem_map.mp hrow
    obtain ⟨v, -, rfl⟩ := List.mem_map.mp hp
    exact isWord_placeholder (h.suffix e he)
  · intro row hrow entry hentry
    obtain ⟨e, he, rfl⟩ := List.mem_map.mp hrow
    obtain ⟨v, -, rfl⟩ := List.mem_map.mp hentry
    exact isWord_placeholder (h.suffix e he)

theorem reading?_ofElements (hne : elements ≠ []) :
    (ofElements elements listName clauses).reading? = some ⟨elements.map Element.row, ls⟩ := by
  have hlist := list?_lexemes (by simpa using hne : elements.map textRow ≠ []) ls
  have hrows : (elements.map textRow).mapM
      (Row.bind? (ofElements elements listName clauses).parameters) =
      some (elements.map Element.row) := mapM_map_eq_some _ fun e he => h.bind?_textRow he
  rw [reading?, lexemes_ofElements h hls htext, Option.bind_some, hlist]
  simp only [Option.bind_eq_bind, Option.bind_some, hrows]
  rfl

theorem mem_namedParameters_ofElements (hplain : ∀ p, .parameter p ∉ ls) (p : String) :
    p ∈ (ofElements elements listName clauses).namedParameters ↔
      p ∈ (ofElements elements listName clauses).parameters.keys := by
  have hnamed : p ∈ (ofElements elements listName clauses).namedParameters ↔
      Lexeme.parameter p ∈ listLexemes (elements.map textRow) ++ ls := by
    rw [namedParameters, lexemes_ofElements h hls htext, Option.getD_some, List.mem_filterMap]
    constructor
    · rintro ⟨l, hl, hp⟩
      cases l <;> simp_all
    · exact fun hp => ⟨_, hp, rfl⟩
  rw [hnamed, List.mem_append, or_iff_left (hplain p), parameter_mem_listLexemes, ofElements,
    Fields.mem_keys_ofList]
  rw [Fields.keys, List.map_flatMap, List.mem_flatMap]
  constructor
  · rintro ⟨row, hrow, hp⟩
    obtain ⟨e, he, rfl⟩ := List.mem_map.mp hrow
    exact ⟨e, he, mem_keys_bindings.mpr hp⟩
  · rintro ⟨e, he, hp⟩
    exact ⟨e.textRow, List.mem_map.mpr ⟨e, he, rfl⟩, mem_keys_bindings.mp hp⟩

omit hls htext in
theorem propertyBindings_ofElements :
    (ofElements elements listName clauses).propertyBindings =
      (elements.flatMap Element.properties).length := by
  have hlengths : elements.map (·.fragment.parameters.length) =
      elements.map (·.properties.length) :=
    List.map_congr_left fun e he => h.length_fragment he
  rw [ofElements, List.length_flatMap, List.length_flatMap, hlengths]

/-- The statement says the values and properties of its elements, in order, and then its clauses. Its
text names the parameters that are bound, and no other. -/
theorem says_ofElements (hne : elements ≠ []) (hplain : ∀ p, .parameter p ∉ ls)
    {rows : List (Row Json)} (hrows : elements.map Element.row = rows) :
    (ofElements elements listName clauses).reading? = some ⟨rows, ls⟩ ∧
      (∀ p, p ∈ (ofElements elements listName clauses).namedParameters ↔
        p ∈ (ofElements elements listName clauses).parameters.keys) ∧
      (ofElements elements listName clauses).propertyBindings =
        (rows.flatMap Row.properties).length := by
  refine ⟨?_, mem_namedParameters_ofElements h hls htext hplain, ?_⟩
  · rw [reading?_ofElements h hls htext hne, hrows]
  · rw [propertyBindings_ofElements h, ← hrows, List.flatMap_map]
    rfl

end Statement
end GraphLoad
