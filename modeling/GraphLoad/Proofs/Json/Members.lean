import GraphLoad.Json.TextShape
import GraphLoad.Proofs.Json.Writing

/-!
# Records in text

An object in a text is read member by member: what goes by the name of a part fills the record, and anything
else is read past, in whatever order the members stand. It is a record exactly if no part is missing that has
to be given (`ofText_object`).
-/

namespace GraphLoad

open Json.Read

/-- A member of an object in a text: its key, the text of its value, and what it does to a record. -/
structure TextMember (ρ : Type) where
  key : String
  text : List Char
  fill : ρ → ρ

namespace Json.Read

/-- The text, which starts with no blank, is read as the value, in front of another member or the end of an
object. -/
structure Reads (depth : Nat) (text : List Char) (v : Json) : Prop where
  skipBlank_eq : ∀ rest, skipBlank (text ++ rest) = text ++ rest
  any_eq : ∀ sep rest, sep = ',' ∨ sep = '}' → any depth (text ++ sep :: rest) = .ok (v, sep :: rest)

/-- The text is read past, in front of another member or the end of an object. -/
def Skips (text : List Char) : Prop :=
  ∀ sep rest, sep = ',' ∨ sep = '}' → ∃ v, skipped (text ++ sep :: rest) = .ok (v, sep :: rest)

theorem key_quote (care : Care) (k : String) (rest : List Char) :
    key care (quote k.toList ++ rest) = .ok (k, rest) := by
  have hquote : quote k.toList ++ rest = '"' :: (k.toList.flatMap Json.escape ++ '"' :: rest) := by
    simp [quote]
  rw [hquote]
  exact (text_written care k.toList rest).trans (by rw [String.ofList_toList])

end Json.Read

namespace TextMember

variable {ρ : Type}

/-- The member as it is written. -/
def chars (m : TextMember ρ) : List Char :=
  Json.quote m.key.toList ++ ':' :: m.text

/-- The members after the first, and the closing brace. -/
def tail : List (TextMember ρ) → List Char
  | [] => ['}']
  | m :: ms => ',' :: (m.chars ++ tail ms)

/-- The text of an object. -/
def object : List (TextMember ρ) → List Char
  | [] => ['{', '}']
  | m :: ms => '{' :: (m.chars ++ tail ms)

/-- The record after all members. -/
def fillAll (ms : List (TextMember ρ)) (record : ρ) : ρ :=
  ms.foldl (fun record m => m.fill record) record

/-- The member is read as a part of the record, or read past if no part has its name. -/
def Fills (t : TextShape ρ) (depth : Nat) (m : TextMember ρ) : Prop :=
  ∀ sep rest, sep = ',' ∨ sep = '}' →
    match t.parts.find? (·.name == m.key) with
    | some part => ∀ record,
        part.read depth record (m.text ++ sep :: rest) = .ok (m.fill record, sep :: rest)
    | none => m.fill = id ∧ ∃ v, skipped (m.text ++ sep :: rest) = .ok (v, sep :: rest)

/-- The keys that are names of parts. -/
def known (t : TextShape ρ) (ms : List (TextMember ρ)) : List String :=
  (ms.map key).filter fun k => (t.parts.find? (·.name == k)).isSome

variable {t : TextShape ρ} {depth : Nat} {m : TextMember ρ} {ms : List (TextMember ρ)}

theorem tail_eq_cons (ms : List (TextMember ρ)) :
    ∃ sep rest, tail ms = sep :: rest ∧ (sep = ',' ∨ sep = '}') := by
  cases ms with
  | nil => exact ⟨'}', [], rfl, .inr rfl⟩
  | cons m ms => exact ⟨',', _, rfl, .inl rfl⟩

section Member

variable {k : String} {q r r' : List Char} {seen : List String} {record : ρ}

/-- Behind the comma a member is read as the first one. -/
private theorem members_separated (fuel : Nat) (first : Bool) :
    t.members depth (fuel + 1) first seen record ((if first then [] else [',']) ++ '"' :: q) =
      t.members depth (fuel + 1) true seen record ('"' :: q) := by
  have hskip : ∀ s, skipBlank ('"' :: s) = '"' :: s := fun _ => rfl
  have hcomma : ∀ s, skipBlank (',' :: s) = ',' :: s := fun _ => rfl
  cases first with
  | true => rfl
  | false =>
    show t.members depth (fuel + 1) false seen record (',' :: '"' :: q) = _
    simp only [TextShape.members, hskip, hcomma, List.cons.injEq, Char.reduceEq, false_and, imp_false,
      not_false_eq_true, implies_true]

private theorem members_other {v : Json} (hkey : Json.Read.key .kept ('"' :: q) = .ok (k, ':' :: r))
    (hfind : t.parts.find? (·.name == k) = none) (hskipped : skipped r = .ok (v, r')) (fuel : Nat) :
    t.members depth (fuel + 1) true seen record ('"' :: q) =
      t.members depth fuel false seen record r' := by
  have hskip : skipBlank ('"' :: q) = '"' :: q := rfl
  have hcolon : colon (':' :: r) = .ok r := rfl
  simp only [TextShape.members, hskip, List.cons.injEq, Char.reduceEq, false_and, imp_false,
    not_false_eq_true, implies_true, hkey, hfind, hcolon, hskipped]

private theorem members_part {part : TextPart ρ} {record' : ρ}
    (hkey : Json.Read.key .kept ('"' :: q) = .ok (k, ':' :: r))
    (hfind : t.parts.find? (·.name == k) = some part) (hseen : seen.contains k = false)
    (hread : part.read depth record r = .ok (record', r')) (fuel : Nat) :
    t.members depth (fuel + 1) true seen record ('"' :: q) =
      t.members depth fuel false (k :: seen) record' r' := by
  have hskip : skipBlank ('"' :: q) = '"' :: q := rfl
  have hcolon : colon (':' :: r) = .ok r := rfl
  simp only [TextShape.members, hskip, List.cons.injEq, Char.reduceEq, false_and, imp_false,
    not_false_eq_true, implies_true, hkey, hfind, hseen, hcolon, hread, Bool.false_eq_true, if_false]

end Member

theorem length_le_tail (ms : List (TextMember ρ)) : ms.length < (tail ms).length := by
  induction ms with
  | nil => exact Nat.one_pos
  | cons m ms ih =>
    rw [tail, List.length_cons, List.length_cons, List.length_append]
    omega

/-- One member is read: it fills the record, and its key is remembered if it is the name of a part. -/
theorem members_chars (hm : m.Fills t depth) {seen : List String}
    (hseen : m.key ∈ known t [m] → m.key ∉ seen) (fuel : Nat) (first : Bool) (record : ρ) {sep : Char}
    (hsep : sep = ',' ∨ sep = '}') (rest : List Char) :
    t.members depth (fuel + 1) first seen record
        ((if first then [] else [',']) ++ (m.chars ++ sep :: rest)) =
      t.members depth fuel false ((known t [m]).reverse ++ seen) (m.fill record) (sep :: rest) := by
  have hm := hm sep rest hsep
  have hkey := key_quote .kept m.key (':' :: (m.text ++ sep :: rest))
  have hchars : m.chars ++ sep :: rest =
      Json.quote m.key.toList ++ ':' :: (m.text ++ sep :: rest) := by
    simp [chars]
  obtain ⟨q, hq⟩ : ∃ q, Json.quote m.key.toList ++ ':' :: (m.text ++ sep :: rest) = '"' :: q := ⟨_, rfl⟩
  have hknown : known t [m] = if (t.parts.find? (·.name == m.key)).isSome then [m.key] else [] := by
    simp [known, List.filter_cons]
  rw [hq] at hkey hchars
  rw [hchars, members_separated]
  cases hfind : t.parts.find? (·.name == m.key) with
  | none =>
    rw [hfind] at hm hknown
    obtain ⟨hfill, v, hskipped⟩ := hm
    rw [hknown, hfill]
    exact members_other hkey hfind hskipped fuel
  | some part =>
    rw [hfind] at hm hknown
    rw [hknown] at hseen ⊢
    exact members_part hkey hfind (by simpa using hseen) (hm record) fuel

theorem known_cons (t : TextShape ρ) (m : TextMember ρ) (ms : List (TextMember ρ)) :
    known t (m :: ms) = known t [m] ++ known t ms := by
  rw [known, known, known, ← List.filter_append, ← List.map_append, List.singleton_append]

/-- The members behind the first are read. -/
theorem members_tail (hms : ∀ m ∈ ms, m.Fills t depth) {seen : List String}
    (hnodup : (known t ms).Nodup) (hseen : ∀ k ∈ known t ms, k ∉ seen) {fuel : Nat}
    (hfuel : ms.length < fuel) (record : ρ) (rest : List Char) :
    t.members depth fuel false seen record (tail ms ++ rest) =
      t.closed ((known t ms).reverse ++ seen) (fillAll ms record) rest := by
  induction ms generalizing fuel seen record with
  | nil =>
    obtain ⟨fuel, rfl⟩ := Nat.exists_eq_add_one_of_ne_zero (Nat.ne_of_gt hfuel)
    rfl
  | cons m ms ih =>
    obtain ⟨fuel, rfl⟩ := Nat.exists_eq_add_one_of_ne_zero (Nat.ne_of_gt (Nat.zero_lt_of_lt hfuel))
    obtain ⟨hm, hms⟩ := List.forall_mem_cons.mp hms
    obtain ⟨sep, front, htail, hsep⟩ := tail_eq_cons ms
    rw [known_cons] at hnodup hseen ⊢
    obtain ⟨hfirst, hnodup, hapart⟩ := List.nodup_append.mp hnodup
    have hread := members_chars hm (fun hk => hseen m.key (List.mem_append_left _ hk)) fuel false record
      hsep (front ++ rest)
    have htext : tail (m :: ms) ++ rest =
        (if false = true then [] else [',']) ++ (m.chars ++ sep :: (front ++ rest)) := by
      rw [tail, htail]
      simp
    rw [htext, hread, ← List.cons_append, ← htail, ih hms hnodup ?_ (Nat.lt_of_succ_lt_succ hfuel)]
    · rw [List.reverse_append, List.append_assoc]
      rfl
    · intro k hk hmem
      rcases List.mem_append.mp hmem with hmem | hmem
      · exact hapart k (List.mem_reverse.mp hmem) k hk rfl
      · exact hseen k (List.mem_append_right _ hk) hmem

theorem mem_known_iff {part : TextPart ρ} (hpart : part ∈ t.parts) :
    part.name ∈ known t ms ↔ part.name ∈ ms.map key := by
  have hfound : (t.parts.find? (·.name == part.name)).isSome :=
    List.find?_isSome.mpr ⟨part, hpart, beq_self_eq_true part.name⟩
  rw [known, List.mem_filter, and_iff_left hfound]

theorem closed_known (record : ρ) (rest : List Char) :
    t.closed (known t ms).reverse record rest =
      if ∀ part ∈ t.parts, part.absence = .required → part.name ∈ ms.map key then .ok (record, rest)
      else .error .mismatch := by
  have hmissing : (t.parts.any fun part => part.absence = .required ∧
        !(known t ms).reverse.contains part.name) = true ↔
      ¬∀ part ∈ t.parts, part.absence = .required → part.name ∈ ms.map key := by
    rw [List.any_eq_true]
    push Not
    refine exists_congr fun part => and_congr_right fun hpart => ?_
    simp [mem_known_iff hpart]
  rw [TextShape.closed, if_congr hmissing rfl rfl, ite_not]

/-- An object in a text, with anything behind it, is read up to its end. -/
theorem read_object (hms : ∀ m ∈ ms, m.Fills t depth) (hnodup : (known t ms).Nodup)
    (rest : List Char) :
    t.read (depth + 1) (object ms ++ rest) =
      if ∀ part ∈ t.parts, part.absence = .required → part.name ∈ ms.map key then
        .ok (fillAll ms t.blank, rest)
      else .error .mismatch := by
  refine Eq.trans ?_ (closed_known _ rest)
  cases ms with
  | nil => rfl
  | cons m ms =>
    obtain ⟨hm, hms⟩ := List.forall_mem_cons.mp hms
    obtain ⟨sep, front, htail, hsep⟩ := tail_eq_cons ms
    have hknown := known_cons t m ms
    rw [hknown] at hnodup
    obtain ⟨-, hnodup, hapart⟩ := List.nodup_append.mp hnodup
    have hfuel : ms.length < (m.chars ++ (tail ms ++ rest)).length := by
      have htail := length_le_tail ms
      simp only [List.length_append]
      omega
    have hobject : object (m :: ms) ++ rest = '{' :: (m.chars ++ (tail ms ++ rest)) := by
      simp [object]
    have hopen : t.read (depth + 1) ('{' :: (m.chars ++ (tail ms ++ rest))) =
        t.members depth ((m.chars ++ (tail ms ++ rest)).length + 1) true [] t.blank
          (m.chars ++ (tail ms ++ rest)) := rfl
    have hseen : m.key ∈ known t [m] → m.key ∉ [] := fun _ => List.not_mem_nil
    have hchars := members_chars hm hseen (m.chars ++ (tail ms ++ rest)).length true t.blank hsep
      (front ++ rest)
    rw [← List.cons_append, ← htail, List.append_nil] at hchars
    rw [hobject, hopen, hknown, List.reverse_append]
    refine hchars.trans (members_tail hms hnodup (fun k hk hmem => ?_) hfuel _ rest)
    exact hapart k (List.mem_reverse.mp hmem) k hk rfl

/-- A text of an object is a record exactly if every part that has to be given is given. -/
theorem ofText_object {depth : Nat} (hdepth : maxDepth = depth + 1) (hms : ∀ m ∈ ms, m.Fills t depth)
    (hnodup : (known t ms).Nodup) :
    t.ofText (String.ofList (object ms)) =
      if ∀ part ∈ t.parts, part.absence = .required → part.name ∈ ms.map key then
        .ok (fillAll ms t.blank)
      else .error .mismatch := by
  have hread := read_object hms hnodup []
  rw [List.append_nil] at hread
  rw [TextShape.ofText, String.toList_ofList, hdepth, hread]
  split <;> rfl

/-! ## Members that are read -/

theorem read_whole {p : Part ρ} {text : List Char} {v : Json} (hv : Reads depth text v) {sep : Char}
    (hsep : sep = ',' ∨ sep = '}') {record filled : ρ} (hfill : p.read v record = .ok filled)
    (rest : List Char) :
    (TextPart.whole p).read depth record (text ++ sep :: rest) = .ok (filled, sep :: rest) := by
  simp only [TextPart.whole, hv.any_eq sep rest hsep, hfill]

theorem fills_whole {p : Part ρ} (hpart : t.parts.find? (·.name == m.key) = some (.whole p)) {v : Json}
    (hv : Reads depth m.text v) (hfill : ∀ record, p.read v record = .ok (m.fill record)) :
    m.Fills t depth := by
  intro sep rest hsep
  rw [hpart]
  exact fun record => read_whole hv hsep (hfill record) rest

theorem fills_scalar {p : Part ρ} (hpart : t.parts.find? (·.name == m.key) = some (.scalar p))
    {v : Json} (hv : Reads 0 m.text v) (hfill : ∀ record, p.read v record = .ok (m.fill record)) :
    m.Fills t depth := by
  intro sep rest hsep
  rw [hpart]
  intro record
  have hread := read_whole hv hsep (hfill record) rest
  have hany := hv.any_eq sep rest hsep
  have hskip := hv.skipBlank_eq (sep :: rest)
  simp only [TextPart.scalar, hskip]
  -- Where nothing may nest, no bracket opens a value.
  split
  · rename_i heq
    rw [heq] at hany
    cases hany
  · rename_i heq
    rw [heq] at hany
    cases hany
  · exact hread

theorem fills_other (hpart : t.parts.find? (·.name == m.key) = none) (hskips : Skips m.text)
    (hfill : m.fill = id) : m.Fills t depth := by
  intro sep rest hsep
  rw [hpart]
  exact ⟨hfill, hskips sep rest hsep⟩

/-- A part that is a record itself, no part of which has to be given. -/
theorem fills_nested {τ : Type} {name : String} {absence : Absence} {u : TextShape τ} {set : τ → ρ → ρ}
    {inner : List (TextMember τ)}
    (hpart : t.parts.find? (·.name == m.key) = some (.nested name absence u set))
    (htext : m.text = object inner) (hinner : ∀ m ∈ inner, m.Fills u depth)
    (hnodup : (known u inner).Nodup) (hoptional : ∀ part ∈ u.parts, part.absence ≠ .required)
    (hfill : m.fill = set (fillAll inner u.blank)) : m.Fills t (depth + 1) := by
  intro sep rest hsep
  rw [hpart]
  intro record
  show (u.read (depth + 1) (m.text ++ sep :: rest)).map _ = _
  rw [htext, read_object hinner hnodup, if_pos fun part hmem h => absurd h (hoptional part hmem), hfill]
  rfl

end TextMember
end GraphLoad
