import GraphLoad.Json.Reader
import GraphLoad.Proofs.Number.Writing
import GraphLoad.Proofs.Record.Property
import Mathlib.Tactic.IntervalCases

/-!
# Written values

A written text is read back (`Json.Read.text_written`). Where a written value ends can be seen from
its text alone, if what follows cannot belong to a number (`Json.chars_append_inj`), so different
values have different texts (`Json.render_injective`). Hence dropping repeated records loses none of
them (`Record.mem_distinct`).
-/

namespace GraphLoad

namespace Json

/-! ## Texts -/

namespace Read

private theorem hex4_written {n : Nat} (h : n < 0x20) (rest : List Char) :
    hex4 (Text.padZero 4 (Text.hex n) ++ rest) = .ok (n, rest) := by
  interval_cases n <;> rfl

/-- A character of a text stands for itself, or it is escaped and read back from what follows the
backslash. -/
theorem escape_written (care : Care) (c : Char) :
    (Json.escape c = [c] ∧ c ≠ '"' ∧ c ≠ '\\' ∧ ¬c.toNat < 0x20) ∨
      ∃ w, Json.escape c = '\\' :: w ∧ ∀ rest, escape care (w ++ rest) = .ok (c, rest) := by
  unfold Json.escape
  split
  · exact .inr ⟨_, rfl, fun _ => rfl⟩
  · exact .inr ⟨_, rfl, fun _ => rfl⟩
  · exact .inr ⟨_, rfl, fun _ => rfl⟩
  · exact .inr ⟨_, rfl, fun _ => rfl⟩
  · exact .inr ⟨_, rfl, fun _ => rfl⟩
  · exact .inr ⟨_, rfl, fun _ => rfl⟩
  · exact .inr ⟨_, rfl, fun _ => rfl⟩
  · rename_i hquote hslash _ _ _ _ _
    by_cases hcode : c.toNat < 0x20
    · refine .inr ⟨_, if_pos hcode, fun rest => ?_⟩
      -- So low a code unit is no half of a surrogate pair.
      have hlow : care = .skipped ∨ c.toNat < 0xd800 ∨ 0xdfff < c.toNat := by omega
      show unicodeEscape care (Text.padZero 4 (Text.hex c.toNat) ++ rest) = _
      simp only [unicodeEscape, hex4_written hcode, bind, Except.bind]
      rw [if_pos hlow, Char.ofNat_toNat]
    · exact .inl ⟨if_neg hcode, hquote, hslash, hcode⟩

private theorem textBody_escape (care : Care) (fuel : Nat) (read : List Char) (c : Char)
    (rest : List Char) :
    textBody care (fuel + 1) read (Json.escape c ++ rest) =
      textBody care fuel (c :: read) rest := by
  rcases escape_written care c with ⟨hc, hquote, hslash, hcode⟩ | ⟨w, hw, hread⟩
  · rw [hc, List.cons_append, List.nil_append, textBody, if_neg hcode]
    · exact hquote
    · exact hslash
  · rw [hw, List.cons_append, textBody, hread]

private theorem textBody_flatMap_escape (care : Care) {fuel : Nat} {a : List Char}
    (hfuel : a.length < fuel) (read rest : List Char) :
    textBody care fuel read (a.flatMap Json.escape ++ '"' :: rest) =
      .ok (String.ofList (read.reverse ++ a), rest) := by
  induction a generalizing fuel read with
  | nil =>
    obtain ⟨fuel, rfl⟩ := Nat.exists_eq_add_one_of_ne_zero (Nat.ne_of_gt hfuel)
    simp [textBody]
  | cons c a ih =>
    obtain ⟨fuel, rfl⟩ := Nat.exists_eq_add_one_of_ne_zero (Nat.ne_of_gt (Nat.zero_lt_of_lt hfuel))
    rw [List.flatMap_cons, List.append_assoc, textBody_escape, ih (Nat.lt_of_succ_lt_succ hfuel)]
    simp

private theorem length_le_flatMap_escape (a : List Char) :
    a.length ≤ (a.flatMap Json.escape).length := by
  induction a with
  | nil => exact Nat.le_refl 0
  | cons c a ih =>
    have hc : 0 < (Json.escape c).length := by
      rcases escape_written .kept c with ⟨hc, -⟩ | ⟨w, hw, -⟩
      · simp [hc]
      · simp [hw]
    rw [List.flatMap_cons, List.length_append, List.length_cons]
    omega

/-- A written text is read back. -/
theorem text_written (care : Care) (a rest : List Char) :
    text care (a.flatMap Json.escape ++ '"' :: rest) = .ok (String.ofList a, rest) := by
  have hfuel : a.length < (a.flatMap Json.escape ++ '"' :: rest).length + 1 := by
    have := length_le_flatMap_escape a
    rw [List.length_append]
    omega
  rw [text, textBody_flatMap_escape care hfuel]
  rfl

end Read

theorem quote_append_inj {a b s t : List Char} (h : quote a ++ s = quote b ++ t) :
    a = b ∧ s = t := by
  have hbody : a.flatMap escape ++ '"' :: s = b.flatMap escape ++ '"' :: t := by
    simpa [quote] using h
  have hread := Read.text_written .kept a s
  rw [hbody, Read.text_written] at hread
  obtain ⟨htext, hrest⟩ := Prod.mk.inj (Except.ok.inj hread)
  exact ⟨(String.ofList_injective htext).symm, hrest.symm⟩

/-! ## Values -/

/-- What follows does not go on with a number. -/
def Stops (rest : List Char) : Prop :=
  ∀ c ∈ rest.head?, Number.isChar c = false

theorem Stops.nil : Stops [] := nofun

theorem Stops.cons {c : Char} {rest : List Char} (h : Number.isChar c = false) :
    Stops (c :: rest) := fun d hd => by
  rw [← Option.some.inj hd, h]

theorem stops_itemsChars (items : List Json) (rest : List Char) :
    Stops (itemsChars items ++ rest) := by
  cases items <;> exact .cons rfl

theorem stops_fieldsChars (fields : List (String × Json)) (rest : List Char) :
    Stops (fieldsChars fields ++ rest) := by
  cases fields <;> exact .cons rfl

theorem number_append_inj {m n : Number} {s t : List Char} (hs : Stops s) (ht : Stops t)
    (h : m.chars ++ s = n.chars ++ t) : m = n ∧ s = t := by
  have htake : ∀ {n : Number} {s : List Char}, Stops s →
      (n.chars ++ s).takeWhile Number.isChar = n.chars := by
    intro n s hs
    obtain ⟨_, _, -, hall⟩ := n.exists_cons_chars
    rw [List.takeWhile_append_of_pos hall]
    cases s with
    | nil => rw [List.takeWhile_nil, List.append_nil]
    | cons c r => rw [List.takeWhile_cons_of_neg (by simp [hs c rfl]), List.append_nil]
  have hchars : m.chars = n.chars := by rw [← htake hs, h, htake ht]
  rw [hchars] at h
  exact ⟨Number.chars_injective hchars, List.append_cancel_left h⟩

/-- What the first character of a written value tells about the value. -/
def mark : Json → Char
  | .null => 'n'
  | .bool _ => 't'
  | .number _ => '0'
  | .string _ => '"'
  | .array _ => '['
  | .object _ => '{'

/-- A character, with one for all those of numbers and one for both truth values. -/
def markOf (c : Char) : Char :=
  if Number.isChar c then '0' else if c = 'f' then 't' else c

theorem mark_eq (v : Json) (rest : List Char) : (v.chars ++ rest).head?.map markOf = some v.mark := by
  cases v with
  | null => rfl
  | bool b => cases b <;> rfl
  | number n =>
    obtain ⟨c, r, hcons, hall⟩ := n.exists_cons_chars
    have hc : Number.isChar c := hall c (hcons ▸ List.mem_cons_self)
    rw [chars, hcons, List.cons_append, List.head?_cons, Option.map_some, markOf, if_pos hc, mark]
  | string s =>
    rw [chars]
    rfl
  | array items => cases items <;> rfl
  | object fields => cases fields <;> rfl

theorem mark_eq_of_append {v w : Json} {s t : List Char} (h : v.chars ++ s = w.chars ++ t) :
    v.mark = w.mark := by
  have hv := mark_eq v s
  rw [h, mark_eq] at hv
  exact (Option.some.inj hv).symm

private theorem items_append_inj {a b : List Json} {s t : List Char}
    (ih : ∀ v ∈ a, ∀ {w : Json} {s t : List Char}, Stops s → Stops t →
      v.chars ++ s = w.chars ++ t → v = w ∧ s = t)
    (h : itemsChars a ++ s = itemsChars b ++ t) : a = b ∧ s = t := by
  induction a generalizing b with
  | nil =>
    cases b with
    | nil => exact ⟨rfl, (List.cons.inj h).2⟩
    | cons w b => exact absurd (List.cons.inj h).1 (by decide)
  | cons v a iha =>
    obtain ⟨hv, ha⟩ := List.forall_mem_cons.mp ih
    cases b with
    | nil => exact absurd (List.cons.inj h).1 (by decide)
    | cons w b =>
      rw [itemsChars, itemsChars, List.cons_append, List.cons_append, List.append_assoc,
        List.append_assoc] at h
      obtain ⟨rfl, hrest⟩ := hv (stops_itemsChars a s) (stops_itemsChars b t) (List.cons.inj h).2
      obtain ⟨rfl, rfl⟩ := iha ha hrest
      exact ⟨rfl, rfl⟩

private theorem fields_append_inj {f g : List (String × Json)} {s t : List Char}
    (ih : ∀ e ∈ f, ∀ {w : Json} {s t : List Char}, Stops s → Stops t →
      e.2.chars ++ s = w.chars ++ t → e.2 = w ∧ s = t)
    (h : fieldsChars f ++ s = fieldsChars g ++ t) : f = g ∧ s = t := by
  induction f generalizing g with
  | nil =>
    cases g with
    | nil => exact ⟨rfl, (List.cons.inj h).2⟩
    | cons e g => exact absurd (List.cons.inj h).1 (by decide)
  | cons e f ihf =>
    obtain ⟨he, hf⟩ := List.forall_mem_cons.mp ih
    obtain ⟨k, v⟩ := e
    cases g with
    | nil => exact absurd (List.cons.inj h).1 (by decide)
    | cons e' g =>
      obtain ⟨l, w⟩ := e'
      simp only [fieldsChars, List.cons_append, List.append_assoc] at h
      obtain ⟨hkey, hvalue⟩ := quote_append_inj (List.cons.inj h).2
      obtain rfl := String.toList_injective hkey
      obtain ⟨rfl, hrest⟩ :=
        he (stops_fieldsChars f s) (stops_fieldsChars g t) (List.cons.inj hvalue).2
      obtain ⟨rfl, rfl⟩ := ihf hf hrest
      exact ⟨rfl, rfl⟩

private theorem bracket_ne_chars_append (v : Json) (s t : List Char) :
    ']' :: s ≠ v.chars ++ t := by
  intro h
  have hmark := mark_eq v t
  rw [← h] at hmark
  cases v <;> exact absurd hmark (by simp [mark, markOf]; decide)

private theorem array_append_inj {a b : List Json} {s t : List Char}
    (ih : ∀ v ∈ a, ∀ {w : Json} {s t : List Char}, Stops s → Stops t →
      v.chars ++ s = w.chars ++ t → v = w ∧ s = t)
    (h : (array a).chars ++ s = (array b).chars ++ t) : a = b ∧ s = t := by
  refine items_append_inj ih ?_
  cases a with
  | nil =>
    cases b with
    | nil => exact (List.cons.inj h).2
    | cons w b =>
      simp only [chars, List.cons_append, List.append_assoc] at h
      exact absurd (List.cons.inj h).2 (bracket_ne_chars_append w _ _)
  | cons v a =>
    cases b with
    | nil =>
      simp only [chars, List.cons_append, List.append_assoc] at h
      exact absurd (List.cons.inj h).2.symm (bracket_ne_chars_append v _ _)
    | cons w b => exact congrArg (',' :: ·) (List.cons.inj h).2

private theorem object_append_inj {f g : List (String × Json)} {s t : List Char}
    (ih : ∀ e ∈ f, ∀ {w : Json} {s t : List Char}, Stops s → Stops t →
      e.2.chars ++ s = w.chars ++ t → e.2 = w ∧ s = t)
    (h : (object f).chars ++ s = (object g).chars ++ t) : f = g ∧ s = t := by
  refine fields_append_inj ih ?_
  cases f with
  | nil =>
    cases g with
    | nil => exact (List.cons.inj h).2
    | cons e g => exact absurd (List.cons.inj (List.cons.inj h).2).1 (by decide)
  | cons e f =>
    cases g with
    | nil => exact absurd (List.cons.inj (List.cons.inj h).2).1 (by decide)
    | cons e' g => exact congrArg (',' :: ·) (List.cons.inj h).2

/-- A value that starts a text is known from it, and so is what follows. -/
theorem chars_append_inj {v w : Json} {s t : List Char} (hs : Stops s) (ht : Stops t)
    (h : v.chars ++ s = w.chars ++ t) : v = w ∧ s = t := by
  have hmark := mark_eq_of_append h
  induction v generalizing w s t with
  | null =>
    cases w with
    | null => exact ⟨rfl, List.append_cancel_left h⟩
    | bool | number | string | array | object => simp [mark] at hmark
  | bool b =>
    cases w with
    | bool b' =>
      cases b <;> cases b'
      · exact ⟨rfl, List.append_cancel_left h⟩
      · exact absurd (List.cons.inj h).1 (by decide)
      · exact absurd (List.cons.inj h).1 (by decide)
      · exact ⟨rfl, List.append_cancel_left h⟩
    | null | number | string | array | object => simp [mark] at hmark
  | number m =>
    cases w with
    | number n =>
      rw [chars, chars] at h
      obtain ⟨rfl, rfl⟩ := number_append_inj hs ht h
      exact ⟨rfl, rfl⟩
    | null | bool | string | array | object => simp [mark] at hmark
  | string a =>
    cases w with
    | string b =>
      rw [chars, chars] at h
      obtain ⟨htext, rfl⟩ := quote_append_inj h
      exact ⟨congrArg string (String.toList_injective htext), rfl⟩
    | null | bool | number | array | object => simp [mark] at hmark
  | array a ih =>
    cases w with
    | array b =>
      obtain ⟨rfl, rfl⟩ := array_append_inj (fun v hv w s t hs ht h =>
        ih v hv hs ht h (mark_eq_of_append h)) h
      exact ⟨rfl, rfl⟩
    | null | bool | number | string | object => simp [mark] at hmark
  | object f ih =>
    cases w with
    | object g =>
      obtain ⟨rfl, rfl⟩ := object_append_inj (fun e he w s t hs ht h =>
        ih e he hs ht h (mark_eq_of_append h)) h
      exact ⟨rfl, rfl⟩
    | null | bool | number | string | array => simp [mark] at hmark

/-- Different values have different texts. -/
theorem render_injective : Function.Injective render := by
  intro v w h
  have hchars : v.chars ++ [] = w.chars ++ [] := by
    rw [List.append_nil, List.append_nil]
    exact String.ofList_injective h
  exact (chars_append_inj .nil .nil hchars).1

end Json

/-! ## Repeated records -/

namespace Record

theorem canonical_injective : Function.Injective canonical := fun _ _ h =>
  Json.object.inj (Json.render_injective h)

private theorem mem_distinctFrom {seen : List String} {r : Record} {records : List Record} :
    r ∈ distinctFrom seen records ↔ r ∈ records ∧ canonical r ∉ seen := by
  induction records generalizing seen with
  | nil => simp [distinctFrom]
  | cons x rs ih =>
    rw [distinctFrom]
    split
    · rename_i hx
      have hx : canonical x ∈ seen := List.contains_iff_mem.mp hx
      rw [ih, List.mem_cons]
      constructor
      · exact And.imp_left .inr
      · rintro ⟨rfl | hr, hseen⟩
        · exact absurd hx hseen
        · exact ⟨hr, hseen⟩
    · rename_i hx
      have hx : canonical x ∉ seen := fun h => hx (List.contains_iff_mem.mpr h)
      rw [List.mem_cons, List.mem_cons, ih, List.mem_cons, not_or]
      constructor
      · rintro (rfl | ⟨hr, -, hseen⟩)
        · exact ⟨.inl rfl, hx⟩
        · exact ⟨.inr hr, hseen⟩
      · rintro ⟨rfl | hr, hseen⟩
        · exact .inl rfl
        · by_cases heq : r = x
          · exact .inl heq
          · exact .inr ⟨hr, fun h => heq (canonical_injective h), hseen⟩

/-- Dropping repeated records loses none of them. -/
theorem mem_distinct {r : Record} {records : List Record} :
    r ∈ distinct records ↔ r ∈ records := by
  rw [distinct, mem_distinctFrom, and_iff_left List.not_mem_nil]

end Record
end GraphLoad
