import GraphLoad.Proofs.Cypher.Lexeme
import GraphLoad.Proofs.Text.Digits

/-!
# Placeholders are told apart

The code of a key can be read back character by character (`placeholderChar_append_inj`), so two
keys never share one. Behind the code stands an underscore and a suffix. Suffixes that are written
behind one text, without an underscore of their own, are told apart as well (`placeholder_inj`): a
key that runs on into that text would bring in an underscore too many. No condition on the text is
needed for that. If it is alphanumeric, a placeholder is one parameter (`isWord_placeholder`).
-/

namespace GraphLoad.Cypher

theorem underscore_not_mem_of_alphanum {s : List Char} (h : s.all Char.isAlphanum) : '_' ∉ s := by
  intro hm
  exact absurd (List.all_eq_true.mp h '_' hm) (by decide)

private theorem underscore_not_mem_hex (n : Nat) : '_' ∉ Text.hex n := fun h =>
  absurd (Text.isAlphanum_of_mem_hex h) (by decide)

/-! ## The code of a key -/

theorem placeholderChar_underscore : placeholderChar '_' = ['_', '_'] := rfl

theorem placeholderChar_alphanum {c : Char} (h : c.isAlphanum) : placeholderChar c = [c] := by
  have hc : c ≠ '_' := by
    rintro rfl
    exact absurd h (by decide)
  rw [placeholderChar, if_neg hc, if_pos h]

theorem placeholderChar_other {c : Char} (hc : c ≠ '_') (h : c.isAlphanum = false) :
    placeholderChar c = '_' :: 'x' :: Text.hex c.toNat ++ ['_'] := by
  rw [placeholderChar, if_neg hc, if_neg (by simp [h])]

/-- Each character is an underscore, a letter or digit, or any other. -/
theorem placeholderChar_cases (c : Char) :
    c = '_' ∨ c.isAlphanum ∨ (c ≠ '_' ∧ c.isAlphanum = false) := by
  by_cases hc : c = '_'
  · exact .inl hc
  · cases h : c.isAlphanum
    · exact .inr (.inr ⟨hc, rfl⟩)
    · exact .inr (.inl rfl)

theorem isWord_of_mem_placeholderChar {c d : Char} (h : d ∈ placeholderChar c) : isWord d := by
  rcases placeholderChar_cases c with rfl | hc | ⟨hu, hc⟩
  · rw [placeholderChar_underscore] at h
    obtain rfl := by simpa using h
    rfl
  · rw [placeholderChar_alphanum hc] at h
    obtain rfl := by simpa using h
    simp [isWord, hc]
  · rw [placeholderChar_other hu hc] at h
    simp only [List.cons_append, List.mem_cons, List.mem_append, List.not_mem_nil, or_false] at h
    rcases h with rfl | rfl | h | rfl
    · rfl
    · rfl
    · simp [isWord, Text.isAlphanum_of_mem_hex h]
    · rfl

/-- The code of a character shows where it ends. -/
theorem placeholderChar_append_inj {c d : Char} {s t : List Char}
    (h : placeholderChar c ++ s = placeholderChar d ++ t) : c = d ∧ s = t := by
  rcases placeholderChar_cases c with rfl | hc | ⟨hu, hc⟩ <;>
    rcases placeholderChar_cases d with rfl | hd | ⟨hv, hd⟩
  · simpa using h
  · rw [placeholderChar_underscore, placeholderChar_alphanum hd] at h
    obtain ⟨rfl, -⟩ := by simpa using h
    exact absurd hd (by decide)
  · rw [placeholderChar_underscore, placeholderChar_other hv hd] at h
    simp at h
  · rw [placeholderChar_underscore, placeholderChar_alphanum hc] at h
    obtain ⟨rfl, -⟩ := by simpa using h
    exact absurd hc (by decide)
  · rw [placeholderChar_alphanum hc, placeholderChar_alphanum hd] at h
    simpa using h
  · rw [placeholderChar_alphanum hc, placeholderChar_other hv hd] at h
    obtain ⟨rfl, -⟩ := by simpa using h
    exact absurd hc (by decide)
  · rw [placeholderChar_underscore, placeholderChar_other hu hc] at h
    simp at h
  · rw [placeholderChar_alphanum hd, placeholderChar_other hu hc] at h
    obtain ⟨rfl, -⟩ := by simpa using h
    exact absurd hd (by decide)
  · -- both codes run up to the first underscore behind the digits
    rw [placeholderChar_other hu hc, placeholderChar_other hv hd] at h
    simp only [List.cons_append, List.append_assoc, List.nil_append, List.cons.injEq,
      true_and] at h
    obtain ⟨hhex, rfl⟩ :=
      Text.append_cons_inj (underscore_not_mem_hex _) (underscore_not_mem_hex _) h
    exact ⟨Char.toNat_inj.mp (Text.hex_inj hhex), rfl⟩

/-! ## The whole placeholder -/

theorem toList_placeholder (key suffix : String) :
    (placeholder key suffix).toList =
      key.toList.flatMap placeholderChar ++ '_' :: suffix.toList := by
  simp [placeholder]

theorem isWord_placeholder {key suffix : String} (h : suffix.toList.all Char.isAlphanum) :
    (placeholder key suffix).toList.all isWord := by
  rw [toList_placeholder, List.all_append, Bool.and_eq_true]
  refine ⟨List.all_eq_true.mpr ?_, ?_⟩
  · intro d hd
    obtain ⟨c, -, hd⟩ := List.mem_flatMap.mp hd
    exact isWord_of_mem_placeholderChar hd
  · rw [List.all_cons, Bool.and_eq_true]
    refine ⟨rfl, List.all_eq_true.mpr ?_⟩
    intro d hd
    simp [isWord, List.all_eq_true.mp h d hd]

/-- What follows a finished key cannot be read as one more character of it: the underscore that
this takes is missing. -/
private theorem no_longer_key {d : Char} {base x y code : List Char} (hx : '_' ∉ x) :
    '_' :: (base ++ x) ≠ placeholderChar d ++ (code ++ '_' :: (base ++ y)) := by
  intro h
  have hd : '_' ∈ placeholderChar d := by
    rcases placeholderChar_cases d with rfl | hd | ⟨hv, hd⟩
    · simp [placeholderChar_underscore]
    · rw [placeholderChar_alphanum hd] at h
      obtain ⟨rfl, -⟩ := by simpa using h
      exact absurd hd (by decide)
    · simp [placeholderChar_other hv hd]
  have hcount := congrArg (List.count '_') h
  have hpos := List.count_pos_iff.mpr hd
  simp only [List.count_cons_self, List.count_append, List.count_eq_zero_of_not_mem hx] at hcount
  omega

private theorem code_inj {base x y : List Char} (hx : '_' ∉ x) (hy : '_' ∉ y) {k l : List Char}
    (h : k.flatMap placeholderChar ++ '_' :: (base ++ x) =
      l.flatMap placeholderChar ++ '_' :: (base ++ y)) : k = l ∧ x = y := by
  induction k generalizing l with
  | nil =>
    cases l with
    | nil => simpa using h
    | cons d l =>
      rw [List.flatMap_cons, List.append_assoc] at h
      exact absurd h (no_longer_key hx)
  | cons c k ih =>
    cases l with
    | nil =>
      rw [List.flatMap_cons, List.append_assoc] at h
      exact absurd h.symm (no_longer_key hy)
    | cons d l =>
      rw [List.flatMap_cons, List.flatMap_cons, List.append_assoc, List.append_assoc] at h
      obtain ⟨rfl, hrest⟩ := placeholderChar_append_inj h
      obtain ⟨rfl, rfl⟩ := ih hrest
      exact ⟨rfl, rfl⟩

/-- Behind any text the key and the rest of the suffix can be read off a placeholder, if that rest
has no underscore. -/
theorem placeholder_inj {base k l x y : String} (hx : '_' ∉ x.toList) (hy : '_' ∉ y.toList)
    (h : placeholder k (base ++ x) = placeholder l (base ++ y)) : k = l ∧ x = y := by
  have hl := congrArg String.toList h
  rw [toList_placeholder, toList_placeholder, String.toList_append, String.toList_append] at hl
  exact (code_inj hx hy hl).imp String.toList_inj.mp String.toList_inj.mp

theorem all_isAlphanum_toString (n : Nat) : (toString n).toList.all Char.isAlphanum := by
  rw [Nat.toString_eq_repr, Nat.toList_repr, List.all_eq_true]
  intro c hc
  simp [Char.isAlphanum, Nat.isDigit_of_mem_toDigits (by decide) (by decide) hc]

/-- Of numbered placeholders behind one text, each stands for one key and one number. -/
theorem placeholder_toString_inj {base k l : String} {m n : Nat}
    (h : placeholder k (base ++ toString m) = placeholder l (base ++ toString n)) :
    k = l ∧ m = n := by
  obtain ⟨rfl, hn⟩ := placeholder_inj (underscore_not_mem_of_alphanum (all_isAlphanum_toString m))
    (underscore_not_mem_of_alphanum (all_isAlphanum_toString n)) h
  exact ⟨rfl, Text.toString_inj hn⟩

end GraphLoad.Cypher
