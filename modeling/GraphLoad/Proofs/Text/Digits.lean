import GraphLoad.Text.Digits

/-!
# Written digits

Natural numbers are told apart by their decimal and by their hexadecimal digits.
-/

namespace GraphLoad.Text

/-- A text is cut at the first character that is not of a kind. -/
theorem append_cons_inj_of {p : Char → Bool} {a b : Char} {x y s t : List Char}
    (hx : ∀ c ∈ x, p c) (hy : ∀ c ∈ y, p c) (ha : p a = false) (hb : p b = false)
    (h : x ++ a :: s = y ++ b :: t) : x = y ∧ a = b ∧ s = t := by
  have htake := congrArg (List.takeWhile p) h
  rw [List.takeWhile_append_of_pos hx, List.takeWhile_append_of_pos hy,
    List.takeWhile_cons_of_neg (Bool.eq_false_iff.mp ha),
    List.takeWhile_cons_of_neg (Bool.eq_false_iff.mp hb), List.append_nil, List.append_nil] at htake
  subst htake
  obtain ⟨rfl, rfl⟩ := List.cons.inj (List.append_cancel_left h)
  exact ⟨rfl, rfl, rfl⟩

/-- A text is cut at the first place where a character stands. -/
theorem append_cons_inj {c : Char} {x y s t : List Char} (hx : c ∉ x) (hy : c ∉ y)
    (h : x ++ c :: s = y ++ c :: t) : x = y ∧ s = t := by
  have hne {z : List Char} (hz : c ∉ z) : ∀ d ∈ z, (d != c) = true := fun d hd =>
    bne_iff_ne.mpr fun heq => hz (heq ▸ hd)
  obtain ⟨hfront, -, hback⟩ :=
    append_cons_inj_of (hne hx) (hne hy) (bne_self_eq_false c) (bne_self_eq_false c) h
  exact ⟨hfront, hback⟩

/-! ## Decimal digits -/

theorem decimal_inj {m n : Nat} (h : decimal m = decimal n) : m = n := by
  rw [← Nat.ofDigitChars_ten_toDigits (n := m), ← decimal, h, decimal,
    Nat.ofDigitChars_ten_toDigits]

theorem isDigit_of_mem_decimal {n : Nat} {c : Char} (h : c ∈ decimal n) : c.isDigit :=
  Nat.isDigit_of_mem_toDigits (by decide) (by decide) h

theorem not_mem_decimal {n : Nat} {c : Char} (hc : c.isDigit = false) : c ∉ decimal n := fun h => by
  rw [isDigit_of_mem_decimal h] at hc
  cases hc

theorem toString_inj {m n : Nat} (h : toString m = toString n) : m = n := by
  rw [Nat.toString_eq_repr, Nat.toString_eq_repr] at h
  exact decimal_inj (by rw [decimal, decimal, ← Nat.toList_repr, h, Nat.toList_repr])

/-! ## Hexadecimal digits -/

private theorem hexValue?_digitChar : ∀ n < 16, hexValue? n.digitChar = some n := by
  decide

private theorem isAlphanum_digitChar : ∀ n < 16, n.digitChar.isAlphanum := by
  decide

/-- Hexadecimal digits are read back. -/
theorem inBase?_hex (n : Nat) : inBase? 16 (hex n) = some n := by
  induction n using Nat.strongRecOn with
  | ind n ih =>
    rw [hex, Nat.toDigits_eq_if (by decide)]
    split
    · rename_i h
      simp [inBase?, hexValue?_digitChar n h, h]
    · rename_i h
      have hlt : n % 16 < 16 := Nat.mod_lt n (by decide)
      have hdiv := ih (n / 16) (by omega)
      have hmod : ((hexValue? (n % 16).digitChar).filter fun d => decide (d < 16)) = some (n % 16) := by
        rw [hexValue?_digitChar _ hlt, Option.filter, if_pos (by simpa using hlt)]
      rw [inBase?, hex] at hdiv
      rw [inBase?, List.foldlM_append, hdiv]
      simp [hmod, Nat.div_add_mod]

theorem hex_inj {m n : Nat} (h : hex m = hex n) : m = n := by
  have := inBase?_hex m
  rw [h, inBase?_hex] at this
  exact (Option.some.inj this).symm

theorem isAlphanum_of_mem_hex {n : Nat} {c : Char} (h : c ∈ hex n) : c.isAlphanum := by
  induction n using Nat.strongRecOn with
  | ind n ih =>
    rw [hex, Nat.toDigits_eq_if (by decide)] at h
    split at h
    · rename_i hn
      obtain rfl := by simpa using h
      exact isAlphanum_digitChar n hn
    · rcases List.mem_append.mp h with h | h
      · exact ih (n / 16) (by omega) h
      · obtain rfl := by simpa using h
        exact isAlphanum_digitChar _ (Nat.mod_lt n (by decide))

end GraphLoad.Text
