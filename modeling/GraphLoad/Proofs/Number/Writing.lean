import GraphLoad.Json.Printer
import GraphLoad.Proofs.Text.Digits
import Mathlib.Tactic.Ring
import Mathlib.Data.Nat.Digits.Defs

/-!
# Written numbers

`Number.chars_injective`: different numbers are written differently. A decimal can be read off its
written form: the digits, taken together, are its coefficient with as many zeros behind it as the place
of the point says.
-/

namespace GraphLoad

namespace Decimal

open Text

/-! ## With a point -/

/-- On both sides of the point stand digits. They make up the given ones, with zeros behind them if
the point stands further behind. -/
theorem pointed_split {digits : List Char} (hdigits : ∀ c ∈ digits, c.isDigit) (point : Int) :
    ∃ whole fraction : List Char, ∃ zeros : Nat, pointed digits point = whole ++ '.' :: fraction ∧
      (∀ c ∈ whole, c.isDigit) ∧ (∀ c ∈ fraction, c.isDigit) ∧
      Nat.ofDigitChars 10 (whole ++ fraction) 0 = 10 ^ zeros * Nat.ofDigitChars 10 digits 0 ∧
      (zeros : Int) = point - digits.length + fraction.length := by
  have hzeros : ∀ n, ∀ c ∈ List.replicate n '0', c.isDigit := fun n c hc => by
    rw [List.eq_of_mem_replicate hc]
    rfl
  rw [pointed]
  split
  · -- all digits stand behind the point
    refine ⟨['0'], List.replicate (-point).toNat '0' ++ digits, 0, rfl, ?_, ?_, ?_, ?_⟩
    · exact List.forall_mem_singleton.mpr rfl
    · exact List.forall_mem_append.mpr ⟨hzeros _, hdigits⟩
    · rw [Nat.ofDigitChars_append, Nat.ofDigitChars_append, Nat.ofDigitChars_replicate_zero]
      simp [Nat.ofDigitChars_cons]
    · rw [List.length_append, List.length_replicate]
      omega
  · rename_i hpoint
    have htake : ∀ c ∈ digits.take point.toNat, c.isDigit := fun c hc =>
      hdigits c (List.mem_of_mem_take hc)
    rcases Nat.lt_or_ge point.toNat digits.length with hlt | hge
    · -- the point stands between the digits
      have hfraction : (digits.drop point.toNat).isEmpty = false := by
        rw [List.isEmpty_eq_false_iff, ← List.length_pos_iff, List.length_drop]
        omega
      have hfill : point.toNat - digits.length = 0 := by omega
      dsimp only
      rw [hfraction, hfill, List.replicate_zero, List.append_nil, if_neg Bool.false_ne_true]
      refine ⟨digits.take point.toNat, digits.drop point.toNat, 0, rfl, htake, ?_, ?_, ?_⟩
      · exact fun c hc => hdigits c (List.mem_of_mem_drop hc)
      · rw [List.take_append_drop, Nat.pow_zero, Nat.one_mul]
      · rw [List.length_drop]
        omega
    · -- the point stands behind all digits
      have hfraction : digits.drop point.toNat = [] := List.drop_of_length_le hge
      dsimp only
      rw [hfraction, List.isEmpty_nil, if_pos rfl, List.take_of_length_le hge]
      refine ⟨digits ++ List.replicate (point.toNat - digits.length) '0', ['0'],
        point.toNat - digits.length + 1, rfl, ?_, ?_, ?_, ?_⟩
      · exact List.forall_mem_append.mpr ⟨hdigits, hzeros _⟩
      · exact List.forall_mem_singleton.mpr rfl
      · rw [Nat.ofDigitChars_append, Nat.ofDigitChars_append, Nat.ofDigitChars_replicate_zero]
        simp [Nat.ofDigitChars_cons, Nat.pow_succ]
        ring
      · rw [List.length_singleton]
        omega

/-- A number with trailing zeros has one form without them. -/
private theorem pow_mul_inj {a b m n : Nat} (ha : a % 10 ≠ 0) (hb : b % 10 ≠ 0)
    (h : 10 ^ m * a = 10 ^ n * b) : m = n ∧ a = b := by
  induction m generalizing n with
  | zero =>
    cases n with
    | zero => exact ⟨rfl, by simpa using h⟩
    | succ n =>
      refine absurd ?_ ha
      rw [Nat.pow_zero, Nat.one_mul, Nat.pow_succ, Nat.mul_comm (10 ^ n), Nat.mul_assoc] at h
      rw [h, Nat.mul_mod_right]
  | succ m ih =>
    cases n with
    | zero =>
      refine absurd ?_ hb
      rw [Nat.pow_zero, Nat.one_mul, Nat.pow_succ, Nat.mul_comm (10 ^ m), Nat.mul_assoc] at h
      rw [← h, Nat.mul_mod_right]
    | succ n =>
      rw [Nat.pow_succ, Nat.pow_succ, Nat.mul_comm (10 ^ m), Nat.mul_comm (10 ^ n), Nat.mul_assoc,
        Nat.mul_assoc] at h
      obtain ⟨rfl, rfl⟩ := ih (Nat.eq_of_mul_eq_mul_left (by decide) h)
      exact ⟨rfl, rfl⟩

/-- What is read off a written form: the coefficient, and the place of its first digit. -/
private theorem coefficient_exponent_eq {d e : Decimal} {m n : Nat}
    (h : 10 ^ m * d.coefficient = 10 ^ n * e.coefficient)
    (hplace : (m : Int) - d.exponent = n - e.exponent) :
    d.coefficient = e.coefficient ∧ d.exponent = e.exponent := by
  have hpos : ∀ k : Nat, 10 ^ k ≠ 0 := fun k => Nat.pos_iff_ne_zero.mp (Nat.pow_pos (by decide))
  rcases d.normal with hd | ⟨hd, hdx⟩ <;> rcases e.normal with he | ⟨he, hex⟩
  · obtain ⟨rfl, hcoefficient⟩ := pow_mul_inj hd he h
    exact ⟨hcoefficient, by omega⟩
  · rw [he, Nat.mul_zero, Nat.mul_eq_zero] at h
    rcases h with h | h
    · exact absurd h (hpos m)
    · rw [h] at hd
      exact absurd rfl hd
  · rw [hd, Nat.mul_zero] at h
    rcases Nat.mul_eq_zero.mp h.symm with h | h
    · exact absurd h (hpos n)
    · rw [h] at he
      exact absurd rfl he
  · exact ⟨hd.trans he.symm, hdx.trans hex.symm⟩

/-! ## With an exponent -/

/-- The sign and the digits of an exponent. -/
def exponentChars (exponent : Int) : List Char :=
  (if exponent < 0 then '-' else '+') :: decimal exponent.natAbs

theorem exponentChars_inj {m n : Int} (h : exponentChars m = exponentChars n) : m = n := by
  obtain ⟨hsign, hdigits⟩ := List.cons.inj h
  have habs := decimal_inj hdigits
  split at hsign <;> split at hsign
  · omega
  · exact absurd hsign (by decide)
  · exact absurd hsign (by decide)
  · omega

/-- The digits stand before the exponent, with at most a point among them. -/
theorem scientific_split {digits : List Char} (hdigits : ∀ c ∈ digits, c.isDigit) (exponent : Int) :
    ∃ mantissa, scientific digits exponent = mantissa ++ 'e' :: exponentChars exponent ∧
      (∀ c ∈ mantissa, c.isDigit ∨ c = '.') ∧ mantissa.filter Char.isDigit = digits := by
  have hfilter : digits.filter Char.isDigit = digits := List.filter_eq_self.mpr hdigits
  match digits with
  | [] => exact ⟨[], rfl, nofun, rfl⟩
  | [d] => exact ⟨[d], rfl, fun c hc => .inl (hdigits c hc), hfilter⟩
  | d :: d' :: r =>
    refine ⟨d :: '.' :: d' :: r, rfl, ?_, ?_⟩
    · intro c hc
      rcases List.mem_cons.mp hc with rfl | hc
      · exact .inl (hdigits c List.mem_cons_self)
      · rcases List.mem_cons.mp hc with rfl | hc
        · exact .inr rfl
        · exact .inl (hdigits c (List.mem_cons_of_mem d hc))
    · rw [List.filter_cons_of_pos (hdigits d List.mem_cons_self), List.filter_cons_of_neg (by decide)]
      rw [List.filter_cons_of_pos (hdigits d List.mem_cons_self)] at hfilter
      exact hfilter

/-! ## Both forms -/

/-- The written form of a number without its sign. -/
def unsigned (layout : Layout) (d : Decimal) : List Char :=
  let digits := decimal d.coefficient
  let leading : Int := d.exponent + digits.length - 1
  if layout.lowest ≤ leading ∧ leading ≤ layout.highest then pointed digits (leading + 1)
  else scientific digits leading

variable {layout : Layout} {d e : Decimal}

theorem unsigned_cases (layout : Layout) (d : Decimal) :
    (∃ whole fraction : List Char, ∃ zeros : Nat, unsigned layout d = whole ++ '.' :: fraction ∧
      (∀ c ∈ whole, c.isDigit) ∧ (∀ c ∈ fraction, c.isDigit) ∧
      Nat.ofDigitChars 10 (whole ++ fraction) 0 = 10 ^ zeros * d.coefficient ∧
      (zeros : Int) - d.exponent = fraction.length) ∨
    ∃ mantissa, unsigned layout d = mantissa ++
        'e' :: exponentChars (d.exponent + (decimal d.coefficient).length - 1) ∧
      (∀ c ∈ mantissa, c.isDigit ∨ c = '.') ∧
      mantissa.filter Char.isDigit = decimal d.coefficient := by
  have hdigits : ∀ c ∈ decimal d.coefficient, c.isDigit := fun c => isDigit_of_mem_decimal
  rw [unsigned]
  split
  · obtain ⟨whole, fraction, zeros, htext, hwhole, hfraction, hvalue, hzeros⟩ :=
      pointed_split hdigits (d.exponent + (decimal d.coefficient).length - 1 + 1)
    refine .inl ⟨whole, fraction, zeros, htext, hwhole, hfraction, ?_, by omega⟩
    rw [hvalue, decimal, Nat.ofDigitChars_ten_toDigits]
  · exact .inr (scientific_split hdigits _)

theorem unsigned_inj (h : unsigned layout d = unsigned layout e) :
    d.coefficient = e.coefficient ∧ d.exponent = e.exponent := by
  have hdigits : ∀ {c : Char} {text : List Char}, c.isDigit = false →
      (∀ a ∈ text, a.isDigit) → c ∉ text := fun hc htext hmem => by
    rw [htext _ hmem] at hc
    cases hc
  have hpointed : ∀ {whole fraction : List Char}, (∀ a ∈ whole, a.isDigit) →
      (∀ a ∈ fraction, a.isDigit) → 'e' ∉ whole ++ '.' :: fraction := fun hw hf => by
    simp [hdigits (c := 'e') rfl hw, hdigits (c := 'e') rfl hf]
  have hmantissa : ∀ {text : List Char}, (∀ a ∈ text, a.isDigit ∨ a = '.') → 'e' ∉ text :=
    fun htext hmem => by
      rcases htext _ hmem with hdigit | hpoint
      · exact absurd hdigit (by decide)
      · exact absurd hpoint (by decide)
  rcases unsigned_cases layout d with ⟨wd, fd, zd, hd, hwd, hfd, hvd, hzd⟩ | ⟨md, hd, hmd, hfd⟩ <;>
    rcases unsigned_cases layout e with ⟨we, fe, ze, he, hwe, hfe, hve, hze⟩ | ⟨me, he, hme, hfe⟩ <;>
    rw [hd, he] at h
  · obtain ⟨rfl, rfl⟩ := append_cons_inj (hdigits rfl hwd) (hdigits rfl hwe) h
    exact coefficient_exponent_eq (hvd.symm.trans hve) (hzd.trans hze.symm)
  · exact absurd (h ▸ List.mem_append_right me List.mem_cons_self) (hpointed hwd hfd)
  · exact absurd (h ▸ List.mem_append_right md List.mem_cons_self) (hpointed hwe hfe)
  · obtain ⟨rfl, hexponent⟩ := append_cons_inj (hmantissa hmd) (hmantissa hme) h
    have hcoefficient := decimal_inj (hfd.symm.trans hfe)
    have hleading := exponentChars_inj hexponent
    rw [hcoefficient] at hleading
    exact ⟨hcoefficient, by omega⟩

theorem head?_unsigned_ne : (unsigned layout d).head? ≠ some '-' := by
  rcases unsigned_cases layout d with ⟨whole, _, _, htext, hwhole, -⟩ | ⟨mantissa, htext, hm, -⟩ <;>
    rw [htext]
  · cases whole with
    | nil => simp
    | cons c r =>
      rintro hhead
      obtain rfl := Option.some.inj hhead
      exact absurd (hwhole '-' List.mem_cons_self) (by decide)
  · cases mantissa with
    | nil => simp
    | cons c r =>
      rintro hhead
      obtain rfl := Option.some.inj hhead
      exact absurd (hm '-' List.mem_cons_self) (by decide)

theorem chars_eq : d.chars layout =
    if d.negative then '-' :: unsigned layout d else unsigned layout d := rfl

theorem chars_inj (h : d.chars layout = e.chars layout) : d = e := by
  have hsigned : ∀ {x y : Decimal}, '-' :: unsigned layout x ≠ unsigned layout y := fun h =>
    head?_unsigned_ne (congrArg List.head? h).symm
  have heq : d.negative = e.negative ∧ unsigned layout d = unsigned layout e := by
    rw [chars_eq, chars_eq] at h
    cases hd : d.negative <;> cases he : e.negative <;> rw [hd, he] at h
    · exact ⟨rfl, h⟩
    · exact absurd h.symm hsigned
    · exact absurd h hsigned
    · exact ⟨rfl, (List.cons.inj h).2⟩
  obtain ⟨hcoefficient, hexponent⟩ := unsigned_inj heq.2
  cases d
  cases e
  obtain rfl := heq.1
  obtain rfl := hcoefficient
  obtain rfl := hexponent
  rfl

end Decimal

/-! ## Numbers -/

namespace Number

/-- The characters that numbers are written with. -/
def isChar (c : Char) : Bool :=
  c.isDigit || ['-', '+', '.', 'e'].contains c

private theorem isChar_of_isDigit {c : Char} (h : c.isDigit) : isChar c := by
  rw [isChar, h, Bool.true_or]

private theorem isChar_unsigned (layout : Decimal.Layout) (d : Decimal) :
    ∀ c ∈ Decimal.unsigned layout d, isChar c := by
  rcases Decimal.unsigned_cases layout d with
    ⟨whole, fraction, _, htext, hwhole, hfraction, -⟩ | ⟨mantissa, htext, hmantissa, -⟩ <;> rw [htext]
  · refine List.forall_mem_append.mpr ⟨fun c hc => isChar_of_isDigit (hwhole c hc), ?_⟩
    exact List.forall_mem_cons.mpr ⟨rfl, fun c hc => isChar_of_isDigit (hfraction c hc)⟩
  · refine List.forall_mem_append.mpr ⟨?_, List.forall_mem_cons.mpr ⟨rfl, ?_⟩⟩
    · intro c hc
      rcases hmantissa c hc with hdigit | rfl
      · exact isChar_of_isDigit hdigit
      · rfl
    · refine List.forall_mem_cons.mpr ⟨?_, fun c hc =>
        isChar_of_isDigit (Text.isDigit_of_mem_decimal hc)⟩
      split <;> rfl

/-- A number is written with the characters of numbers, and with one at least. -/
theorem exists_cons_chars (n : Number) :
    ∃ c r, n.chars = c :: r ∧ ∀ a ∈ n.chars, isChar a := by
  have hall : ∀ a ∈ n.chars, isChar a := by
    cases n with
    | int i =>
      have hdecimal : ∀ a ∈ Text.decimal i.natAbs, isChar a := fun a ha =>
        isChar_of_isDigit (Text.isDigit_of_mem_decimal ha)
      rw [chars]
      split
      · exact List.forall_mem_cons.mpr ⟨rfl, hdecimal⟩
      · exact hdecimal
    | real d =>
      rw [chars, Decimal.chars_eq]
      split
      · exact List.forall_mem_cons.mpr ⟨rfl, isChar_unsigned _ d⟩
      · exact isChar_unsigned _ d
  have hne : n.chars ≠ [] := by
    cases n with
    | int i =>
      rw [chars]
      split
      · exact List.cons_ne_nil _ _
      · exact Nat.toDigits_ne_nil
    | real d =>
      rw [chars, Decimal.chars_eq]
      split
      · exact List.cons_ne_nil _ _
      · rcases Decimal.unsigned_cases layout d with ⟨_, _, _, htext, -⟩ | ⟨_, htext, -⟩ <;>
          rw [htext] <;> exact List.append_ne_nil_of_right_ne_nil _ (List.cons_ne_nil _ _)
  obtain ⟨c, r, hcons⟩ := List.exists_cons_of_ne_nil hne
  exact ⟨c, r, hcons, hall⟩

private theorem int_chars_inj {i j : Int} (h : (int i).chars = (int j).chars) : i = j := by
  have hsign : ∀ {m n : Nat}, '-' :: Text.decimal m ≠ Text.decimal n := fun h =>
    Text.not_mem_decimal (c := '-') rfl (h ▸ List.mem_cons_self)
  rw [chars, chars] at h
  split at h <;> split at h
  · have := Text.decimal_inj (List.cons.inj h).2
    omega
  · exact absurd h hsign
  · exact absurd h.symm hsign
  · have := Text.decimal_inj h
    omega

private theorem int_chars_ne_real_chars (i : Int) (d : Decimal) : (int i).chars ≠ (real d).chars := by
  intro h
  have hint : ∀ c : Char, c.isDigit = false → c ≠ '-' → c ∉ (int i).chars := by
    intro c hc hne hmem
    rw [chars] at hmem
    split at hmem
    · exact Text.not_mem_decimal hc ((List.mem_cons.mp hmem).resolve_left hne)
    · exact Text.not_mem_decimal hc hmem
  have hunsigned : ∀ c ∈ Decimal.unsigned layout d, c ∈ (real d).chars := by
    intro c hc
    rw [chars, Decimal.chars_eq]
    split
    · exact List.mem_cons_of_mem _ hc
    · exact hc
  rcases Decimal.unsigned_cases layout d with ⟨_, _, _, htext, -⟩ | ⟨_, htext, -⟩
  · refine hint '.' rfl (by decide) (h ▸ hunsigned '.' ?_)
    rw [htext]
    exact List.mem_append_right _ List.mem_cons_self
  · refine hint 'e' rfl (by decide) (h ▸ hunsigned 'e' ?_)
    rw [htext]
    exact List.mem_append_right _ List.mem_cons_self

/-- Different numbers are written differently. -/
theorem chars_injective : Function.Injective chars := by
  intro m n h
  cases m with
  | int i =>
    cases n with
    | int j => rw [int_chars_inj h]
    | real e => exact absurd h (int_chars_ne_real_chars i e)
  | real d =>
    cases n with
    | int j => exact absurd h.symm (int_chars_ne_real_chars j d)
    | real e => rw [Decimal.chars_inj h]

end Number
end GraphLoad
