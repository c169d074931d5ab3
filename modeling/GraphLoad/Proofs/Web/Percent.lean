import GraphLoad.Web.Percent

/-!
# Percent encoding read back

Reading back an encoded text gives the bytes that the text itself stands for (`decode_encode`). They
are the bytes of its UTF-8 form if nothing in it reads as an encoded byte (`decode_of_not_escapes`),
and fewer otherwise.
-/

namespace GraphLoad.Percent

/-- Whether the character is a hexadecimal digit. -/
def isHex (c : Char) : Bool :=
  (Text.hexValue? c).isSome

/-- The bytes of a text in UTF-8. -/
def bytes (s : List Char) : List UInt8 :=
  s.flatMap String.utf8EncodeChar

/-- The text begins with two hexadecimal digits. -/
def StartsHex (s : List Char) : Prop :=
  ∃ a b r, s = a :: b :: r ∧ isHex a ∧ isHex b

/-- Something in the text reads as an encoded byte. -/
def Escapes (s : List Char) : Prop :=
  ∃ before after, s = before ++ '%' :: after ∧ StartsHex after

instance (s : List Char) : Decidable (StartsHex s) :=
  match s with
  | [] | [_] => .isFalse (by rintro ⟨a, b, r, h, -⟩; cases h)
  | a :: b :: r => decidable_of_iff (isHex a ∧ isHex b)
    ⟨fun h => ⟨a, b, r, rfl, h⟩, fun ⟨_, _, _, heq, h⟩ => by cases heq; exact h⟩

theorem escapes_cons_iff {c : Char} {s : List Char} :
    Escapes (c :: s) ↔ c = '%' ∧ StartsHex s ∨ Escapes s := by
  constructor
  · rintro ⟨_ | ⟨d, before⟩, after, heq, hafter⟩ <;> obtain ⟨rfl, rfl⟩ := List.cons.inj heq
    · exact .inl ⟨rfl, hafter⟩
    · exact .inr ⟨before, after, rfl, hafter⟩
  · rintro (⟨rfl, h⟩ | ⟨before, after, rfl, hafter⟩)
    · exact ⟨[], s, rfl, h⟩
    · exact ⟨c :: before, after, rfl, hafter⟩

instance decidableEscapes : (s : List Char) → Decidable (Escapes s)
  | [] => .isFalse (by rintro ⟨before, after, h, -⟩; cases before <;> cases h)
  | _ :: s =>
    have := decidableEscapes s
    decidable_of_iff' _ escapes_cons_iff

theorem bytes_cons (c : Char) (s : List Char) : bytes (c :: s) = String.utf8EncodeChar c ++ bytes s :=
  List.flatMap_cons

theorem length_bytes_cons (c : Char) (s : List Char) :
    (bytes (c :: s)).length = c.utf8Size + (bytes s).length := by
  rw [bytes_cons, List.length_append, String.length_utf8EncodeChar]

theorem length_bytes_le_of_sublist {s t : List Char} (h : s.Sublist t) :
    (bytes s).length ≤ (bytes t).length := by
  induction h with
  | slnil => exact Nat.le_refl 0
  | cons c _ ih => rw [length_bytes_cons]; omega
  | cons_cons c _ ih => rw [length_bytes_cons, length_bytes_cons]; omega

theorem eq_of_sublist_of_length_bytes {s t : List Char} (h : s.Sublist t)
    (hlength : (bytes t).length ≤ (bytes s).length) : s = t := by
  induction h with
  | slnil => rfl
  | @cons s t c hs ih =>
    have hle := length_bytes_le_of_sublist hs
    have hc := c.utf8Size_pos
    rw [length_bytes_cons] at hlength
    omega
  | cons_cons c _ ih =>
    rw [length_bytes_cons, length_bytes_cons] at hlength
    rw [ih (by omega)]

/-! ## Reading one character -/

theorem decode_cons {c : Char} {s : List Char} (h : c = '%' → ¬StartsHex s) :
    decode (c :: s) = String.utf8EncodeChar c ++ decode s := by
  rw [decode.eq_def]
  split
  · rename_i a b r heq
    obtain ⟨rfl, rfl⟩ := List.cons.inj heq
    split
    · rename_i high low hhigh hlow
      exact absurd ⟨a, b, r, rfl, by rw [isHex, hhigh]; rfl, by rw [isHex, hlow]; rfl⟩ (h rfl)
    · rfl
  · rename_i heq
    obtain ⟨rfl, rfl⟩ := List.cons.inj heq
    rfl
  · rename_i heq
    cases heq

theorem decode_escape {a b : Char} {high low : Nat} (ha : Text.hexValue? a = some high)
    (hb : Text.hexValue? b = some low) (s : List Char) :
    decode ('%' :: a :: b :: s) = UInt8.ofNat (16 * high + low) :: decode s := by
  rw [decode, ha, hb]

private theorem hexValue?_digit : ∀ n < 16, Text.hexValue? n.digitChar.toUpper = some n := by
  decide

private theorem encodeByte_ofNat : ∀ n < 256, encodeByte (UInt8.ofNat n) =
    ['%', (n / 16).digitChar.toUpper, (n % 16).digitChar.toUpper] := by
  decide +kernel

theorem encodeByte_eq (b : UInt8) : encodeByte b =
    ['%', (b.toNat / 16).digitChar.toUpper, (b.toNat % 16).digitChar.toUpper] := by
  rw [← encodeByte_ofNat _ b.toNat_lt_size, UInt8.ofNat_toNat]

theorem decode_encodeByte (b : UInt8) (s : List Char) : decode (encodeByte b ++ s) = b :: decode s := by
  have hb : b.toNat < 256 := b.toNat_lt_size
  have hhigh := hexValue?_digit (b.toNat / 16) (by omega)
  have hlow := hexValue?_digit (b.toNat % 16) (by omega)
  rw [encodeByte_eq, List.cons_append, List.cons_append, List.cons_append, List.nil_append,
    decode_escape hhigh hlow, Nat.div_add_mod, UInt8.ofNat_toNat]

theorem decode_encodeBytes (bs : List UInt8) (s : List Char) :
    decode (bs.flatMap encodeByte ++ s) = bs ++ decode s := by
  induction bs with
  | nil => rfl
  | cons b bs ih => rw [List.flatMap_cons, List.append_assoc, decode_encodeByte, ih, List.cons_append]

/-! ## Reading a whole text -/

theorem decode_of_not_escapes {s : List Char} (h : ¬Escapes s) : decode s = bytes s := by
  induction s with
  | nil => rfl
  | cons c r ih =>
    rw [escapes_cons_iff, not_or] at h
    obtain ⟨hstart, hr⟩ := h
    rw [decode_cons fun hc hstarts => hstart ⟨hc, hstarts⟩, bytes_cons, ih hr]

/-- An encoded byte stands for less than what it is written with. -/
theorem length_decode_escape {s : List Char} (h : StartsHex s) :
    ∃ t, (decode ('%' :: s)).length = (decode t).length + 1 ∧
      (bytes t).length + 2 ≤ (bytes s).length := by
  obtain ⟨a, b, t, rfl, ha, hb⟩ := h
  obtain ⟨high, hhigh⟩ := Option.isSome_iff_exists.mp ha
  obtain ⟨low, hlow⟩ := Option.isSome_iff_exists.mp hb
  refine ⟨t, by rw [decode_escape hhigh hlow, List.length_cons], ?_⟩
  have := a.utf8Size_pos
  have := b.utf8Size_pos
  rw [length_bytes_cons, length_bytes_cons]
  omega

theorem length_decode_le (s : List Char) : (decode s).length ≤ (bytes s).length := by
  induction hn : (bytes s).length using Nat.strongRecOn generalizing s with
  | ind n ih =>
    subst hn
    obtain _ | ⟨c, r⟩ := s
    · exact Nat.le_refl 0
    have hc := c.utf8Size_pos
    rw [length_bytes_cons] at ih ⊢
    by_cases hstart : c = '%' ∧ StartsHex r
    · obtain ⟨rfl, hr⟩ := hstart
      obtain ⟨t, hdecode, hlength⟩ := length_decode_escape hr
      have ht := ih (bytes t).length (by omega) t rfl
      omega
    · have hr := ih (bytes r).length (by omega) r rfl
      rw [decode_cons fun hc hr => hstart ⟨hc, hr⟩, List.length_append, String.length_utf8EncodeChar]
      omega

theorem length_decode_lt {s : List Char} (h : Escapes s) : (decode s).length < (bytes s).length := by
  obtain ⟨before, after, rfl, hafter⟩ := h
  have hstart {c : Char} {r : List Char} (hc : c = '%') (hr : StartsHex r) :
      (decode (c :: r)).length < (bytes (c :: r)).length := by
    subst hc
    obtain ⟨t, hdecode, hlength⟩ := length_decode_escape hr
    have ht := length_decode_le t
    rw [length_bytes_cons]
    omega
  induction before with
  | nil => exact hstart rfl hafter
  | cons c before ih =>
    rw [List.cons_append]
    by_cases hc : c = '%' ∧ StartsHex (before ++ '%' :: after)
    · exact hstart hc.1 hc.2
    · rw [decode_cons fun h hr => hc ⟨h, hr⟩, length_bytes_cons, List.length_append,
        String.length_utf8EncodeChar]
      omega

/-- A part of a text stands for as many bytes as the text has only if it is all of it, and nothing in
it reads as an encoded byte. -/
theorem eq_of_sublist_of_decode {s t : List Char} (h : s.Sublist t) (hdecode : decode s = bytes t) :
    s = t ∧ ¬Escapes t := by
  have hlength : (bytes t).length ≤ (bytes s).length := hdecode ▸ length_decode_le s
  obtain rfl := eq_of_sublist_of_length_bytes h hlength
  refine ⟨rfl, fun hescapes => ?_⟩
  have := length_decode_lt hescapes
  rw [hdecode] at this
  exact Nat.lt_irrefl _ this

/-! ## Encoded texts -/

section

variable {isPlain : Char → Bool}

theorem encode_cons_of_isPlain {c : Char} (hc : isPlain c) (s : List Char) :
    encode isPlain (c :: s) = c :: encode isPlain s := by
  rw [encode, List.flatMap_cons, if_pos hc]
  rfl

theorem encode_cons_of_not_isPlain {c : Char} (hc : isPlain c = false) (s : List Char) :
    encode isPlain (c :: s) = (String.utf8EncodeChar c).flatMap encodeByte ++ encode isPlain s := by
  rw [encode, List.flatMap_cons, hc]
  rfl

/-- A digit in front of an encoded text was there before. -/
theorem eq_cons_of_encode {s t : List Char} {d : Char} (h : encode isPlain s = d :: t)
    (hd : isHex d) : ∃ r, s = d :: r ∧ encode isPlain r = t := by
  cases s with
  | nil => cases h
  | cons c r =>
    cases hc : isPlain c with
    | true =>
      rw [encode_cons_of_isPlain hc] at h
      obtain ⟨rfl, rfl⟩ := List.cons.inj h
      exact ⟨r, rfl, rfl⟩
    | false =>
      obtain ⟨b, bs, hbytes⟩ := List.exists_cons_of_ne_nil (String.utf8EncodeChar_ne_nil (c := c))
      rw [encode_cons_of_not_isPlain hc, hbytes, List.flatMap_cons, encodeByte_eq] at h
      obtain ⟨rfl, -⟩ := List.cons.inj h
      exact absurd hd (by decide)

theorem StartsHex.of_encode {s : List Char} (h : StartsHex (encode isPlain s)) : StartsHex s := by
  obtain ⟨a, b, t, hencode, ha, hb⟩ := h
  obtain ⟨r, rfl, hr⟩ := eq_cons_of_encode hencode ha
  obtain ⟨r, rfl, -⟩ := eq_cons_of_encode hr hb
  exact ⟨a, b, r, rfl, ha, hb⟩

/-- An encoded text stands for the same as the text, if what is written in encoded bytes is plain. -/
theorem decode_encode (hpercent : isPlain '%') (hhex : ∀ c, isHex c → isPlain c) (s : List Char) :
    decode (encode isPlain s) = decode s := by
  -- not by induction on the text itself, since an encoded byte is read at once
  induction hn : s.length using Nat.strongRecOn generalizing s with
  | ind n ih =>
    subst hn
    obtain _ | ⟨c, r⟩ := s
    · rfl
    have hr := ih r.length (by simp) r rfl
    cases hc : isPlain c with
    | false =>
      have hne : c ≠ '%' := by
        rintro rfl
        rw [hpercent] at hc
        cases hc
      rw [encode_cons_of_not_isPlain hc, decode_encodeBytes, decode_cons fun h => absurd h hne, hr]
    | true =>
      rw [encode_cons_of_isPlain hc]
      by_cases hstart : c = '%' ∧ StartsHex r
      · obtain ⟨rfl, a, b, t, rfl, ha, hb⟩ := hstart
        have ht := ih t.length (by simp only [List.length_cons]; omega) t rfl
        obtain ⟨high, hhigh⟩ := Option.isSome_iff_exists.mp ha
        obtain ⟨low, hlow⟩ := Option.isSome_iff_exists.mp hb
        rw [encode_cons_of_isPlain (hhex a ha), encode_cons_of_isPlain (hhex b hb),
          decode_escape hhigh hlow, decode_escape hhigh hlow, ht]
      · rw [decode_cons fun h hstart' => hstart ⟨h, hstart'.of_encode⟩,
          decode_cons fun h hstart' => hstart ⟨h, hstart'⟩, hr]

end

theorem decodeText?_eq_some_iff {s : List Char} {text : String} :
    decodeText? s = some text ↔ decode s = bytes text.toList := by
  have hbytes : (⟨(decode s).toArray⟩ : ByteArray) = (decode s).toByteArray :=
    ByteArray.ext List.data_toByteArray.symm
  have htext : text.toByteArray = (bytes text.toList).toByteArray := String.utf8Encode_toList.symm
  rw [decodeText?, hbytes, ← List.toByteArray_inj, ← htext, String.fromUTF8?]
  split
  · rw [Option.some_inj, ← String.toByteArray_inj]
    rfl
  · rename_i hvalid
    refine ⟨nofun, fun h => absurd ?_ hvalid⟩
    rw [h]
    exact text.isValidUTF8

end GraphLoad.Percent
