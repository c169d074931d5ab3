import GraphLoad.Proofs.Web.Address
import GraphLoad.Proofs.Web.Percent
import GraphLoad.Proofs.Web.Segments

/-!
# Paths behind a host

What stands behind a host is read as path and query whatever the host is (`withHost_append`). A text behind
a path of plain segments is sent as one more segment that reads back as it exactly if it is a segment in the
sense of `IsSegment` (`isSegment_iff`).
-/

namespace GraphLoad

namespace Url

/-! ## Behind a host -/

section

variable {name : String} {host rest : List Char}

theorem isSome_of_readHost {s : List Char} {found : Option Host} (h : readHost .special s = .ok found) :
    found.isSome := by
  rw [readHost] at h
  split at h
  · cases h
  · cases hhost : Host.ofText s with
    | error p => simp [hhost, Except.mapError, Except.map] at h
    | ok host =>
      obtain rfl : some host = found := by simpa [hhost, Except.mapError, Except.map] using h
      rfl

theorem mem_of_mem_splitNumber {inside : Bool} {s number : List Char} {c : Char}
    (h : (splitNumber inside s).2 = some number) (hc : c ∈ number) : c ∈ s := by
  induction s generalizing inside with
  | nil => cases h
  | cons d r ih =>
    rw [splitNumber] at h
    split at h
    · obtain rfl := Option.some.inj h
      exact List.mem_cons_of_mem d hc
    · exact List.mem_cons_of_mem d (ih h)

theorem mem_of_mem_splitUser {s : List Char} {c : Char} (h : c ∈ (splitUser s).2) : c ∈ s := by
  rw [splitUser] at h
  split at h
  · exact List.mem_reverse.mp ((List.takeWhile_sublist _).mem (List.mem_reverse.mp h))
  · exact h

/-- What stands behind a host is read as path and query, whatever the host. -/
theorem withHost_append {site : Url} (hhost : ∀ c ∈ host, endsAuthority .special c = false)
    (hrest : ∀ c ∈ rest.head?, endsAuthority .special c) (h : withHost .special name host = .ok site) :
    withHost .special name (host ++ rest) = .ok { site with
      segments := segmentsOf .special (rest.takeWhile (!endsPath ·))
      query := queryOf .special rest } := by
  have hplain : ∀ c ∈ host, (!endsAuthority .special c) = true := fun c hc => by rw [hhost c hc]; rfl
  have hall := Text.takeWhile_dropWhile_append hplain rest fun c hc => by rw [hrest c hc]; rfl
  have halone := Text.takeWhile_dropWhile_append hplain [] nofun
  rw [List.append_nil] at halone
  generalize hnumberText : (splitNumber false (splitUser host).2).2.getD [] = numberText at *
  have hbackslash : numberText.dropWhile (· != '\\') = [] := by
    rw [List.dropWhile_eq_nil_iff]
    intro c hc
    have hmem : c ∈ host := by
      cases hnumber : (splitNumber false (splitUser host).2).2 with
      | none =>
        rw [hnumber] at hnumberText
        subst hnumberText
        cases hc
      | some number =>
        rw [hnumber] at hnumberText
        subst hnumberText
        exact mem_of_mem_splitUser (mem_of_mem_splitNumber hnumber hc)
    rw [bne_iff_ne]
    rintro rfl
    cases hhost _ hmem
  simp only [withHost, hall, halone, hnumberText] at h ⊢
  cases hread : readHost .special (splitNumber false (splitUser host).2).1 with
  | error p =>
    rw [hread] at h
    cases h
  | ok found =>
    have hnone : found.isNone = false := by
      rw [← Option.not_isSome, isSome_of_readHost hread]
      rfl
    simp only [hread, bind, Except.bind, hnone, Bool.false_and, Bool.false_eq_true, if_false] at h ⊢
    cases hnumber : readNumber (numberText.takeWhile (· != '\\')) with
    | error p =>
      rw [hnumber] at h
      cases h
    | ok number =>
      rw [hnumber] at h
      obtain rfl := Except.ok.inj h
      rw [hbackslash]
      rfl

end

/-! ## Paths -/

/-- A path: the segments, each behind a slash, and what stands behind one more. -/
def written (front : List (List Char)) (s : List Char) : List Char :=
  front.flatMap ('/' :: ·) ++ '/' :: s

/-- A segment that is read as it stands. -/
structure IsPlain (segment : List Char) : Prop where
  chars : ∀ c ∈ segment, isPlainInPath c ∧ isSeparator .special c = false
  not_isDots : ¬IsDots segment

instance (segment : List Char) : Decidable (IsPlain segment) :=
  decidable_of_iff ((segment.all fun c => isPlainInPath c && !isSeparator .special c) ∧ ¬IsDots segment)
    ⟨fun ⟨hchars, hdots⟩ => ⟨by simpa using hchars, hdots⟩, fun h => ⟨by simpa using h.chars, h.not_isDots⟩⟩

variable {front : List (List Char)}

theorem exists_written (hfront : ∀ p ∈ front, IsPlain p) (s : List Char) :
    ∃ path, written front s = '/' :: path ∧
      Text.split (isSeparator .special) path = front ++ Text.split (isSeparator .special) s := by
  induction front with
  | nil => exact ⟨s, rfl, rfl⟩
  | cons p front ih =>
    obtain ⟨path, hwritten, hsplit⟩ := ih fun q hq => hfront q (List.mem_cons_of_mem p hq)
    refine ⟨p ++ '/' :: path, ?_, ?_⟩
    · rw [← hwritten]
      simp only [written, List.flatMap_cons, List.cons_append, List.append_assoc]
    · have hp := (hfront p List.mem_cons_self).chars
      rw [Text.split_append_cons rfl, Text.split_of_forall fun c hc => (hp c hc).2, hsplit]
      rfl

/-- A segment as it is sent. -/
def sent (segment : List Char) : String :=
  String.ofList (Percent.encode isPlainInPath segment)

theorem segmentsOf_written (hfront : ∀ p ∈ front, IsPlain p) (s : List Char) :
    segmentsOf .special (written front s) =
      (resolve front.reverse (Text.split (isSeparator .special) s)).map sent := by
  obtain ⟨path, hwritten, hsplit⟩ := exists_written hfront s
  have hpieces : pieces .special ('/' :: path) = Text.split (isSeparator .special) path := rfl
  rw [segmentsOf, if_neg (by simp), hwritten, hpieces, hsplit,
    resolve_append_of_not_isDots fun p hp => (hfront p hp).not_isDots, List.append_nil]
  rfl

theorem endsPath_of_mem (hfront : ∀ p ∈ front, IsPlain p) :
    ∀ c ∈ front.flatMap ('/' :: ·) ++ ['/'], (!endsPath c) = true := by
  intro c hc
  have hplain : c = '/' ∨ isPlainInPath c := by
    rcases List.mem_append.mp hc with hc | hc
    · obtain ⟨p, hp, hc⟩ := List.mem_flatMap.mp hc
      exact (List.mem_cons.mp hc).imp_right fun hc => ((hfront p hp).chars c hc).1
    · exact .inl (List.mem_singleton.mp hc)
  rw [Bool.not_eq_true']
  by_contra hends
  have hsign : c = '?' ∨ c = '#' := by simpa [endsPath, or_iff_not_imp_left] using hends
  rcases hsign with rfl | rfl <;> rcases hplain with hplain | hplain <;> cases hplain

theorem takeWhile_written (hfront : ∀ p ∈ front, IsPlain p) (s : List Char) :
    (written front s).takeWhile (!endsPath ·) = written front (s.takeWhile (!endsPath ·)) := by
  rw [written, ← List.singleton_append, ← List.append_assoc,
    List.takeWhile_append_of_pos (endsPath_of_mem hfront), List.append_assoc]
  rfl

theorem queryOf_written (hfront : ∀ p ∈ front, IsPlain p) (s : List Char) :
    queryOf .special (written front s) = queryOf .special s := by
  rw [queryOf, queryOf, written, ← List.singleton_append, ← List.append_assoc,
    List.dropWhile_append_of_pos (endsPath_of_mem hfront)]

/-! ## One more segment -/

/-- The text can stand in an address as one segment that is read back as it: nothing in it is cut off,
left out, resolved, or taken for an encoded byte. -/
structure IsSegment (s : List Char) : Prop where
  chars : ∀ c ∈ s, c ∉ ['/', '\\', '?', '#', '\t', '\n', '\r']
  last : ∀ c ∈ s.getLast?, 0x20 < c.toNat
  not_isDots : ¬IsDots s
  not_escapes : ¬Percent.Escapes s

instance (s : List Char) : Decidable (IsSegment s) :=
  decidable_of_iff ((s.all fun c => !(['/', '\\', '?', '#', '\t', '\n', '\r'].contains c)) ∧
      (s.getLast?.all fun c => 0x20 < c.toNat) ∧ ¬IsDots s ∧ ¬Percent.Escapes s)
    ⟨fun ⟨hchars, hlast, hdots, hescapes⟩ =>
      ⟨by simpa using hchars, by simpa [Option.all_eq_true] using hlast, hdots, hescapes⟩,
    fun h => ⟨by simpa using h.chars, by simpa [Option.all_eq_true] using h.last, h.not_isDots,
      h.not_escapes⟩⟩

theorem dropBack_sublist (s : List Char) :
    (s.reverse.dropWhile (·.toNat ≤ 0x20)).reverse.Sublist s := by
  have h := (List.dropWhile_sublist (·.toNat ≤ 0x20) (l := s.reverse)).reverse
  rwa [List.reverse_reverse] at h

theorem cleanBack_sublist (s : List Char) : (cleanBack s).Sublist s :=
  List.filter_sublist.trans (dropBack_sublist s)

theorem cleanBack_eq_self_iff {s : List Char} :
    cleanBack s = s ↔
      (∀ c ∈ s, c ∉ ['\t', '\n', '\r']) ∧ ∀ c ∈ s.getLast?, 0x20 < c.toNat := by
  have hlast : (s.reverse.dropWhile (·.toNat ≤ 0x20)).reverse = s ↔ ∀ c ∈ s.getLast?, 0x20 < c.toNat := by
    rw [List.reverse_eq_iff, List.getLast?_eq_head?_reverse]
    cases s.reverse with
    | nil => simp
    | cons c r => simp [List.dropWhile_eq_self_iff]
  have hchars (c : Char) : (!(c == '\t' || c == '\n' || c == '\r')) = true ↔ c ∉ ['\t', '\n', '\r'] := by
    simp [and_assoc]
  constructor
  · intro h
    have hback : (s.reverse.dropWhile (·.toNat ≤ 0x20)).reverse = s :=
      (dropBack_sublist s).eq_of_length_le
        ((congrArg List.length h).symm.le.trans (List.length_filter_le ..))
    rw [cleanBack, hback, List.filter_eq_self] at h
    exact ⟨fun c hc => (hchars c).mp (h c hc), hlast.mp hback⟩
  · rintro ⟨hall, hend⟩
    rw [cleanBack, hlast.mpr hend, List.filter_eq_self]
    exact fun c hc => (hchars c).mpr (hall c hc)

private theorem lt_of_isHex {c : Char} (h : Percent.isHex c) : c.toNat < 128 := by
  have hlast : c ≤ '9' ∨ c ≤ 'f' ∨ c ≤ 'F' := by
    by_contra hnot
    simp only [not_or] at hnot
    have hdigit : c.isDigit = false := by
      rw [Char.isDigit, Bool.and_eq_false_iff]
      exact .inr (decide_eq_false hnot.1)
    simp [Percent.isHex, Text.hexValue?, hdigit, hnot] at h
  rcases hlast with hc | hc | hc <;> exact Nat.lt_of_le_of_lt hc (by decide)

private theorem isPlainInPath_of_isHex {c : Char} (h : Percent.isHex c) : isPlainInPath c := by
  have htable : ∀ n < 128, Percent.isHex (Char.ofNat n) → isPlainInPath (Char.ofNat n) := by
    decide
  have hc := htable c.toNat (lt_of_isHex h)
  rw [Char.ofNat_toNat] at hc
  exact hc h

theorem decode_sent (s : List Char) : Percent.decode (sent s).toList = Percent.decode s := by
  rw [sent, String.toList_ofList]
  exact Percent.decode_encode rfl (fun _ => isPlainInPath_of_isHex) s

variable {s : List Char}

theorem isSeparator_special (c : Char) : isSeparator .special c = false ↔ c ≠ '/' ∧ c ≠ '\\' := by
  simp [isSeparator]

theorem IsSegment.cleanBack_eq (h : IsSegment s) : cleanBack s = s := by
  refine cleanBack_eq_self_iff.mpr ⟨fun c hc => ?_, h.last⟩
  have hchars := h.chars c hc
  simp only [List.mem_cons, not_or] at hchars
  simp [hchars]

theorem IsSegment.not_endsPath (h : IsSegment s) : ∀ c ∈ s, (!endsPath c) = true := by
  intro c hc
  have hchars := h.chars c hc
  simp only [List.mem_cons, not_or] at hchars
  simp [endsPath, hchars]

theorem IsSegment.resolve_split (h : IsSegment s) (before : List (List Char)) :
    resolve before (Text.split (isSeparator .special) ((cleanBack s).takeWhile (!endsPath ·))) =
      before.reverse ++ [s] := by
  have hseparator (c : Char) (hc : c ∈ s) : isSeparator .special c = false := by
    have hchars := h.chars c hc
    simp only [List.mem_cons, not_or] at hchars
    exact (isSeparator_special c).mpr ⟨hchars.1, hchars.2.1⟩
  rw [h.cleanBack_eq, List.takeWhile_eq_self_iff.mpr h.not_endsPath, Text.split_of_forall hseparator,
    resolve, place_of_not_isDots h.not_isDots, resolve, List.reverse_cons]

theorem IsSegment.queryOf_eq (h : IsSegment s) : queryOf .special (cleanBack s) = none := by
  rw [queryOf, h.cleanBack_eq, List.dropWhile_eq_nil_iff.mpr h.not_endsPath]

theorem IsSegment.of_resolve_split {before front : List (List Char)} {segment : List Char}
    (h : resolve before (Text.split (isSeparator .special) ((cleanBack s).takeWhile (!endsPath ·))) =
      front ++ [segment]) (hdecode : Percent.decode segment = Percent.bytes s) : IsSegment s := by
  obtain ⟨pieces, piece, hsplit⟩ := (List.eq_nil_or_concat _).resolve_left
    (Text.split_ne_nil (isSeparator .special) ((cleanBack s).takeWhile (!endsPath ·)))
  obtain ⟨front', last, hresolve, hlast⟩ := exists_resolve_concat before pieces piece
  rw [List.concat_eq_append] at hsplit
  rw [hsplit, hresolve] at h
  obtain ⟨-, hsegment⟩ := List.append_inj' h rfl
  obtain rfl := (List.cons.inj hsegment).1
  have hmem : piece ∈ Text.split (isSeparator .special) ((cleanBack s).takeWhile (!endsPath ·)) :=
    hsplit ▸ List.mem_append_right pieces List.mem_cons_self
  -- what is sent as the last segment is a part of the text, and all of it since it reads back as it
  have hpart : last.Sublist piece := by
    rcases hlast with ⟨rfl, -⟩ | ⟨rfl, -⟩
    · exact .refl last
    · exact List.nil_sublist piece
  have hpiece := Text.sublist_of_mem_split hmem
  have hcut := List.takeWhile_sublist (!endsPath ·) (l := cleanBack s)
  have hback := cleanBack_sublist s
  obtain ⟨rfl, hescapes⟩ :=
    Percent.eq_of_sublist_of_decode (hpart.trans (hpiece.trans (hcut.trans hback))) hdecode
  have hclean := hback.eq_of_length_le (hpart.trans (hpiece.trans hcut)).length_le
  rw [hclean] at hmem hpiece hcut
  have hends := hcut.eq_of_length_le (hpart.trans hpiece).length_le
  rw [hends] at hmem hpiece
  obtain rfl := hpart.eq_of_length_le hpiece.length_le
  obtain ⟨hlines, hend⟩ := cleanBack_eq_self_iff.mp hclean
  refine ⟨fun c hc => ?_, hend, ?_, hescapes⟩
  · have hseparator := (isSeparator_special c).mp (Text.not_isSep_of_mem_split hmem hc)
    have hsign := List.takeWhile_eq_self_iff.mp hends c hc
    have hline := hlines c hc
    simp_all [endsPath]
  · rcases hlast with ⟨-, hdots⟩ | ⟨rfl, -⟩
    · exact hdots
    · rintro (h | h) <;> cases h

/-- Behind plain segments the text is sent as one segment that reads back as it, and without a query,
only if it is such a segment. -/
theorem isSegment_iff (hfront : ∀ p ∈ front, IsPlain p) (text : String) :
    (∃ segment, segmentsOf .special ((written front (cleanBack text.toList)).takeWhile (!endsPath ·)) =
          front.map sent ++ [segment] ∧
        queryOf .special (written front (cleanBack text.toList)) = none ∧
        Percent.decodeText? segment.toList = some text) ↔
      IsSegment text.toList := by
  rw [takeWhile_written hfront, queryOf_written hfront, segmentsOf_written hfront]
  constructor
  · rintro ⟨segment, hsegments, -, hdecode⟩
    obtain ⟨before, after, hresolve, -, hafter⟩ := List.map_eq_append_iff.mp hsegments
    obtain ⟨piece, rfl, rfl⟩ := List.map_eq_singleton_iff.mp hafter
    rw [Percent.decodeText?_eq_some_iff, decode_sent] at hdecode
    exact .of_resolve_split hresolve hdecode
  · intro h
    refine ⟨sent text.toList, ?_, h.queryOf_eq, ?_⟩
    · rw [h.resolve_split, List.reverse_reverse, List.map_append]
      rfl
    · rw [Percent.decodeText?_eq_some_iff, decode_sent, Percent.decode_of_not_escapes h.not_escapes]

example : IsSegment "a b%é".toList ∧ ¬IsSegment "a/b".toList ∧ ¬IsSegment "%2E.".toList ∧
    ¬IsSegment "%41".toList := by
  decide

end Url
end GraphLoad
