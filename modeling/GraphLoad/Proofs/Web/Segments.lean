import GraphLoad.Web.Url

/-!
# The segments of a path

A path is cut at its separators, and dot segments are resolved. What is no dot segment stays
(`resolve_append_of_not_isDots`), and the last segment is the last piece or empty
(`exists_resolve_concat`).
-/

namespace GraphLoad

namespace Text

variable {isSep : Char → Bool} {c : Char} {s piece : List Char}

theorem split_ne_nil (isSep : Char → Bool) (s : List Char) : split isSep s ≠ [] := by
  rw [← List.length_pos_iff, length_split]
  omega

theorem split_cons_of_isSep (hc : isSep c) (s : List Char) :
    split isSep (c :: s) = [] :: split isSep s := by
  rw [split, if_pos hc]

theorem split_cons_of_not_isSep (hc : isSep c = false) (s : List Char) :
    ∃ first rest, split isSep s = first :: rest ∧ split isSep (c :: s) = (c :: first) :: rest := by
  obtain ⟨first, rest, hs⟩ := List.exists_cons_of_ne_nil (split_ne_nil isSep s)
  exact ⟨first, rest, hs, by rw [split, hc, hs]; rfl⟩

theorem split_append_cons (hc : isSep c) (s t : List Char) :
    split isSep (s ++ c :: t) = split isSep s ++ split isSep t := by
  induction s with
  | nil => exact split_cons_of_isSep hc t
  | cons d s ih =>
    cases hd : isSep d with
    | true =>
      rw [List.cons_append, split_cons_of_isSep hd, split_cons_of_isSep hd, ih, List.cons_append]
    | false =>
      obtain ⟨first, rest, hs, hcons⟩ := split_cons_of_not_isSep hd s
      obtain ⟨first', rest', hs', hcons'⟩ := split_cons_of_not_isSep hd (s ++ c :: t)
      rw [ih, hs, List.cons_append] at hs'
      obtain ⟨rfl, rfl⟩ := List.cons.inj hs'
      rw [List.cons_append, hcons', hcons, List.cons_append]

theorem split_of_forall (h : ∀ c ∈ s, isSep c = false) : split isSep s = [s] := by
  induction s with
  | nil => rfl
  | cons c r ih =>
    have hr := ih fun d hd => h d (List.mem_cons_of_mem c hd)
    rw [split, h c List.mem_cons_self, hr]
    rfl

/-- A piece has its characters from the text, in their order. -/
theorem sublist_of_mem_split (h : piece ∈ split isSep s) : piece.Sublist s := by
  induction s generalizing piece with
  | nil =>
    obtain rfl := List.mem_singleton.mp h
    exact .refl []
  | cons c r ih =>
    cases hc : isSep c with
    | true =>
      rw [split_cons_of_isSep hc] at h
      rcases List.mem_cons.mp h with rfl | h
      · exact List.nil_sublist _
      · exact (ih h).cons c
    | false =>
      obtain ⟨first, rest, hr, hcons⟩ := split_cons_of_not_isSep hc r
      rw [hcons] at h
      rcases List.mem_cons.mp h with rfl | h
      · exact (ih (hr ▸ List.mem_cons_self)).cons_cons c
      · exact (ih (hr ▸ List.mem_cons_of_mem first h)).cons c

end Text

namespace Url

variable {piece : List Char} {pieces : List (List Char)}

/-- The segment is resolved: one dot or two. -/
def IsDots (s : List Char) : Prop :=
  dots s = some 1 ∨ dots s = some 2

instance (s : List Char) : Decidable (IsDots s) :=
  inferInstanceAs (Decidable (_ ∨ _))

theorem place_of_not_isDots (h : ¬IsDots piece) (before : List (List Char)) (isLast : Bool) :
    place before piece isLast = piece :: before := by
  rw [place]
  split
  · rename_i hone
    exact absurd (.inl hone) h
  · rename_i htwo
    exact absurd (.inr htwo) h
  · rfl

theorem resolve_append_of_not_isDots (h : ∀ p ∈ pieces, ¬IsDots p) (before rest : List (List Char)) :
    resolve before (pieces ++ rest) = resolve (pieces.reverse ++ before) rest := by
  induction pieces generalizing before with
  | nil => rfl
  | cons p ps ih =>
    rw [List.cons_append, resolve, place_of_not_isDots (h p List.mem_cons_self),
      ih fun q hq => h q (List.mem_cons_of_mem p hq), List.reverse_cons, List.append_assoc]
    rfl

theorem exists_place_of_isDots (h : IsDots piece) (before : List (List Char)) :
    ∃ front, place before piece true = [] :: front := by
  rcases h with h | h
  · exact ⟨before, by rw [place, h]; rfl⟩
  · exact ⟨before.tail, by rw [place, h]; rfl⟩

/-- The last segment is the last piece, or empty if that is a dot segment. -/
theorem exists_resolve_concat (before pieces : List (List Char)) (piece : List Char) :
    ∃ front last, resolve before (pieces ++ [piece]) = front ++ [last] ∧
      (last = piece ∧ ¬IsDots piece ∨ last = [] ∧ IsDots piece) := by
  induction pieces generalizing before with
  | nil =>
    by_cases h : IsDots piece
    · obtain ⟨front, hplace⟩ := exists_place_of_isDots h before
      refine ⟨front.reverse, [], ?_, .inr ⟨rfl, h⟩⟩
      show resolve (place before piece true) [] = _
      rw [hplace, resolve, List.reverse_cons]
    · refine ⟨before.reverse, piece, ?_, .inl ⟨rfl, h⟩⟩
      rw [List.nil_append, resolve, place_of_not_isDots h, resolve, List.reverse_cons]
  | cons p ps ih => exact ih (place before p (ps ++ [piece]).isEmpty)

end Url
end GraphLoad
