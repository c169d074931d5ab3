/-! The pieces of a text between separators. -/

namespace GraphLoad.Text

/-- The pieces between the separators, of which there is one more than separators. -/
def split (isSep : Char → Bool) : List Char → List (List Char)
  | [] => [[]]
  | c :: r =>
    if isSep c then [] :: split isSep r
    else match split isSep r with
      | [] => [[c]]
      | piece :: pieces => (c :: piece) :: pieces

/-- The pieces between the separators, where one separator may end the text. -/
def splitClosed (isSep : Char → Bool) (s : List Char) : List (List Char) :=
  let pieces := split isSep s
  if pieces.getLast? = some [] then pieces.dropLast else pieces

theorem length_split (isSep : Char → Bool) (s : List Char) :
    (split isSep s).length = s.countP isSep + 1 := by
  induction s with
  | nil => rfl
  | cons c r ih =>
    by_cases hc : isSep c
    · simp [split, hc, ih]
    · simp only [split, hc, Bool.false_eq_true, if_false, not_false_eq_true,
        List.countP_cons_of_neg]
      cases h : split isSep r with
      | nil => simp [h] at ih
      | cons piece pieces => simpa [h] using ih

/-- No piece has a separator in it. -/
theorem not_isSep_of_mem_split {isSep : Char → Bool} {s piece : List Char} {c : Char}
    (hp : piece ∈ split isSep s) (hc : c ∈ piece) : isSep c = false := by
  induction s generalizing piece with
  | nil =>
    obtain rfl : piece = [] := by simpa [split] using hp
    simp at hc
  | cons d r ih =>
    by_cases hd : isSep d
    · simp only [split, hd, if_true, List.mem_cons] at hp
      rcases hp with rfl | hp
      · simp at hc
      · exact ih hp hc
    · simp only [split, hd, Bool.false_eq_true, if_false] at hp
      cases h : split isSep r with
      | nil =>
        rw [h] at hp
        obtain rfl : piece = [d] := by simpa using hp
        obtain rfl : c = d := by simpa using hc
        simpa using hd
      | cons first rest =>
        rw [h] at hp ih
        rcases List.mem_cons.mp hp with rfl | hp
        · rcases List.mem_cons.mp hc with rfl | hc
          · simpa using hd
          · exact ih List.mem_cons_self hc
        · exact ih (List.mem_cons_of_mem _ hp) hc

/-- A text is cut where the first character stands that fails the test. -/
theorem takeWhile_dropWhile_append {p : Char → Bool} {front : List Char} (hfront : ∀ c ∈ front, p c)
    (rest : List Char) (hrest : ∀ c ∈ rest.head?, p c = false) :
    (front ++ rest).takeWhile p = front ∧ (front ++ rest).dropWhile p = rest := by
  rw [List.takeWhile_append_of_pos hfront, List.dropWhile_append_of_pos hfront]
  cases rest with
  | nil => exact ⟨List.append_nil front, rfl⟩
  | cons c r =>
    have hc : ¬p c := Bool.eq_false_iff.mp (hrest c rfl)
    rw [List.takeWhile_cons_of_neg hc, List.dropWhile_cons_of_neg hc, List.append_nil]
    exact ⟨rfl, rfl⟩

end GraphLoad.Text
