import GraphLoad.Worker.Gateway
import Mathlib.Data.List.TakeWhile

/-!
# Where the status of jobs is kept

Whether the address of a job's status can be read does not depend on the job (`isOk_ofText_address`): its
id stands behind a slash that ends the host, so that an odd id can change nothing but the path and the
query.
-/

namespace GraphLoad

namespace Url

/-! ## Texts with something that ends their front -/

variable {p : Char → Bool} {c : Char} {front : List Char}

theorem mem_dropWhile (hc : c ∈ front) (hp : p c = false) : c ∈ front.dropWhile p := by
  rw [← List.takeWhile_append_dropWhile (p := p) (l := front), List.mem_append] at hc
  refine hc.resolve_left fun hmem => ?_
  rw [List.mem_takeWhile_imp hmem] at hp
  cases hp

theorem dropWhile_append_of_mem (hc : c ∈ front) (hp : p c = false) (rest : List Char) :
    (front ++ rest).dropWhile p = front.dropWhile p ++ rest := by
  rw [List.dropWhile_append, if_neg]
  rw [List.isEmpty_iff]
  exact List.ne_nil_of_mem (mem_dropWhile hc hp)

theorem dropWhile_append_cons (hc : p c = false) (s rest : List Char) :
    (s ++ c :: rest).dropWhile p = s.dropWhile p ++ c :: rest := by
  rw [List.dropWhile_append, List.dropWhile_cons_of_neg (Bool.eq_false_iff.mp hc)]
  split
  · rename_i hempty
    rw [List.isEmpty_iff.mp hempty, List.nil_append]
  · rfl

theorem takeWhile_append_of_mem (hc : c ∈ front) (hp : p c = false) (rest : List Char) :
    (front ++ rest).takeWhile p = front.takeWhile p := by
  refine (List.append_left_inj ((front ++ rest).dropWhile p)).mp ?_
  rw [List.takeWhile_append_dropWhile, dropWhile_append_of_mem hc hp, ← List.append_assoc,
    List.takeWhile_append_dropWhile]

/-! ## Reading -/

theorem endsAuthority_slash (kind : Kind) : (!endsAuthority kind '/') = false := by
  cases kind <;> rfl

theorem scheme?_append (h : '/' ∈ front) (rest : List Char) :
    scheme? (front ++ rest) = (scheme? front).map fun (name, r) => (name, r ++ rest) := by
  have hslash : isInScheme '/' = false := by decide
  rw [scheme?, scheme?, takeWhile_append_of_mem h hslash, dropWhile_append_of_mem h hslash]
  cases hdrop : front.dropWhile isInScheme with
  | nil =>
    have hmem := mem_dropWhile h hslash
    rw [hdrop] at hmem
    cases hmem
  | cons a r =>
    by_cases ha : a = ':'
    · subst ha
      show (if _ then _ else _) = Option.map _ (if _ then _ else _)
      split <;> rfl
    · simp [ha]

variable (kind : Kind) (scheme : String)

theorem dropWhile_authority_append (h : '/' ∈ front) (rest : List Char) :
    (front ++ rest).dropWhile (!endsAuthority kind ·) =
      front.dropWhile (!endsAuthority kind ·) ++ rest :=
  dropWhile_append_of_mem h (p := (!endsAuthority kind ·)) (endsAuthority_slash kind) rest

theorem takeWhile_authority_append (h : '/' ∈ front) (rest : List Char) :
    (front ++ rest).takeWhile (!endsAuthority kind ·) = front.takeWhile (!endsAuthority kind ·) :=
  takeWhile_append_of_mem h (p := (!endsAuthority kind ·)) (endsAuthority_slash kind) rest

theorem isOk_withHost_append (h : '/' ∈ front) (rest : List Char) :
    (withHost kind scheme (front ++ rest)).isOk = (withHost kind scheme front).isOk := by
  have hleft : front.dropWhile (!endsAuthority kind ·) ≠ [] :=
    List.ne_nil_of_mem (mem_dropWhile h (p := (!endsAuthority kind ·)) (endsAuthority_slash kind))
  simp only [withHost, takeWhile_authority_append kind h, dropWhile_authority_append kind h,
    List.isEmpty_eq_false_iff.mpr hleft,
    List.isEmpty_eq_false_iff.mpr (List.append_ne_nil_of_left_ne_nil hleft rest)]
  cases readHost kind _ with
  | error p => rfl
  | ok host =>
    simp only [Except.bind, bind]
    generalize (host.isNone && _) = lacksHost
    cases lacksHost with
    | true => rfl
    | false => cases readNumber _ <;> rfl

theorem isOk_ofFile_append (h : '/' ∈ front) (rest : List Char) :
    (ofFile scheme (front ++ rest)).isOk = (ofFile scheme front).isOk := by
  simp only [ofFile, takeWhile_authority_append .file h]
  split
  · rfl
  · cases readHost .file _ <;> rfl

theorem behindScheme_other {s : List Char} (h : ∀ r, s ≠ '/' :: '/' :: r) :
    behindScheme .other scheme s = .ok (withoutHost .other scheme s) := by
  unfold behindScheme
  split
  case h_3 r _ => exact absurd rfl (h r)
  all_goals trivial

variable {a : Char} {path : List Char}

/-- If a slash follows behind the place where a host may stand, then what follows the slash has no part in
whether the text is an address. -/
theorem isOk_behindScheme_append (ha : ∀ kind, isSeparator kind a = false) (hpath : '/' ∈ path)
    (s rest : List Char) :
    (behindScheme kind scheme (s ++ a :: path ++ rest)).isOk =
      (behindScheme kind scheme (s ++ a :: path)).isOk := by
  have hmem (s : List Char) : '/' ∈ s ++ a :: path :=
    List.mem_append_right s (List.mem_cons_of_mem a hpath)
  cases kind with
  | special =>
    rw [behindScheme, behindScheme, List.append_assoc, List.cons_append,
      dropWhile_append_cons (ha .special), dropWhile_append_cons (ha .special), ← List.cons_append,
      ← List.append_assoc]
    exact isOk_withHost_append _ _ (hmem _) rest
  | file =>
    obtain _ | ⟨b, _ | ⟨c, s⟩⟩ := s
    · obtain _ | ⟨c, path⟩ := path
      · cases hpath
      · simp only [List.nil_append, List.cons_append, behindScheme, ha, Bool.false_and]
        rfl
    · simp only [List.nil_append, List.cons_append, behindScheme, ha, Bool.and_false]
      rfl
    · simp only [List.cons_append, behindScheme]
      split
      · exact isOk_ofFile_append _ (hmem s) rest
      · rfl
  | other =>
    by_cases hslashes : ∃ r, s = '/' :: '/' :: r
    · obtain ⟨r, rfl⟩ := hslashes
      exact isOk_withHost_append _ _ (hmem r) rest
    · have hne (path : List Char) : ∀ r, s ++ a :: path ≠ '/' :: '/' :: r := by
        have ha := ha .other
        obtain _ | ⟨b, _ | ⟨c, s⟩⟩ := s <;> rintro r heq <;> simp_all [isSeparator]
      rw [List.append_assoc, List.cons_append, behindScheme_other _ (hne _),
        behindScheme_other _ (hne path)]
      rfl

/-- The text without its line ends, and without the blanks before it. -/
def cleanFront (s : List Char) : List Char :=
  (s.dropWhile (·.toNat ≤ 0x20)).filter fun c => !(c == '\t' || c == '\n' || c == '\r')

/-- The text without its line ends, and without the blanks after it. -/
def cleanBack (s : List Char) : List Char :=
  (s.reverse.dropWhile (·.toNat ≤ 0x20)).reverse.filter fun c => !(c == '\t' || c == '\n' || c == '\r')

theorem clean_append (hfront : '/' ∈ front) (s : List Char) :
    clean (front ++ '/' :: s) = cleanFront front ++ '/' :: cleanBack s := by
  have hslash : decide ('/'.toNat ≤ 0x20) = false := by decide
  have hdrop := dropWhile_append_of_mem (p := fun c => c.toNat ≤ 0x20) hfront hslash ('/' :: s)
  have hback := dropWhile_append_cons (p := fun c => c.toNat ≤ 0x20) hslash s.reverse
    (front.dropWhile (·.toNat ≤ 0x20)).reverse
  simp only [clean, hdrop, List.reverse_append, List.reverse_cons, List.append_assoc,
    List.singleton_append, hback, List.reverse_reverse, List.filter_append, cleanFront, cleanBack]
  rfl

end Url

namespace Gateway

/-- The text of an address, cleaned: what does not depend on the job has a slash both before and behind
the place where a host may stand. -/
theorem clean_address (base job : String) :
    Url.clean (address base job).toList =
      (Url.cleanFront (trimSlashes base).toList ++ ['/']) ++
        ('a' :: "pi/v1/uploads/".toList ++ Url.cleanBack job.toList) := by
  have hfront : Url.cleanFront ((trimSlashes base).toList ++ "/api/v1/uploads".toList) =
      Url.cleanFront (trimSlashes base).toList ++ "/api/v1/uploads".toList := by
    show Url.cleanFront (_ ++ '/' :: "api/v1/uploads".toList) = _
    rw [Url.cleanFront, Url.dropWhile_append_cons (p := fun c => c.toNat ≤ 0x20) (by decide),
      List.filter_append]
    rfl
  have hmem : '/' ∈ (trimSlashes base).toList ++ "/api/v1/uploads".toList :=
    List.mem_append_right _ (by decide)
  have htext : (address base job).toList =
      (trimSlashes base).toList ++ "/api/v1/uploads".toList ++ '/' :: job.toList := by
    simp [address]
  rw [htext, Url.clean_append hmem, hfront, List.append_assoc, List.append_assoc]
  rfl

/-- Whether the address of a job's status can be read is decided by the address of the gateway alone. -/
theorem isOk_ofText_address (base job : String) :
    (Url.ofText (address base job)).isOk = (Url.ofText (address base "")).isOk := by
  have hslash : '/' ∈ Url.cleanFront (trimSlashes base).toList ++ ['/'] :=
    List.mem_append_right _ (List.mem_singleton_self _)
  have hseparator (kind : Url.Kind) : Url.isSeparator kind 'a' = false := by
    cases kind <;> rfl
  have hpath : '/' ∈ "pi/v1/uploads/".toList := by decide
  rw [Url.ofText, Url.ofText, clean_address, clean_address, Url.scheme?_append hslash,
    Url.scheme?_append hslash]
  cases Url.scheme? (Url.cleanFront (trimSlashes base).toList ++ ['/']) with
  | none => rfl
  | some found =>
    obtain ⟨scheme, s⟩ := found
    have h (job : List Char) := Url.isOk_behindScheme_append (Url.Kind.ofScheme scheme) scheme
      hseparator hpath s (Url.cleanBack job)
    simp only [Option.map_some, ← List.append_assoc, h]

end Gateway
end GraphLoad
