import GraphLoad.Proofs.Web.Path
import GraphLoad.Proofs.Worker.Delivery

/-!
# Where updates are sent

The id of a job is put behind the path of the gateway as it is. What comes of it is the place of that job
exactly if the id can stand there as one segment (`requests_update_isPlaceOf_iff`).
-/

namespace GraphLoad

namespace Url

variable {s : List Char}

theorem dropWhile_blank_eq_self (h : ∀ c ∈ s, 0x20 < c.toNat) :
    s.dropWhile (·.toNat ≤ 0x20) = s := by
  cases s with
  | nil => rfl
  | cons c r => exact List.dropWhile_cons_of_neg (by simpa using h c List.mem_cons_self)

theorem cleanFront_eq_self (h : ∀ c ∈ s, 0x20 < c.toNat) : cleanFront s = s := by
  rw [cleanFront, dropWhile_blank_eq_self h, List.filter_eq_self]
  intro c hc
  have hblank := h c hc
  by_contra hline
  have hsign : c = '\t' ∨ c = '\n' ∨ c = '\r' := by
    simpa [or_assoc, or_iff_not_imp_left] using hline
  rcases hsign with rfl | rfl | rfl <;> contradiction

theorem clean_eq_self (h : ∀ c ∈ s, 0x20 < c.toNat) : clean s = s := by
  have hback := dropWhile_blank_eq_self fun c (hc : c ∈ s.reverse) => h c (List.mem_reverse.mp hc)
  have hfront := cleanFront_eq_self h
  rw [cleanFront, dropWhile_blank_eq_self h] at hfront
  simp only [clean]
  rw [dropWhile_blank_eq_self h, hback, List.reverse_reverse, hfront]

end Url

namespace Gateway

/-- The address of a gateway: a scheme, a host, a path of plain segments, and any number of slashes. -/
structure Base where
  scheme : String
  host : String
  path : List String
  slashes : Nat
  scheme_http : scheme.toList.map Char.toLower ∈ ["http".toList, "https".toList]
  host_ne : host ≠ ""
  host_plain : ∀ c ∈ host.toList, 0x20 < c.toNat ∧ Url.endsAuthority .special c = false
  host_read : (Url.ofText (scheme ++ "://" ++ host)).isOk
  path_plain : ∀ segment ∈ path, Url.IsPlain segment.toList
  path_last : path.getLast? ≠ some ""

/-- The address without the slashes at its end. -/
def Base.front (base : Base) : List Char :=
  (base.scheme ++ "://" ++ base.host).toList ++ base.path.flatMap fun segment => '/' :: segment.toList

/-- The address as it is written. -/
def Base.text (base : Base) : String :=
  String.ofList (base.front ++ List.replicate base.slashes '/')

/-- The address is that of the place of the job: the path of the gateway leads to it, the way to the
uploads, and one segment that reads as the id of the job. -/
def Base.IsPlaceOf (base : Base) (job : String) (url : Url) : Prop :=
  ∃ site segment, Url.ofText (base.scheme ++ "://" ++ base.host) = .ok site ∧
    url = { site with segments := base.path ++ ["api", "v1", "uploads", segment], query := none } ∧
    Percent.decodeText? segment.toList = some job

/-- One place is not that of two jobs. -/
theorem Base.IsPlaceOf.unique {base : Base} {job other : String} {url : Url}
    (h : base.IsPlaceOf job url) (hother : base.IsPlaceOf other url) : job = other := by
  obtain ⟨site, segment, hsite, rfl, hjob⟩ := h
  obtain ⟨site', segment', hsite', hurl, hother⟩ := hother
  have hsegments := List.append_cancel_left (Url.mk.inj hurl).2.2.2.1
  obtain rfl : segment = segment' := by simpa using hsegments
  exact Option.some.inj (hjob.symm.trans hother)

/-! ## The address of the gateway -/

variable (base : Base)

private theorem isAlpha_of_toLower {c : Char} (h : c.toLower.isLower) : c.isAlpha := by
  show (c.isUpper || c.isLower) = true
  cases hupper : c.isUpper with
  | true => rfl
  | false =>
    have hlower : c.toLower = c := by
      refine dif_neg fun hrange => ?_
      have hupper' : c.isUpper = true := decide_eq_true hrange
      rw [hupper] at hupper'
      cases hupper'
    rw [← hlower]
    exact h

theorem Base.isAlpha {c : Char} (hc : c ∈ base.scheme.toList) : c.isAlpha := by
  have hlower : (base.scheme.toList.map Char.toLower).all Char.isLower := by
    have hhttp := base.scheme_http
    simp only [List.mem_cons, List.not_mem_nil, or_false] at hhttp
    rcases hhttp with h | h <;> rw [h] <;> decide
  exact isAlpha_of_toLower (List.all_eq_true.mp hlower c.toLower (List.mem_map_of_mem hc))

theorem Base.kind_eq :
    Url.Kind.ofScheme (String.ofList (base.scheme.toList.map Char.toLower)) = .special := by
  have hhttp := base.scheme_http
  simp only [List.mem_cons, List.not_mem_nil, or_false] at hhttp
  rcases hhttp with h | h <;> rw [h] <;> decide

theorem Base.scheme?_eq (rest : List Char) :
    Url.scheme? (base.scheme.toList ++ ':' :: rest) =
      some (String.ofList (base.scheme.toList.map Char.toLower), rest) := by
  have hscheme : ∀ c ∈ base.scheme.toList, Url.isInScheme c := fun c hc => by
    simp [Url.isInScheme, Char.isAlphanum, base.isAlpha hc]
  obtain ⟨htake, hdrop⟩ := Text.takeWhile_dropWhile_append hscheme (':' :: rest)
    fun c hc => by obtain rfl := Option.some.inj hc; decide
  obtain ⟨c, r, hcons⟩ : ∃ c r, base.scheme.toList = c :: r := by
    refine List.exists_cons_of_ne_nil fun hnil => ?_
    have hhttp := base.scheme_http
    rw [hnil] at hhttp
    revert hhttp
    decide
  have hc : c.isAlpha := base.isAlpha (by rw [hcons]; exact List.mem_cons_self)
  rw [Url.scheme?, htake, hdrop, hcons]
  exact if_pos hc

/-- What stands behind the host is read from there on. -/
theorem Base.ofText_eq {text : String} {rest : List Char}
    (h : Url.clean text.toList = (base.scheme ++ "://" ++ base.host).toList ++ rest) :
    Url.ofText text = Url.withHost .special (String.ofList (base.scheme.toList.map Char.toLower))
      (base.host.toList ++ rest) := by
  have hclean : Url.clean text.toList =
      base.scheme.toList ++ ':' :: ('/' :: '/' :: (base.host.toList ++ rest)) := by
    simp [h]
  have hslashes : ('/' :: '/' :: (base.host.toList ++ rest)).dropWhile (Url.isSeparator .special) =
      base.host.toList ++ rest := by
    obtain ⟨c, r, hhost⟩ := List.exists_cons_of_ne_nil (String.toList_eq_nil_iff.not.mpr base.host_ne)
    have hends := (base.host_plain c (by rw [hhost]; exact List.mem_cons_self)).2
    have hc : Url.isSeparator .special c = false := (Bool.or_eq_false_iff.mp hends).1
    rw [hhost, List.dropWhile_cons_of_pos rfl, List.dropWhile_cons_of_pos rfl, List.cons_append,
      List.dropWhile_cons_of_neg (Bool.eq_false_iff.mp hc)]
  rw [Url.ofText, hclean, base.scheme?_eq]
  show Url.behindScheme _ _ _ = _
  rw [base.kind_eq, Url.behindScheme, hslashes]

theorem Base.mem_front {c : Char} (hc : c ∈ base.front) : 0x20 < c.toNat := by
  simp only [Base.front, String.toList_append, List.mem_append, List.mem_flatMap, List.mem_cons] at hc
  obtain ((hc | hc) | hc) | ⟨segment, hsegment, rfl | hc⟩ := hc
  · have hle : ∀ n ≤ 0x20, (Char.ofNat n).isAlpha = false := by decide
    by_contra hnot
    have := hle c.toNat (by omega)
    rw [Char.ofNat_toNat, base.isAlpha hc] at this
    cases this
  · obtain rfl | rfl : c = ':' ∨ c = '/' := by simpa using hc
    all_goals decide
  · exact (base.host_plain c hc).1
  · decide
  · have := ((base.path_plain segment hsegment).chars c hc).1
    simp only [Url.isPlainInPath, Bool.and_eq_true, decide_eq_true_eq] at this
    exact this.1.1

theorem Base.getLast?_front : ∀ c ∈ base.front.getLast?, c ≠ '/' := by
  have hends (c : Char) : Url.endsAuthority .special c = false → c ≠ '/' := by
    rintro h rfl
    cases h
  rcases List.eq_nil_or_concat base.path with hpath | ⟨path, segment, hpath⟩
  · have hne : base.host.toList ≠ [] := String.toList_eq_nil_iff.not.mpr base.host_ne
    intro c hc
    have hmem : c ∈ base.host.toList := by
      rw [Base.front, hpath, List.flatMap_nil, List.append_nil, String.toList_append,
        List.getLast?_append_of_ne_nil _ hne] at hc
      exact List.mem_of_getLast? hc
    exact hends c (base.host_plain c hmem).2
  · rw [List.concat_eq_append] at hpath
    have hne : segment.toList ≠ [] := by
      rw [Ne, String.toList_eq_nil_iff]
      rintro rfl
      exact base.path_last (by rw [hpath, List.getLast?_concat])
    intro c hc
    have hmem : c ∈ segment.toList := by
      rw [Base.front, hpath, List.flatMap_append, List.flatMap_singleton, ← List.append_assoc,
        List.getLast?_append_of_ne_nil _ (List.cons_ne_nil _ _), ← List.singleton_append,
        List.getLast?_append_of_ne_nil _ hne] at hc
      exact List.mem_of_getLast? hc
    have hsegment := base.path_plain segment (hpath ▸ List.mem_append_right _ List.mem_cons_self)
    exact ((Url.isSeparator_special c).mp (hsegment.chars c hmem).2).1

theorem Base.trimSlashes_text : trimSlashes base.text = String.ofList base.front := by
  refine isFront_iff.mp ⟨?_, base.slashes, ?_⟩
  · rw [String.toList_ofList]
    exact fun hlast => base.getLast?_front '/' hlast rfl
  · rw [Base.text, String.toList_ofList, String.toList_ofList]

/-- The segments in front of the id of a job. -/
def Base.segments : List (List Char) :=
  (base.path ++ ["api", "v1", "uploads"]).map String.toList

theorem Base.clean_address (job : String) :
    Url.clean (address base.text job).toList = (base.scheme ++ "://" ++ base.host).toList ++
      Url.written base.segments (Url.cleanBack job.toList) := by
  rw [Gateway.clean_address, base.trimSlashes_text, String.toList_ofList,
    Url.cleanFront_eq_self fun _ => base.mem_front, Base.front, Base.segments, Url.written]
  simp [List.flatMap_map]

theorem Base.isPlain_of_mem {segment : List Char} (h : segment ∈ base.segments) : Url.IsPlain segment := by
  obtain ⟨text, htext, rfl⟩ := List.mem_map.mp h
  rcases List.mem_append.mp htext with hpath | hway
  · exact base.path_plain text hpath
  · have hplain : ∀ text ∈ ["api", "v1", "uploads"], Url.IsPlain text.toList := by decide
    exact hplain text hway

/-- Whatever the id of the job, its update is one request to the host of the gateway. -/
theorem Base.exists_ofText_address (job : String) :
    ∃ site url, Url.ofText (base.scheme ++ "://" ++ base.host) = .ok site ∧
      Url.ofText (address base.text job) = .ok url ∧ url = { site with
        segments := Url.segmentsOf .special
          ((Url.written base.segments (Url.cleanBack job.toList)).takeWhile (!Url.endsPath ·))
        query := Url.queryOf .special (Url.written base.segments (Url.cleanBack job.toList)) } := by
  obtain ⟨site, hsite⟩ : ∃ site, Url.ofText (base.scheme ++ "://" ++ base.host) = .ok site := by
    have hread := base.host_read
    cases h : Url.ofText (base.scheme ++ "://" ++ base.host) with
    | error p => rw [h] at hread; cases hread
    | ok site => exact ⟨site, rfl⟩
  refine ⟨site, _, hsite, ?_, rfl⟩
  have halone : Url.clean (base.scheme ++ "://" ++ base.host).toList =
      (base.scheme ++ "://" ++ base.host).toList ++ [] := by
    rw [List.append_nil]
    exact Url.clean_eq_self fun c hc => base.mem_front (List.mem_append_left _ hc)
  rw [base.ofText_eq halone, List.append_nil] at hsite
  rw [base.ofText_eq (base.clean_address job)]
  refine Url.withHost_append (fun c hc => (base.host_plain c hc).2) (fun c hc => ?_) hsite
  obtain ⟨path, hwritten, -⟩ := Url.exists_written (fun _ => base.isPlain_of_mem) (Url.cleanBack job.toList)
  rw [hwritten] at hc
  obtain rfl := Option.some.inj hc
  rfl

theorem Base.map_sent : base.segments.map Url.sent = base.path ++ ["api", "v1", "uploads"] := by
  have hsent (text : String) (h : Url.IsPlain text.toList) : Url.sent text.toList = text := by
    rw [Url.sent, Percent.encode_of_plain fun c hc => (h.chars c hc).1, String.ofList_toList]
  have hsegments := List.map_congr_left (f := Url.sent ∘ String.toList) (g := id)
    (l := base.path ++ ["api", "v1", "uploads"]) fun text htext =>
      hsent text (base.isPlain_of_mem (List.mem_map_of_mem htext))
  rw [Base.segments, List.map_map, hsegments, List.map_id]

/-! ## The place of a job -/

theorem request_of_ofText {base job : String} {url : Url} (h : Url.ofText (address base job) = .ok url)
    (u : StatusUpdate) : request base job u = .ok ⟨"PATCH", url, "application/json", u.toJson⟩ := by
  rw [request, h]
  rfl

/-- The place of a job is where its update is sent exactly if its id can stand there as one segment. -/
theorem Base.isPlaceOf_iff {job : String} {url : Url} (h : Url.ofText (address base.text job) = .ok url) :
    base.IsPlaceOf job url ↔ Url.IsSegment job.toList := by
  obtain ⟨site, url', hsite, hurl, rfl⟩ := base.exists_ofText_address job
  obtain rfl := Except.ok.inj (h.symm.trans hurl)
  rw [← Url.isSegment_iff (fun _ => base.isPlain_of_mem) job, base.map_sent]
  constructor
  · rintro ⟨site', segment, hsite', hplace, hjob⟩
    obtain rfl := Except.ok.inj (hsite.symm.trans hsite')
    obtain ⟨-, -, -, hsegments, hquery⟩ := Url.mk.inj hplace
    exact ⟨segment, by rw [hsegments, List.append_assoc]; rfl, hquery, hjob⟩
  · rintro ⟨segment, hsegments, hquery, hjob⟩
    refine ⟨site, segment, hsite, ?_, hjob⟩
    rw [hsegments, hquery, List.append_assoc]
    rfl

theorem isOk_ofText_local : (Url.ofText ("http" ++ "://" ++ "[::1]:8080")).isOk := by
  decide +kernel

/-- A gateway on this machine. -/
def Base.sample : Base where
  scheme := "http"
  host := "[::1]:8080"
  path := ["gw"]
  slashes := 2
  scheme_http := by decide
  host_ne := by decide
  host_plain := by simp [Url.endsAuthority, Url.isSeparator, Url.endsPath]
  host_read := isOk_ofText_local
  path_plain := by decide
  path_last := by decide

variable {σ : Type}

/-- An update is one request to the host of the gateway, whatever the id of its job. It addresses the place
of that job, and of no other one, exactly if the id can stand in an address as one segment. -/
theorem requests_update_isPlaceOf_iff (line : Line σ) (job : String) (u : StatusUpdate) (l : σ) :
    ∃ r site, requests ((update line base.text job u).run l).events = [r] ∧ r.body = u.toJson ∧
      Url.ofText (base.scheme ++ "://" ++ base.host) = .ok site ∧
      r.url = { site with segments := r.url.segments, query := r.url.query } ∧
      (base.IsPlaceOf job r.url ↔ Url.IsSegment job.toList) ∧
      (Url.IsSegment job.toList → ∀ other, base.IsPlaceOf other r.url → other = job) := by
  obtain ⟨site, url, hsite, hurl, hsame⟩ := base.exists_ofText_address job
  have hsent := requests_update_of_ok line (request_of_ofText hurl u) l
  have hplace := base.isPlaceOf_iff hurl
  refine ⟨⟨"PATCH", url, "application/json", u.toJson⟩, site, hsent, rfl, hsite, ?_, hplace, ?_⟩
  · rw [hsame]
  · exact fun hjob other hother => hother.unique (hplace.mpr hjob)

theorem requests_update_isPlaceOf_odd :
    Url.IsSegment "1 é%".toList ∧ ∃ r, requests ((update ⟨fun _ s => (.ok ⟨200, ""⟩, s)⟩ Base.sample.text
      "1 é%" (.processing 0)).run ()).events = [r] ∧ Base.sample.IsPlaceOf "1 é%" r.url := by
  have hjob : Url.IsSegment "1 é%".toList := by decide
  obtain ⟨r, -, hrequests, -, -, -, hplace, -⟩ := requests_update_isPlaceOf_iff Base.sample
    ⟨fun _ s => (.ok ⟨200, ""⟩, s)⟩ "1 é%" (.processing 0) ()
  exact ⟨hjob, r, hrequests, hplace.mpr hjob⟩

/-- An id with a slash is sent as two segments, dots lead out of the uploads, and what stands behind the
sign of a fragment is lost. -/
theorem request_elsewhere :
    (∃ r, request Base.sample.text "a/b" (.processing 0) = .ok r ∧
      r.url.segments = ["gw", "api", "v1", "uploads", "a", "b"] ∧ ¬Base.sample.IsPlaceOf "a/b" r.url) ∧
    (∃ r, request Base.sample.text ".." (.processing 0) = .ok r ∧
      r.url.segments = ["gw", "api", "v1", ""] ∧ ¬Base.sample.IsPlaceOf ".." r.url) ∧
    ∃ r, request Base.sample.text "x#y" (.processing 0) = .ok r ∧
      request Base.sample.text "x" (.processing 0) = .ok r := by
  let url (segments : List String) : Url :=
    ⟨"http", some (.ipv6 [0, 0, 0, 0, 0, 0, 0, 1]), some 8080, segments, none⟩
  have hslash : Url.ofText (address Base.sample.text "a/b") =
      .ok (url ["gw", "api", "v1", "uploads", "a", "b"]) := by
    decide +kernel
  have hdots : Url.ofText (address Base.sample.text "..") = .ok (url ["gw", "api", "v1", ""]) := by
    decide +kernel
  have hsign : Url.ofText (address Base.sample.text "x#y") =
      .ok (url ["gw", "api", "v1", "uploads", "x"]) := by
    decide +kernel
  have halone : Url.ofText (address Base.sample.text "x") =
      .ok (url ["gw", "api", "v1", "uploads", "x"]) := by
    decide +kernel
  refine ⟨⟨_, request_of_ofText hslash _, rfl, ?_⟩, ⟨_, request_of_ofText hdots _, rfl, ?_⟩,
    ⟨_, request_of_ofText hsign _, request_of_ofText halone _⟩⟩
  · rw [Base.sample.isPlaceOf_iff hslash]
    decide
  · rw [Base.sample.isPlaceOf_iff hdots]
    decide

end Gateway
end GraphLoad
