import GraphLoad.Proofs.Cypher.Lexeme
import GraphLoad.Proofs.Server.Transactions
import GraphLoad.Server.Reset

/-!
# Emptying a database

What a reset asks of a server and what the server answers is a `Resetting`: the constraints are listed,
they are dropped in order, and nodes are deleted in passes, up to the first fault. The answers determine
what the reset comes to (`holds_reset`). So it is enough to know how a server answers: a reset ends unless
ever more nodes are deleted, and a server that does what it is asked is emptied by it (`reset_empties`).
-/

namespace GraphLoad.Server

open Cypher (Lexeme lexemes plain)

variable {σ : Type} {link : Link σ} {database : String} {s s' s₁ : σ} {d d' : Dialogue}
  {result : Except Failure Unit}

/-! ## What is asked and answered -/

def listing (database : String) : Request :=
  .run (some database) constraintsQuery []

def dropping (database name : String) : Request :=
  .run (some database) (dropQuery name) []

def deleting (database : String) : Request :=
  .run (some database) deleteQuery []

/-- The names of the constraints, unless they cannot be listed, a row has none or the rows break off. -/
def listed (reply : Reply) : Except Failure (List String) :=
  (reply.mapError (.context "Failed to list constraints")).bind constraintNames

def dropped (name : String) (reply : Reply) : Except Failure Unit :=
  ((reply.bind Rows.all).mapError (.context s!"Failed to drop constraint {name}")).map fun _ => ()

/-- How many nodes a pass deleted, unless it fails, at once or in place of a row, or its row has no count. -/
def deleted (reply : Reply) : Except Failure Int :=
  (reply.mapError (.context "Failed to delete nodes")).bind deletedCount

/-- Constraints are dropped in order, up to the first that cannot be. -/
inductive Drops (database : String) : List String → Dialogue → Except Failure Unit → Prop
  | nil : Drops database [] [] (.ok ())
  | stop {name : String} {rest : List String} {reply : Reply} {f : Failure} :
    dropped name reply = .error f →
    Drops database (name :: rest) [(dropping database name, reply)] (.error f)
  | next {name : String} {rest : List String} {reply : Reply} {d : Dialogue}
      {result : Except Failure Unit} : dropped name reply = .ok () → Drops database rest d result →
    Drops database (name :: rest) ((dropping database name, reply) :: d) result

/-- Nodes are deleted in passes, up to the first that deletes none or fails. -/
inductive Passes (database : String) : Dialogue → Except Failure Unit → Prop
  | stop {reply : Reply} {f : Failure} : deleted reply = .error f →
    Passes database [(deleting database, reply)] (.error f)
  | last {reply : Reply} {n : Int} : deleted reply = .ok n → n ≤ 0 →
    Passes database [(deleting database, reply)] (.ok ())
  | next {reply : Reply} {n : Int} {d : Dialogue} {result : Except Failure Unit} : deleted reply = .ok n →
    0 < n → Passes database d result → Passes database ((deleting database, reply) :: d) result

/-- The dialogue of a reset with a server, and what is told of it: the constraints cannot be listed, or one
of them cannot be dropped, or the nodes are deleted. -/
inductive Resetting (database : String) : Dialogue → Except Failure Unit → Prop
  | unlisted {reply : Reply} {f : Failure} : listed reply = .error f →
    Resetting database [(listing database, reply)] (.error f)
  | undropped {reply : Reply} {names : List String} {d : Dialogue} {f : Failure} : listed reply = .ok names →
    Drops database names d (.error f) → Resetting database ((listing database, reply) :: d) (.error f)
  | cleared {reply : Reply} {names : List String} {d d' : Dialogue} {result : Except Failure Unit} :
    listed reply = .ok names → Drops database names d (.ok ()) → Passes database d' result →
    Resetting database ((listing database, reply) :: (d ++ d')) result

/-! ## The answers determine a reset -/

theorem holds_fetch_of {request : Request} {reply : Reply} (h : (link.answer request s).1 = reply)
    (trying : String) : Holds link (fetch link request trying) s (reply.mapError (.context trying))
      [(request, reply)] (link.answer request s).2 :=
  h ▸ holds_fetch link request trying s

theorem holds_ask_of {request : Request} {reply : Reply} (h : (link.answer request s).1 = reply)
    (trying : String) : Holds link (ask link request trying) s
      ((reply.bind Rows.all).mapError (.context trying)) [(request, reply)] (link.answer request s).2 :=
  h ▸ holds_ask link request trying s

theorem holds_dropAll {names : List String} (h : Drops database names d result)
    (ha : Answered link s d s') : Holds link (dropAll link database names) s result d s' := by
  induction h generalizing s with
  | nil =>
    cases ha
    exact holds_pure _ _
  | @stop name rest reply f hfault =>
    obtain ⟨hreply, ha⟩ := answered_cons_iff.mp ha
    cases ha
    refine (holds_ask_of hreply _).bind ?_
    rw [dropped] at hfault
    cases hall : (reply.bind Rows.all).mapError (Failure.context s!"Failed to drop constraint {name}") with
    | error g =>
      rw [hall] at hfault
      obtain rfl := Except.error.inj hfault
      exact holds_pure _ _
    | ok rows =>
      rw [hall] at hfault
      cases hfault
  | @next name rest reply d result hdropped _ ih =>
    obtain ⟨hreply, hrest⟩ := answered_cons_iff.mp ha
    refine (holds_ask_of hreply _).bind ?_
    rw [dropped] at hdropped
    cases hall : (reply.bind Rows.all).mapError (Failure.context s!"Failed to drop constraint {name}") with
    | error g =>
      rw [hall] at hdropped
      cases hdropped
    | ok rows =>
      exact (holds_say [.debug s!"Dropped constraint {name}"] _).bind
        (f := fun _ => dropAll link database rest) (ih hrest)

theorem holds_deleteOnce {reply : Reply} (h : (link.answer (deleting database) s).1 = reply) :
    Holds link (deleteOnce link database) s (deleted reply) [(deleting database, reply)]
      (link.answer (deleting database) s).2 :=
  (holds_fetch_of h _).bind (holds_pure _ _)

/-- Passes that are answered to an end have an outcome, which is what they come to. -/
theorem exists_deleteFrom (h : Passes database d result) (ha : Answered link s d s') (total : UInt64) :
    ∃ o, link.deleteFrom database total s = some o ∧ o.value.map (fun _ => ()) = result ∧
      o.events.filterMap requested? = d.map Prod.fst ∧ o.state = s' := by
  induction h generalizing s total with
  | stop hfault =>
    obtain ⟨hreply, ha⟩ := answered_cons_iff.mp ha
    cases ha
    obtain ⟨hvalue, hseen, hstate⟩ := (holds_deleteOnce hreply).gives
    rw [hfault] at hvalue
    rw [Link.deleteFrom]
    simp only [hvalue]
    exact ⟨_, rfl, rfl, hseen, hstate⟩
  | last hdeleted hnone =>
    obtain ⟨hreply, ha⟩ := answered_cons_iff.mp ha
    cases ha
    obtain ⟨hvalue, hseen, hstate⟩ := (holds_deleteOnce hreply).gives
    rw [hdeleted] at hvalue
    rw [Link.deleteFrom]
    simp only [hvalue, if_neg (Int.not_lt.mpr hnone)]
    exact ⟨_, rfl, rfl, hseen, hstate⟩
  | next hdeleted hsome _ ih =>
    obtain ⟨hreply, ha⟩ := answered_cons_iff.mp ha
    obtain ⟨hvalue, hseen, hstate⟩ := (holds_deleteOnce hreply).gives
    rw [hdeleted] at hvalue
    rw [← hstate] at ha
    rw [Link.deleteFrom]
    simp only [hvalue, if_pos hsome]
    obtain ⟨o, ho, hresult, hevents, hend⟩ := ih ha _
    rw [ho]
    refine ⟨_, rfl, hresult, ?_, hend⟩
    rw [List.filterMap_append, hseen, List.filterMap_cons_none rfl, hevents]
    rfl

theorem exists_deleteAll (h : Passes database d result) (ha : Answered link s d s') :
    ∃ value, value.map (fun _ => ()) = result ∧ Holds link (deleteAll link database) s value d s' := by
  obtain ⟨o, ho, hresult, hevents, hend⟩ := exists_deleteFrom h ha 0
  have hrun : (deleteAll link database).run s = o := by
    rw [Action.run, deleteAll, ho]
    rfl
  exact ⟨o.value, hresult, ⟨by rw [hrun], by rw [hrun, hevents], by rw [hrun, hend]⟩, ha⟩

/-- Behind the listing there is a failure, or the constraints are dropped. -/
theorem holds_dropConstraints {reply : Reply} {outcome : Except Failure (List String)}
    {value : Except Failure Nat} (hlisted : listed reply = outcome)
    (hreply : (link.answer (listing database) s).1 = reply)
    (hrest : Holds link (match outcome with
      | .error f => pure (.error f)
      | .ok names => Except.map (fun _ => names.length) <$> dropAll link database names)
      (link.answer (listing database) s).2 value d s') :
    Holds link (dropConstraints link database) s value ((listing database, reply) :: d) s' := by
  subst hlisted
  exact (holds_fetch_of hreply _).bind hrest

/-- What a reset comes to is determined by what it is answered. -/
theorem holds_reset (h : Resetting database d result) (ha : Answered link s d s') :
    Holds link (reset link database) s result d s' := by
  rw [reset, ← List.nil_append d]
  refine (holds_say _ s).bind ?_
  cases h with
  | unlisted hlisted =>
    obtain ⟨hreply, hrest⟩ := answered_cons_iff.mp ha
    cases hrest
    rw [← List.append_nil [_]]
    exact (holds_dropConstraints hlisted hreply (holds_pure _ _)).bind (holds_pure _ _)
  | @undropped _ names _ _ hlisted hdrops =>
    obtain ⟨hreply, hrest⟩ := answered_cons_iff.mp ha
    have hdropped := (holds_dropAll hdrops hrest).map (Except.map fun _ => names.length)
    rw [← List.append_nil (_ :: _)]
    exact (holds_dropConstraints hlisted hreply hdropped).bind (holds_pure _ _)
  | @cleared _ names _ after _ hlisted hdrops hpasses =>
    obtain ⟨hreply, hrest⟩ := answered_cons_iff.mp ha
    obtain ⟨s₁, hbefore, hafter⟩ := exists_of_answered_append hrest
    have hdropped := (holds_dropAll hdrops hbefore).map (Except.map fun _ => names.length)
    obtain ⟨value, rfl, hdeleted⟩ := exists_deleteAll hpasses hafter
    refine Holds.bind (d := _ :: _) (holds_dropConstraints hlisted hreply hdropped) ?_
    rw [← List.append_nil after]
    refine hdeleted.bind ?_
    cases value with
    | error f => exact holds_pure _ _
    | ok nodes => exact (holds_say _ _).bind (holds_pure _ _)

/-! ## A reset ends -/

theorem exists_drops (link : Link σ) (database : String) (names : List String) (s : σ) :
    ∃ d s' result, Answered link s d s' ∧ Drops database names d result := by
  induction names generalizing s with
  | nil => exact ⟨[], s, .ok (), .nil, .nil⟩
  | cons name rest ih =>
    cases hdropped : dropped name (link.answer (dropping database name) s).1 with
    | error f => exact ⟨_, _, _, .cons .nil, .stop hdropped⟩
    | ok _ =>
      obtain ⟨d, s', result, ha, hrest⟩ := ih (link.answer (dropping database name) s).2
      exact ⟨_, s', result, .cons ha, .next hdropped hrest⟩

/-- The nodes that passes are said to delete, up to the first that deletes none or fails. -/
def deletions : Dialogue → Nat
  | [] => 0
  | (_, reply) :: d =>
    match deleted reply with
    | .ok n => if 0 < n then n.toNat + deletions d else 0
    | .error _ => 0

theorem deletions_cons {request : Request} {reply : Reply} {n : Int} (h : deleted reply = .ok n)
    (hn : 0 < n) (d : Dialogue) : deletions ((request, reply) :: d) = n.toNat + deletions d := by
  rw [deletions, h]
  exact if_pos hn

/-- Passes end if what they are said to delete has a bound. -/
theorem exists_passes (limit : Nat) (h : ∀ d s', Answered link s d s' →
    (∀ x ∈ d, x.1 = deleting database) → deletions d < limit) :
    ∃ d s' result, Answered link s d s' ∧ Passes database d result := by
  induction limit using Nat.strongRecOn generalizing s with
  | ind limit ih =>
    cases hdeleted : deleted (link.answer (deleting database) s).1 with
    | error f => exact ⟨_, _, _, .cons .nil, .stop hdeleted⟩
    | ok n =>
      by_cases hn : 0 < n
      · have hnext : ∀ d s', Answered link (link.answer (deleting database) s).2 d s' →
            (∀ x ∈ d, x.1 = deleting database) → deletions d < limit - n.toNat := by
          intro d s' ha hd
          have := h _ s' (.cons ha) (List.forall_mem_cons.mpr ⟨rfl, hd⟩)
          rw [deletions_cons hdeleted hn] at this
          omega
        have hlimit : limit - n.toNat < limit := by
          have := h [] s .nil nofun
          omega
        obtain ⟨d, s', result, ha, hpasses⟩ := ih _ hlimit hnext
        exact ⟨_, s', result, .cons ha, .next hdeleted hn hpasses⟩
      · exact ⟨_, _, _, .cons .nil, .last hdeleted (Int.not_lt.mp hn)⟩

/-- Behind the listing and the drops the server never tells that it deleted so many nodes. -/
def DeletesBelow (link : Link σ) (database : String) (s : σ) (limit : Nat) : Prop :=
  ∀ reply names d d' s', Answered link s ((listing database, reply) :: (d ++ d')) s' →
    listed reply = .ok names → Drops database names d (.ok ()) →
    (∀ x ∈ d', x.1 = deleting database) → deletions d' < limit

theorem exists_resetting {limit : Nat} (h : DeletesBelow link database s limit) :
    ∃ d s' result, Answered link s d s' ∧ Resetting database d result := by
  cases hlisted : listed (link.answer (listing database) s).1 with
  | error f => exact ⟨_, _, _, .cons .nil, .unlisted hlisted⟩
  | ok names =>
    obtain ⟨d, s₁, result, hd, hdrops⟩ :=
      exists_drops link database names (link.answer (listing database) s).2
    cases result with
    | error f => exact ⟨_, s₁, _, .cons hd, .undropped hlisted hdrops⟩
    | ok _ =>
      obtain ⟨d', s', result, hd', hpasses⟩ := exists_passes limit fun d' s' hd' hdeleting =>
        h _ names d d' s' (.cons (hd.append hd')) hlisted hdrops hdeleting
      exact ⟨_, s', result, .cons (hd.append hd'), .cleared hlisted hdrops hpasses⟩

/-! ## A server that does what it is asked -/

/-- The units of a query that drops a constraint. -/
def dropUnits (name : String) : List Lexeme :=
  plain "DROP CONSTRAINT " ++ .name name :: plain " IF EXISTS"

theorem toList_dropQuery (name : String) : (dropQuery name).toList =
    "DROP CONSTRAINT ".toList ++ ((Cypher.quote name).toList ++ " IF EXISTS".toList) := by
  show ("DROP CONSTRAINT " ++ Cypher.quote name ++ " IF EXISTS").toList = _
  rw [String.toList_append, String.toList_append, List.append_assoc]

/-- Whatever the name of a constraint, it is read back from the query that drops it. -/
theorem lexemes_dropQuery (name : String) : lexemes (dropQuery name).toList = some (dropUnits name) := by
  have hspaced : Cypher.Spaced (dropUnits name) := by
    have hend : Cypher.Spaced (plain " IF EXISTS") := by
      rw [← List.append_nil (plain _)]
      exact .plain_append (by decide) .nil
    exact .plain_append (by decide) (.name (.char (by decide)) hend)
  have hchars : (dropQuery name).toList = (dropUnits name).flatMap Lexeme.chars := by
    have hname : (Cypher.quote name).toList = (Lexeme.name name).chars := String.toList_ofList
    rw [toList_dropQuery, hname, dropUnits, List.flatMap_append, List.flatMap_cons,
      Cypher.flatMap_chars_plain, Cypher.flatMap_chars_plain]
  rw [hchars, Cypher.lexemes_flatMap_chars hspaced]

/-- The server keeps constraints and nodes and does what it is asked: it lists the constraints, drops the one
that a query names, and deletes as many of the nodes as one pass may. -/
structure Keeps (link : Link σ) (database : String) (names : σ → List String) (nodes : σ → Nat) : Prop where
  lists : ∀ s, ∃ rows s',
    link.answer (.run (some database) "SHOW CONSTRAINTS YIELD name" []) s = (.ok ⟨rows, none⟩, s') ∧
    rows.map (·.text "name") = (names s).map .ok ∧
    names s' = names s ∧ nodes s' = nodes s
  drops : ∀ s text name, lexemes text.toList = some (dropUnits name) →
    ∃ rows s', link.answer (.run (some database) text []) s = (.ok ⟨rows, none⟩, s') ∧
      names s' = (names s).filter (· ≠ name) ∧ nodes s' = nodes s
  deletes : ∀ s, ∃ row rows s',
    link.answer (.run (some database)
      "MATCH (n) WITH n LIMIT 50000 DETACH DELETE n RETURN count(n) AS deleted" []) s =
      (.ok ⟨row :: rows, none⟩, s') ∧
    row.integer "deleted" = .ok (min (nodes s) 50000 : Nat) ∧
    names s' = names s ∧ nodes s' = nodes s - min (nodes s) 50000

theorem constraintNames_eq {rows : List Row} {names : List String}
    (h : rows.map (·.text "name") = names.map .ok) : constraintNames ⟨rows, none⟩ = .ok names := by
  have hmap : (rows.mapM fun row =>
      (row.text "name").mapError (Failure.context "Constraint row without a name")) = .ok names := by
    induction names generalizing rows with
    | nil =>
      obtain rfl := List.map_eq_nil_iff.mp h
      rfl
    | cons name rest ih =>
      obtain ⟨row, rows, rfl, hrow, hrows⟩ := List.map_eq_cons_iff.mp h
      rw [List.mapM_cons, hrow, ih hrows]
      rfl
  rw [constraintNames, hmap]
  rfl

section

variable {names : σ → List String} {nodes : σ → Nat}

theorem Keeps.exists_drops (h : Keeps link database names nodes) (asked : List String) (s : σ) :
    ∃ d s', Answered link s d s' ∧ Drops database asked d (.ok ()) ∧
      d.map Prod.fst = asked.map (dropping database) ∧
      names s' = (names s).filter (· ∉ asked) ∧ nodes s' = nodes s := by
  induction asked generalizing s with
  | nil => exact ⟨[], s, .nil, .nil, rfl, (List.filter_eq_self.mpr fun _ _ => rfl).symm, rfl⟩
  | cons name rest ih =>
    obtain ⟨rows, s₁, hanswer, hnames, hnodes⟩ := h.drops s _ name (lexemes_dropQuery name)
    obtain ⟨d, s', ha, hdrops, hrequests, hnames', hnodes'⟩ := ih s₁
    refine ⟨(dropping database name, .ok ⟨rows, none⟩) :: d, s', ?_, .next rfl hdrops, ?_, ?_, ?_⟩
    · exact answered_cons_iff.mpr ⟨by rw [dropping, hanswer], by rw [dropping, hanswer]; exact ha⟩
    · rw [List.map_cons, List.map_cons, hrequests]
    · rw [hnames', hnames, List.filter_filter]
      refine List.filter_congr fun other _ => ?_
      simp [Bool.and_comm]
    · rw [hnodes', hnodes]

/-- One pass for every 50000 nodes, the last of which may delete fewer, and one that deletes none. -/
theorem Keeps.exists_passes (h : Keeps link database names nodes) (s : σ) :
    ∃ d s', Answered link s d s' ∧ Passes database d (.ok ()) ∧
      d.map Prod.fst = List.replicate ((nodes s + 49999) / 50000 + 1) (deleting database) ∧
      names s' = names s ∧ nodes s' = 0 := by
  induction hn : nodes s using Nat.strongRecOn generalizing s with
  | ind n ih =>
    subst hn
    obtain ⟨row, rows, s₁, hanswer, hcolumn, hnames, hnodes⟩ := h.deletes s
    have hanswer' : link.answer (deleting database) s = (.ok ⟨row :: rows, none⟩, s₁) := hanswer
    have hdeleted : deleted (.ok ⟨row :: rows, none⟩) = .ok (min (nodes s) 50000 : Nat) := by
      show (row.integer "deleted").mapError _ = _
      rw [hcolumn]
      rfl
    by_cases hnone : nodes s = 0
    · refine ⟨[(deleting database, .ok ⟨row :: rows, none⟩)], s₁, ?_, .last hdeleted (by omega), ?_, hnames,
        by omega⟩
      · rw [answered_cons_iff, hanswer']
        exact ⟨rfl, .nil⟩
      · rw [hnone]
        rfl
    · obtain ⟨d, s', ha, hpasses, hrequests, hnames', hnodes'⟩ := ih (nodes s₁) (by omega) s₁ rfl
      have hcount : (nodes s + 49999) / 50000 = (nodes s₁ + 49999) / 50000 + 1 := by omega
      refine ⟨(deleting database, .ok ⟨row :: rows, none⟩) :: d, s', ?_, .next hdeleted (by omega) hpasses, ?_,
        hnames'.trans hnames, hnodes'⟩
      · rw [answered_cons_iff, hanswer']
        exact ⟨rfl, ha⟩
      · rw [List.map_cons, hrequests, hcount, List.replicate_succ (n := _ + 1)]

theorem Keeps.exists_resetting (h : Keeps link database names nodes) (s : σ) :
    ∃ d s', Answered link s d s' ∧ Resetting database d (.ok ()) ∧
      d.map Prod.fst = listing database :: (names s).map (dropping database) ++
        List.replicate ((nodes s + 49999) / 50000 + 1) (deleting database) ∧
      names s' = [] ∧ nodes s' = 0 := by
  obtain ⟨rows, s₁, hanswer, hrows, hnames, hnodes⟩ := h.lists s
  have hanswer' : link.answer (listing database) s = (.ok ⟨rows, none⟩, s₁) := hanswer
  obtain ⟨d, s₂, hd, hdrops, hrequests, hnames₂, hnodes₂⟩ := h.exists_drops (names s) s₁
  obtain ⟨d', s', hd', hpasses, hrequests', hnames', hnodes'⟩ := h.exists_passes s₂
  refine ⟨(listing database, .ok ⟨rows, none⟩) :: (d ++ d'), s', ?_, ?_, ?_, ?_, hnodes'⟩
  · rw [answered_cons_iff, hanswer']
    exact ⟨rfl, hd.append hd'⟩
  · exact .cleared (constraintNames_eq hrows) hdrops hpasses
  · rw [List.map_cons, List.map_append, hrequests, hrequests', hnodes₂, hnodes]
    rfl
  · rw [hnames', hnames₂, hnames, List.filter_eq_nil_iff]
    simp

end

/-- The name in a query, if there is one. -/
def named? (text : String) : Option String :=
  (lexemes text.toList).bind fun units => units.findSome? fun
    | .name name => some name
    | _ => none

theorem named?_of_dropUnits {text name : String} (h : lexemes text.toList = some (dropUnits name)) :
    named? text = some name := by
  rw [named?, h]
  rfl

theorem named?_of_plain {text : String} (h : text.toList.all fun c => c != '\x60' && c != '$') :
    named? text = none := by
  have hspaced : Cypher.Spaced (plain text) := by
    rw [← List.append_nil (plain _)]
    exact .plain_append h .nil
  have hunits := Cypher.lexemes_flatMap_chars hspaced
  rw [Cypher.flatMap_chars_plain] at hunits
  rw [named?, hunits, Option.bind_some, List.findSome?_eq_none_iff]
  intro unit hunit
  obtain ⟨c, -, rfl⟩ := List.mem_map.mp hunit
  rfl

/-- A row with a name and a count. -/
def keptRow (name : String) (count : Nat) : Row where
  integer _ := .ok count
  text _ := .ok name

/-- A server with constraints and a number of nodes. -/
def keeper : Link (List String × Nat) where
  answer request s :=
    match request with
    | .run _ text _ =>
      match named? text with
      | some name => (.ok ⟨[], none⟩, (s.1.filter (· ≠ name), s.2))
      | none =>
        if text = constraintsQuery then (.ok ⟨s.1.map (keptRow · 0), none⟩, s)
        else (.ok ⟨[keptRow "" (min s.2 50000)], none⟩, (s.1, s.2 - min s.2 50000))
    | _ => (.ok ⟨[], none⟩, s)

theorem keeper_keeps (database : String) : Keeps keeper database Prod.fst Prod.snd where
  lists s := by
    have hplain : named? "SHOW CONSTRAINTS YIELD name" = none := named?_of_plain (by decide)
    refine ⟨s.1.map (keptRow · 0), s, ?_, ?_, rfl, rfl⟩
    · simp only [keeper, hplain]
      rfl
    · rw [List.map_map]
      rfl
  drops s text name h := by
    refine ⟨[], (s.1.filter (· ≠ name), s.2), ?_, rfl, rfl⟩
    simp only [keeper, named?_of_dropUnits h]
  deletes s := by
    have hplain : named? "MATCH (n) WITH n LIMIT 50000 DETACH DELETE n RETURN count(n) AS deleted" = none :=
      named?_of_plain (by decide)
    refine ⟨keptRow "" (min s.2 50000), [], (s.1, s.2 - min s.2 50000), ?_, rfl, rfl, rfl⟩
    simp only [keeper, hplain]
    rfl

/-- A server that lists a constraint and refuses everything else. -/
def refuser : Link Unit where
  answer request s :=
    match request with
    | .run _ text _ =>
      if text = constraintsQuery then (.ok ⟨[keptRow "unique" 0], none⟩, s)
      else (.error (.of "refused"), s)
    | _ => (.error (.of "refused"), s)

theorem deletesBelow_refuser (database : String) (s : Unit) : DeletesBelow refuser database s 1 := by
  intro reply names d d' s' ha _ _ hdeleting
  obtain ⟨s₁, -, ha⟩ := exists_of_answered_append (answered_cons_iff.mp ha).2
  cases d' with
  | nil => exact Nat.zero_lt_one
  | cons x d' =>
    obtain ⟨request, reply⟩ := x
    obtain rfl : request = deleting database := hdeleting _ List.mem_cons_self
    obtain ⟨rfl, -⟩ := answered_cons_iff.mp ha
    have hanswer : (refuser.answer (deleting database) s₁).1 = .error (.of "refused") := by
      rw [refuser, deleting]
      rfl
    rw [hanswer]
    exact Nat.zero_lt_one

/-! ## Resets -/

theorem dropping_ne_deleting (database name : String) : dropping database name ≠ deleting database := by
  intro h
  have hhead := congrArg (·.toList.head?) (Request.run.inj h).2.1
  have hdrop : (dropQuery name).toList.head? = some 'D' := by
    rw [toList_dropQuery]
    rfl
  rw [hdrop] at hhead
  revert hhead
  decide

theorem Drops.exists_dropping {names : List String} (h : Drops database names d result) :
    ∀ x ∈ d, ∃ name, x.1 = dropping database name := by
  induction h with
  | nil => exact nofun
  | @stop name => exact List.forall_mem_singleton.mpr ⟨name, rfl⟩
  | @next name _ _ _ _ _ _ ih => exact List.forall_mem_cons.mpr ⟨⟨name, rfl⟩, ih⟩

/-- No node is deleted unless the constraints were listed and every one of them was dropped. -/
theorem Resetting.exists_cleared {reply : Reply} (h : Resetting database d result)
    (hdeleting : (deleting database, reply) ∈ d) :
    ∃ reply names before after, d = (listing database, reply) :: (before ++ after) ∧
      listed reply = .ok names ∧ Drops database names before (.ok ()) := by
  have hlisting : deleting database ≠ listing database := fun h =>
    absurd (Request.run.inj h).2.1 (by decide)
  cases h with
  | unlisted =>
    exact absurd (congrArg Prod.fst (List.mem_singleton.mp hdeleting)) hlisting
  | undropped _ hdrops =>
    rcases List.mem_cons.mp hdeleting with hfirst | hdrop
    · exact absurd (congrArg Prod.fst hfirst) hlisting
    · obtain ⟨name, hname⟩ := hdrops.exists_dropping _ hdrop
      exact absurd hname.symm (dropping_ne_deleting database name)
  | cleared hlisted hdrops => exact ⟨_, _, _, _, rfl, hlisted, hdrops⟩

/-- A reset reads back the name of every constraint that it drops. It empties a server that does what it is
asked, with one pass for every 50000 nodes and one more. Whatever else a server answers, as long as what it
is said to delete has a bound, the reset ends, at the first fault if there is one, and no node is deleted
unless every listed constraint was dropped. -/
theorem reset_empties (link : Link σ) (database : String) (s : σ) :
    (∀ name, lexemes (dropQuery name).toList = some (dropUnits name)) ∧
    (∀ names nodes, Keeps link database names nodes →
      ∃ d s', Holds link (reset link database) s (.ok ()) d s' ∧
      d.map Prod.fst = listing database :: (names s).map (dropping database) ++
        List.replicate ((nodes s + 49999) / 50000 + 1) (deleting database) ∧
      names s' = [] ∧ nodes s' = 0) ∧
    ∀ limit, DeletesBelow link database s limit →
      ∃ d s' result, Holds link (reset link database) s result d s' ∧ Resetting database d result ∧
        ∀ reply, (deleting database, reply) ∈ d → ∃ reply names before after,
          d = (listing database, reply) :: (before ++ after) ∧
          listed reply = .ok names ∧ Drops database names before (.ok ()) := by
  refine ⟨lexemes_dropQuery, fun names nodes h => ?_, fun limit h => ?_⟩
  · obtain ⟨d, s', ha, hresetting, hrequests, hnames, hnodes⟩ := h.exists_resetting s
    exact ⟨d, s', holds_reset hresetting ha, hrequests, hnames, hnodes⟩
  · obtain ⟨d, s', result, ha, hresetting⟩ := exists_resetting h
    exact ⟨d, s', result, holds_reset hresetting ha, hresetting, fun _ => hresetting.exists_cleared⟩

theorem reset_empties_odd :
    (Keeps keeper "d" Prod.fst Prod.snd ∧
      ∃ d s', Holds keeper (reset keeper "d") (["odd\x60name", "", "\x60\x60"], 100000) (.ok ()) d s' ∧
        d.map Prod.fst = [listing "d", dropping "d" "odd\x60name", dropping "d" "", dropping "d" "\x60\x60",
          deleting "d", deleting "d", deleting "d"] ∧ s'.1 = [] ∧ s'.2 = 0) ∧
    DeletesBelow refuser "d" () 1 ∧
      ∃ d s' result, Holds refuser (reset refuser "d") () result d s' ∧ Resetting "d" d result := by
  obtain ⟨d, s', hholds, hrequests, hempty⟩ := (reset_empties keeper "d"
    (["odd\x60name", "", "\x60\x60"], 100000)).2.1 Prod.fst Prod.snd (keeper_keeps "d")
  obtain ⟨d', t, result, hrefused, hresetting, -⟩ :=
    (reset_empties refuser "d" ()).2.2 1 (deletesBelow_refuser "d" ())
  exact ⟨⟨keeper_keeps "d", d, s', hholds, hrequests, hempty⟩, deletesBelow_refuser "d" (),
    d', t, result, hrefused, hresetting⟩

end GraphLoad.Server
