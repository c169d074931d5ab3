import GraphLoad.Proofs.Json.Arranged
import GraphLoad.Proofs.Web.Address
import GraphLoad.Worker.Delivery
import Mathlib.Data.List.Forall2

/-!
# How updates reach the gateway

Whatever the reporters and the task that forwards do, and in whatever order they do it, what the task has
attempted is a prefix of what was sent (`run_delivers`): one request for each update, in order, none of them
made again. Behind it stands one account of the updates (`Account`), which every act keeps.
-/

namespace GraphLoad

variable {σ : Type}

namespace Gateway

/-! ## Requests -/

/-- The requests among what happens. -/
def requests (events : List Event) : List Request :=
  events.filterMap fun
    | .request r => some r
    | .log _ => none

/-- The front of the text, up to the slashes at its end. -/
def IsFront (front text : String) : Prop :=
  front.toList.getLast? ≠ some '/' ∧ ∃ n, text.toList = front.toList ++ List.replicate n '/'

/-- What an update says: whatever is in it, under its name. -/
def content (u : StatusUpdate) : Json :=
  .object <|
    (u.error.map fun text => ("error", .string text)).toList ++
    (u.progress.map fun percent => ("progress", .number (.int percent))).toList ++
    (u.resultSummary.map fun summary => ("result_summary", summary)).toList ++
    (u.status.map fun
      | .processing => ("status", .string "PROCESSING")
      | .completed => ("status", .string "COMPLETED")
      | .failed => ("status", .string "FAILED")).toList

/-- The request is the one that makes an update known: it names the job behind the front of the gateway's
address and says what is in the update. -/
structure Asks (front : String) (message : String × StatusUpdate) (r : Request) : Prop where
  method : r.method = "PATCH"
  url : Url.ofText (front ++ "/api/v1/uploads/" ++ message.1) = .ok r.url
  contentType : r.contentType = "application/json"
  body : r.body = content message.2

private theorem ofList_content (status progress summary error : Option Json) :
    Fields.ofList ((status.map fun v => ("status", v)).toList ++
        (progress.map fun v => ("progress", v)).toList ++
        (summary.map fun v => ("result_summary", v)).toList ++
        (error.map fun v => ("error", v)).toList) =
      (error.map fun v => ("error", v)).toList ++ (progress.map fun v => ("progress", v)).toList ++
        (summary.map fun v => ("result_summary", v)).toList ++
        (status.map fun v => ("status", v)).toList := by
  have entry_sublist (key : String) (o : Option Json) :
      Fields.keys (o.map fun v => (key, v)).toList |>.Sublist [key] := by
    cases o with
    | none => exact List.nil_sublist _
    | some v => exact List.Sublist.refl _
  have hsorted : ["error", "progress", "result_summary", "status"].Pairwise (· < ·) := by decide
  refine Fields.Sorted.ofList_eq_of_perm ?_ ?_
  · rw [Fields.Sorted, Fields.keys, List.map_append, List.map_append, List.map_append]
    exact hsorted.sublist ((((entry_sublist _ error).append (entry_sublist _ progress)).append
      (entry_sublist _ summary)).append (entry_sublist _ status))
  · rw [List.perm_iff_count]
    intro entry
    simp only [List.count_append]
    omega

theorem toJson_eq_content (u : StatusUpdate) : u.toJson = content u := by
  obtain ⟨status, progress, summary, error⟩ := u
  have hfields := ofList_content (status.map fun s => .string s.name)
    (progress.map fun percent => .number (.int percent)) summary (error.map .string)
  rw [Option.map_map, Option.map_map, Option.map_map] at hfields
  refine congrArg Json.object (hfields.trans ?_)
  cases status with
  | none => rfl
  | some status => cases status <;> rfl

/-- The slashes at the end of an address are left out, and nothing else. -/
theorem isFront_iff {front text : String} : IsFront front text ↔ trimSlashes text = front := by
  constructor
  · rintro ⟨hlast, n, htext⟩
    have hfront : front.toList.reverse.dropWhile (· == '/') = front.toList.reverse := by
      rw [List.getLast?_eq_head?_reverse] at hlast
      cases hreverse : front.toList.reverse with
      | nil => rfl
      | cons c r =>
        rw [hreverse] at hlast
        exact List.dropWhile_cons_of_neg (by simpa using hlast)
    rw [trimSlashes, htext, List.reverse_append, List.reverse_replicate,
      List.dropWhile_append_of_pos, hfront, List.reverse_reverse, String.ofList_toList]
    intro c hc
    rw [List.eq_of_mem_replicate hc]
    rfl
  · rintro rfl
    obtain ⟨n, hback⟩ : ∃ n, text.toList.reverse =
        List.replicate n '/' ++ text.toList.reverse.dropWhile (· == '/') := by
      refine ⟨(text.toList.reverse.takeWhile (· == '/')).length, ?_⟩
      rw [← List.eq_replicate_of_mem, List.takeWhile_append_dropWhile]
      intro c hc
      simpa using List.all_eq_true.mp List.all_takeWhile c hc
    refine ⟨?_, n, ?_⟩
    · rw [trimSlashes, String.toList_ofList, List.getLast?_reverse]
      intro hhead
      have hnot := List.head?_dropWhile_not (· == '/') text.toList.reverse
      rw [hhead] at hnot
      simp at hnot
    · rw [trimSlashes, String.toList_ofList, ← List.reverse_replicate, ← List.reverse_append, ← hback,
        List.reverse_reverse]

variable (line : Line σ) {base : String}

theorem requests_append (first second : List Event) :
    requests (first ++ second) = requests first ++ requests second :=
  List.filterMap_append

theorem forward_append (first second : List (String × StatusUpdate)) :
    forward line base (first ++ second) = (do forward line base first; forward line base second) := by
  induction first with
  | nil => rfl
  | cons message rest ih =>
    rw [List.cons_append, forward, ih, forward, bind_assoc]

theorem forward_singleton (job : String) (u : StatusUpdate) :
    forward line base [(job, u)] = deliver line base job u :=
  bind_pure_unit

theorem requests_update_of_error {job : String} {u : StatusUpdate} {p : Url.Problem}
    (h : request base job u = .error p) (l : σ) :
    requests ((update line base job u).run l).events = [] := by
  rw [update, h]
  rfl

/-- An update whose address can be read is one request, whatever the answer to it. -/
theorem requests_update_of_ok {job : String} {u : StatusUpdate} {r : Request}
    (h : request base job u = .ok r) (l : σ) :
    requests ((update line base job u).run l).events = [r] := by
  have hask : (ask line r).run l = ⟨(line.send r l).1, [.request r], (line.send r l).2⟩ := rfl
  rw [update, h]
  dsimp only
  rw [Action.run_bind, hask]
  dsimp only
  cases (line.send r l).1 with
  | error f => rfl
  | ok response =>
    dsimp only
    split <;> rfl

theorem requests_deliver (job : String) (u : StatusUpdate) (l : σ) :
    requests ((deliver line base job u).run l).events =
      requests ((update line base job u).run l).events := by
  rw [deliver, Action.run_bind]
  dsimp only
  rw [requests_append]
  cases ((update line base job u).run l).value <;> exact List.append_nil _

theorem requests_forward_eq_nil (h : (Url.ofText (address base "")).isOk = false)
    (messages : List (String × StatusUpdate)) (l : σ) :
    requests ((forward line base messages).run l).events = [] := by
  induction messages generalizing l with
  | nil => rfl
  | cons message rest ih =>
    obtain ⟨job, u⟩ := message
    obtain ⟨p, hp⟩ : ∃ p, request base job u = .error p := by
      rw [request]
      rw [← isOk_ofText_address base job] at h
      cases hurl : Url.ofText (address base job) with
      | error p => exact ⟨p, rfl⟩
      | ok url =>
        rw [hurl] at h
        cases h
    rw [forward, Action.run_bind]
    dsimp only
    rw [requests_append, requests_deliver, requests_update_of_error line hp, ih, List.append_nil]

/-- Updates that are forwarded are one request each, in order, if the address of the gateway is of use. -/
theorem asks_requests_forward (h : (Url.ofText (address base "")).isOk)
    (messages : List (String × StatusUpdate)) (l : σ) :
    List.Forall₂ (Asks (trimSlashes base)) messages
      (requests ((forward line base messages).run l).events) := by
  induction messages generalizing l with
  | nil => exact .nil
  | cons message rest ih =>
    obtain ⟨job, u⟩ := message
    rw [← isOk_ofText_address base job] at h
    cases hurl : Url.ofText (address base job) with
    | error p =>
      rw [hurl] at h
      cases h
    | ok url =>
      have hrequest : request base job u = .ok ⟨"PATCH", url, "application/json", u.toJson⟩ := by
        rw [request, hurl]
        rfl
      rw [forward, Action.run_bind]
      dsimp only
      rw [requests_append, requests_deliver, requests_update_of_ok line hrequest]
      exact .cons ⟨rfl, hurl, rfl, toJson_eq_content u⟩ (ih _)

end Gateway

namespace Delivery

open Gateway (Asks IsFront forward requests)

/-! ## The account of the updates -/

/-- The updates that the task has taken out and not yet attempted. -/
def Task.held : Task → List Message
  | holding message => [message]
  | waiting | ended => []

/-- The updates that are sent by an act. -/
def Act.sent : Act → List Message
  | send message => [message]
  | clone | drop | receive | request | finish => []

/-- The updates that are sent in acts. -/
def sent (acts : List Act) : List Message :=
  acts.flatMap Act.sent

/-- Whether the act is one of the task, not of the reporters. -/
def Act.ofTask : Act → Bool
  | receive | request | finish => true
  | clone | drop | send _ => false

/-- The account of the updates: each of those that were sent was attempted, is held, or is in the channel,
in this order, and what was done is what forwarding the attempted ones comes to. -/
structure Account (line : Gateway.Line σ) (base : String) (l : σ) (sent attempted : List Message)
    (s : State σ) : Prop where
  kept : sent = attempted ++ (s.task.held ++ s.channel)
  done : (forward line base attempted).run l = ⟨(), s.events, s.line⟩
  ended : s.task = .ended → s.reporters = 0 ∧ s.channel = []

variable {line : Gateway.Line σ} {base : String} {l : σ} {s s' : State σ} {act : Act} {acts : List Act}
  {before attempted : List Message}

theorem account_start : Account line base l [] [] (start l) where
  kept := rfl
  done := rfl
  ended := nofun

/-- Every act keeps the account: sending adds to the channel, taking out moves from the channel to the
task, and a request moves from the task to what was attempted, whatever comes of it. -/
theorem Account.step (h : Account line base l before attempted s)
    (hstep : step? line base s act = some s') :
    ∃ attempted', Account line base l (before ++ act.sent) attempted' s' := by
  obtain ⟨hkept, hdone, hended⟩ := h
  cases act with
  | clone | drop =>
    obtain ⟨hpos, ⟨⟩⟩ := Option.ite_none_right_eq_some.mp hstep
    refine ⟨attempted, (List.append_nil _).trans hkept, hdone, fun htask => ?_⟩
    exact absurd (hended htask).1 hpos.ne'
  | send message =>
    obtain ⟨job, u⟩ := message
    obtain ⟨hpos, ⟨⟩⟩ := Option.ite_none_right_eq_some.mp hstep
    have htask : s.task ≠ .ended := fun htask => absurd (hended htask).1 hpos.ne'
    refine ⟨attempted, ?_, hdone, fun heq => absurd heq htask⟩
    rw [hkept, State.reporter, if_neg htask, List.append_assoc, List.append_assoc]
    rfl
  | receive =>
    obtain ⟨reporters, channel, task, line', events⟩ := s
    cases task with
    | holding | ended => cases hstep
    | waiting =>
      cases channel with
      | nil => cases hstep
      | cons message rest =>
        obtain ⟨⟩ := hstep
        exact ⟨attempted, (List.append_nil _).trans hkept, hdone, nofun⟩
  | request =>
    obtain ⟨reporters, channel, task, line', events⟩ := s
    cases task with
    | waiting | ended => cases hstep
    | holding message =>
      obtain ⟨⟩ := hstep
      refine ⟨attempted ++ [message], ?_, ?_, nofun⟩
      · rw [Act.sent, List.append_nil, hkept, List.append_assoc]
        rfl
      · rw [Gateway.forward_append, Gateway.forward_singleton, Action.run_bind, hdone]
  | finish =>
    obtain ⟨⟨htask, hchannel, hreporters⟩, ⟨⟩⟩ := Option.ite_none_right_eq_some.mp hstep
    refine ⟨attempted, ?_, hdone, fun _ => ⟨hreporters, hchannel⟩⟩
    rw [hkept, htask]
    exact List.append_nil _

theorem run?_cons (line : Gateway.Line σ) (base : String) (s : State σ) (act : Act) (acts : List Act) :
    run? line base s (act :: acts) = (step? line base s act).bind (run? line base · acts) :=
  List.foldlM_cons

/-- A run keeps the account, act by act. -/
theorem Account.run (h : Account line base l before attempted s) (hrun : run? line base s acts = some s') :
    ∃ attempted', Account line base l (before ++ sent acts) attempted' s' := by
  induction acts generalizing before attempted s with
  | nil =>
    obtain ⟨⟩ := hrun
    refine ⟨attempted, ?_⟩
    rw [sent, List.flatMap_nil, List.append_nil]
    exact h
  | cons act acts ih =>
    rw [run?_cons] at hrun
    obtain ⟨s₁, hstep, hrest⟩ := Option.bind_eq_some_iff.mp hrun
    obtain ⟨attempted₁, h₁⟩ := h.step hstep
    rw [sent, List.flatMap_cons, ← List.append_assoc]
    exact ih h₁ hrest

/-! ## Getting done -/

theorem sent_eq_nil (h : ∀ act ∈ acts, act.ofTask) : sent acts = [] := by
  refine List.flatMap_eq_nil_iff.mpr fun act hact => ?_
  have htask := h act hact
  cases act with
  | receive | request | finish => rfl
  | clone | drop | send => cases htask

/-- The task has nothing left to do that it could do, and does not wait for anybody if nobody is left. -/
structure Drained (s : State σ) : Prop where
  empty : s.task.held ++ s.channel = []
  ended_iff : s.task = .ended ↔ s.reporters = 0

/-- A task that waits can work off the channel by its own acts, whatever comes of its requests. -/
theorem exists_drained_of_waiting (line : Gateway.Line σ) (base : String) (hwaiting : s.task = .waiting) :
    ∃ acts s', (∀ act ∈ acts, act.ofTask) ∧ run? line base s acts = some s' ∧
      s'.reporters = s.reporters ∧ Drained s' := by
  obtain ⟨reporters, channel, task, l, events⟩ := s
  obtain rfl : task = .waiting := hwaiting
  induction channel generalizing l events with
  | nil =>
    by_cases hreporters : reporters = 0
    · subst hreporters
      refine ⟨[.finish], _, by decide, rfl, rfl, rfl, iff_of_true rfl rfl⟩
    · exact ⟨[], _, nofun, rfl, rfl, rfl, iff_of_false nofun hreporters⟩
  | cons message rest ih =>
    obtain ⟨job, u⟩ := message
    let o := (Gateway.deliver line base job u).run l
    obtain ⟨acts, s', htask, hrun, hreporters, hdrained⟩ := ih o.state (events ++ o.events)
    refine ⟨.receive :: .request :: acts, s', ?_, hrun, hreporters, hdrained⟩
    exact List.forall_mem_cons.mpr ⟨rfl, List.forall_mem_cons.mpr ⟨rfl, htask⟩⟩

theorem Account.exists_drained (h : Account line base l before attempted s) :
    ∃ acts s', (∀ act ∈ acts, act.ofTask) ∧ run? line base s acts = some s' ∧
      s'.reporters = s.reporters ∧ Drained s' := by
  cases htask : s.task with
  | waiting => exact exists_drained_of_waiting line base htask
  | ended =>
    obtain ⟨hreporters, hchannel⟩ := h.ended htask
    refine ⟨[], s, nofun, rfl, rfl, ?_, iff_of_true htask hreporters⟩
    rw [htask, hchannel]
    rfl
  | holding message =>
    obtain ⟨s₁, hstep, hwaiting, hreporters⟩ : ∃ s₁, step? line base s .request = some s₁ ∧
        s₁.task = .waiting ∧ s₁.reporters = s.reporters := by
      rw [step?, htask]
      exact ⟨_, rfl, rfl, rfl⟩
    obtain ⟨acts, s', hacts, hrun, hreporters', hdrained⟩ :=
      exists_drained_of_waiting line base hwaiting
    refine ⟨.request :: acts, s', List.forall_mem_cons.mpr ⟨rfl, hacts⟩, ?_,
      hreporters'.trans hreporters, hdrained⟩
    rw [run?_cons, hstep]
    exact hrun

/-- Along every run, whatever its order and whatever the answers to the requests, what was attempted is a
prefix of what was sent. Each attempt is one request, in order, with the job and the content of its update
(there is none at all if the address of the gateway is of no use, whatever job is named behind it). The task ends only when no reporter is
left and all that was sent has been attempted. And no failure stops it: from wherever the run has come, the
task can by itself attempt all that was sent, and it comes to its end just if no reporter is left. -/
theorem run_delivers (h : run? line base (start l) acts = some s) :
    ∃ front attempted pending, IsFront front base ∧ sent acts = attempted ++ pending ∧
      s.events = ((forward line base attempted).run l).events ∧
      ((Url.ofText (front ++ "/api/v1/uploads/")).isOk = true →
        List.Forall₂ (Asks front) attempted (requests s.events)) ∧
      ((Url.ofText (front ++ "/api/v1/uploads/")).isOk = false → requests s.events = []) ∧
      (s.task = .ended → s.reporters = 0 ∧ pending = []) ∧
      ∃ more s', (∀ act ∈ more, act.ofTask) ∧ run? line base s more = some s' ∧
        s'.events = ((forward line base (sent acts)).run l).events ∧
        (s'.task = .ended ↔ s.reporters = 0) := by
  obtain ⟨attempted, haccount⟩ := account_start.run h
  obtain ⟨more, s', hmore, hrun, hreporters, hdrained⟩ := haccount.exists_drained
  obtain ⟨attempted', haccount'⟩ := haccount.run hrun
  have hevents : s.events = ((forward line base attempted).run l).events := by rw [haccount.done]
  have haddress : Gateway.address base "" = Gateway.trimSlashes base ++ "/api/v1/uploads/" :=
    String.append_empty
  refine ⟨Gateway.trimSlashes base, attempted, s.task.held ++ s.channel, Gateway.isFront_iff.mpr rfl,
    haccount.kept, hevents, fun hreadable => ?_, fun hreadable => ?_, fun hended => ?_, more, s', hmore,
    hrun, ?_, ?_⟩
  · rw [hevents]
    exact Gateway.asks_requests_forward line (haddress ▸ hreadable) attempted l
  · rw [hevents]
    exact Gateway.requests_forward_eq_nil line (haddress ▸ hreadable) attempted l
  · obtain ⟨hnone, hchannel⟩ := haccount.ended hended
    refine ⟨hnone, ?_⟩
    rw [hended, hchannel]
    rfl
  · have hall := haccount'.kept
    rw [sent_eq_nil hmore, List.append_nil, hdrained.empty, List.append_nil, List.nil_append] at hall
    rw [hall, haccount'.done]
  · rw [← hreporters]
    exact hdrained.ended_iff

/-- A line whose answers are known beforehand. -/
def answering : Gateway.Line (List (Except Failure Gateway.Response)) where
  send _ answers := (answers.head?.getD (.error (.of "closed")), answers.tail)

/-- Three updates about three jobs: the first request is refused, the second does not get through, and the
third is made when no reporter is left. -/
theorem run_delivers_of_failures :
    let answers := [.ok ⟨500, "down"⟩, .error (.of "timed out"), .ok ⟨200, ""⟩]
    let acts : List Act := [.send ("a", .processing 0), .receive, .clone, .send ("b", .failed "lost" none),
      .request, .drop, .receive, .send ("c", .completed .null), .drop, .request, .receive, .request, .finish]
    ∃ s, run? answering "http://gateway//" (start answers) acts = some s ∧ s.task = .ended ∧
      List.Forall₂ (Asks "http://gateway")
        [("a", .processing 0), ("b", .failed "lost" none), ("c", .completed .null)]
        (requests s.events) := by
  intro answers acts
  obtain ⟨s, hrun, hended⟩ :
      ∃ s, run? answering "http://gateway//" (start answers) acts = some s ∧ s.task = .ended :=
    ⟨_, rfl, rfl⟩
  obtain ⟨front, attempted, pending, hfront, hsent, -, hasks, -, hend, -⟩ := run_delivers hrun
  obtain rfl : "http://gateway" = front :=
    (show "http://gateway" = Gateway.trimSlashes "http://gateway//" by decide +kernel).trans
      (Gateway.isFront_iff.mp hfront)
  obtain ⟨-, rfl⟩ := hend hended
  rw [List.append_nil] at hsent
  subst hsent
  exact ⟨s, hrun, hended, hasks (by decide +kernel)⟩

end Delivery
end GraphLoad
