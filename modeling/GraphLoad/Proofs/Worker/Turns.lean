import GraphLoad.Proofs.Upload.Calls
import GraphLoad.Proofs.Worker.Reports
import GraphLoad.Worker.Queue

/-!
# The turns of a worker

Each turn asks the queue once and does the job that the reply holds, if it holds one (`exists_served`). A
run of turns is these one after another, and apart from the asking it is the same as doing the jobs of the
replies in order (`turns_serve`): a reply that holds no job changes nothing for the others.
-/

namespace GraphLoad

/-- The calls of the database among what a worker does. -/
def Worker.calls (events : List Worker.Event) : List Call :=
  events.filterMap fun
    | .call call => some call
    | .log _ | .pop _ | .update _ _ => none

/-- What a worker does apart from asking a queue. -/
def Worker.withoutPops (events : List Worker.Event) : List Worker.Event :=
  events.filter fun
    | .pop _ => false
    | .log _ | .call _ | .update _ _ => true

open Worker (calls withoutPops)

variable {σ : Type}

namespace Job

/-! ## What is done for a job -/

variable (reporter : Worker.Reporter) (id : String)

theorem calls_send_cons (u : StatusUpdate) (events : List Worker.Event) :
    calls (reporter.send id u :: events) = calls events := by
  cases reporter <;> rfl

theorem withoutPops_send_cons (u : StatusUpdate) (events : List Worker.Event) :
    withoutPops (reporter.send id u :: events) = reporter.send id u :: withoutPops events := by
  cases reporter <;> rfl

theorem calls_relay (last : Nat) (events : List Upload.Event) :
    calls (relay reporter id last events) = Upload.calls events := by
  induction events generalizing last with
  | nil => rfl
  | cons event rest ih =>
    cases event with
    | log entry => exact ih last
    | call call => exact congrArg (call :: ·) (ih last)
    | progress account =>
      rw [relay]
      split
      · exact ih last
      · rw [calls_send_cons]
        exact ih _

theorem withoutPops_relay (last : Nat) (events : List Upload.Event) :
    withoutPops (relay reporter id last events) = relay reporter id last events := by
  induction events generalizing last with
  | nil => rfl
  | cons event rest ih =>
    cases event with
    | log entry => exact congrArg (Worker.Event.log entry :: ·) (ih last)
    | call call => exact congrArg (Worker.Event.call call :: ·) (ih last)
    | progress account =>
      rw [relay]
      split
      · exact ih last
      · rw [withoutPops_send_cons, ih]

theorem calls_closing (outcome : Except UploadError UploadResult) :
    calls (closing reporter id outcome) = [] := by
  cases outcome with
  | error e => exact calls_send_cons reporter id _ []
  | ok r =>
    rw [closing]
    split <;> exact calls_send_cons reporter id _ []

theorem withoutPops_closing (outcome : Except UploadError UploadResult) :
    withoutPops (closing reporter id outcome) = closing reporter id outcome := by
  have hsend (entry : Log.Entry) (u : StatusUpdate) :
      withoutPops [.log entry, reporter.send id u] = [.log entry, reporter.send id u] :=
    congrArg (Worker.Event.log entry :: ·) (withoutPops_send_cons reporter id u [])
  cases outcome with
  | error e => exact hsend _ _
  | ok r =>
    rw [closing]
    split <;> exact hsend _ _

variable (b : Backend σ) (clock : Upload.Clock) (base : Config) (job : Job) (s : σ)

theorem events_handle :
    ((job.handle b clock base reporter).run s).events =
      .log (.info s!"📝 Processing upload job: {job.id}") ::
        reporter.send job.id (.processing 0) ::
          (relay reporter job.id 0
              ((Upload.upload b clock (job.config base) job.data).run s).events ++
            closing reporter job.id
              ((Upload.upload b clock (job.config base) job.data).run s).value) := by
  rw [← List.append_nil (closing _ _ _)]
  rfl

/-- The calls that are made for a job are those of its upload, with the settings it overrides. -/
theorem calls_handle :
    calls ((job.handle b clock base reporter).run s).events =
      Upload.calls ((Upload.upload b clock (job.config base) job.data).run s).events := by
  rw [events_handle]
  show calls (reporter.send job.id _ :: _) = _
  rw [calls_send_cons, calls, List.filterMap_append, ← calls, ← calls, calls_relay, calls_closing,
    List.append_nil]

theorem withoutPops_handle :
    withoutPops ((job.handle b clock base reporter).run s).events =
      ((job.handle b clock base reporter).run s).events := by
  rw [events_handle]
  show .log _ :: withoutPops (reporter.send job.id _ :: _) = _
  rw [withoutPops_send_cons, withoutPops, List.filter_append, ← withoutPops, ← withoutPops,
    withoutPops_relay, withoutPops_closing]

end Job

namespace Queue

/-! ## One turn -/

/-- The job that a reply holds, if it is a text that stands for one. -/
def Reply.held? : Reply → Option Job
  | text s => (Job.ofText s).toOption
  | number _ | other | nothing | error _ => none

variable (b : Backend σ) (clock : Upload.Clock) (base : Config) (reporter : Worker.Reporter)
  (queue : String)

/-- What a turn comes to, given the reply: the work done after the queue was asked, what the turn gives,
and the database after it. -/
structure Served (reply : Reply) (s : σ) (value : Except Problem Bool) (work : List Worker.Event)
    (s' : σ) : Prop where
  asks_once : ∀ queue, .pop queue ∉ work
  done_iff : value = .ok true ↔ ∃ job, reply.held? = some job
  handles : ∀ job, reply.held? = some job →
    work = ((job.handle b clock base reporter).run s).events ∧
    calls work = Upload.calls ((Upload.upload b clock (job.config base) job.data).run s).events ∧
    s' = ((job.handle b clock base reporter).run s).state
  empty_iff : value = .ok false ↔ reply = .nothing
  idle : value ≠ .ok true → work = [] ∧ s' = s

variable {b clock base reporter queue} {replies : List Reply} {reply : Reply} {s s' : σ}
  {value : Except Problem Bool} {work : List Worker.Event}

theorem pop_not_mem_of_withoutPops (h : withoutPops work = work) (queue : String) :
    .pop queue ∉ work := by
  intro hmem
  rw [← h, withoutPops, List.mem_filter] at hmem
  exact Bool.false_ne_true hmem.2

theorem Served.withoutPops_work (h : Served b clock base reporter reply s value work s') :
    withoutPops work = work := by
  rw [withoutPops, List.filter_eq_self]
  intro event hevent
  cases event with
  | pop queue => exact absurd hevent (h.asks_once queue)
  | log | call | update => rfl

/-- What is neither a job nor the sign of an empty queue is an error, and nothing is done. -/
theorem Served.refused (h : Served b clock base reporter reply s value work s')
    (hheld : reply.held? = none) (hreply : reply ≠ .nothing) : (∃ e, value = .error e) ∧ work = [] := by
  have hidle : value ≠ .ok true := fun htrue => by
    obtain ⟨job, hjob⟩ := h.done_iff.mp htrue
    rw [hheld] at hjob
    cases hjob
  refine ⟨?_, (h.idle hidle).1⟩
  cases value with
  | error e => exact ⟨e, rfl⟩
  | ok found =>
    cases found with
    | false => exact absurd (h.empty_iff.mp rfl) hreply
    | true => exact absurd rfl hidle

theorem served_of_held {job : Job} (h : reply.held? = some job) :
    Served b clock base reporter reply s (.ok true)
      ((job.handle b clock base reporter).run s).events
      ((job.handle b clock base reporter).run s).state where
  asks_once := pop_not_mem_of_withoutPops (job.withoutPops_handle ..)
  done_iff := iff_of_true rfl ⟨job, h⟩
  handles job' h' := by
    obtain rfl := Option.some.inj (h.symm.trans h')
    exact ⟨rfl, job.calls_handle .., rfl⟩
  empty_iff := by
    refine iff_of_false nofun fun hreply => ?_
    rw [hreply] at h
    cases h
  idle hne := absurd rfl hne

theorem served_of_not_held (h : reply.held? = none) (hvalue : value ≠ .ok true)
    (hempty : value = .ok false ↔ reply = .nothing) :
    Served b clock base reporter reply s value [] s where
  asks_once := nofun
  done_iff := by
    refine iff_of_false hvalue fun ⟨job, hjob⟩ => ?_
    rw [h] at hjob
    cases hjob
  handles job hjob := by
    rw [h] at hjob
    cases hjob
  empty_iff := hempty
  idle _ := ⟨rfl, rfl⟩

/-- What a turn gives is decided by the reply it gets. -/
theorem exists_served (b : Backend σ) (clock : Upload.Clock) (base : Config)
    (reporter : Worker.Reporter) (queue : String) (replies : List Reply) (s : σ) :
    ∃ value work s', (process b clock base reporter queue).run ⟨replies, s⟩ =
        ⟨value, .pop queue :: work, ⟨replies.tail, s'⟩⟩ ∧
      Served b clock base reporter (replies.head?.getD .nothing) s value work s' := by
  generalize hreply : replies.head?.getD .nothing = reply
  have hpop : (pop queue).run ⟨replies, s⟩ =
      (⟨reply.job?, [.pop queue], ⟨replies.tail, s⟩⟩ : Outcome (World σ) _ _) := by
    rw [← hreply]
    rfl
  rw [process, Action.run_bind, hpop]
  cases reply with
  | nothing =>
    exact ⟨.ok false, [], s, rfl, served_of_not_held rfl nofun (iff_of_true rfl rfl)⟩
  | number | other | error =>
    exact ⟨.error (.refused _), [], s, rfl, served_of_not_held rfl nofun (iff_of_false nofun nofun)⟩
  | text t =>
    cases hjob : Job.ofText t with
    | error p =>
      refine ⟨.error (.undecodable p), [], s, ?_, served_of_not_held ?_ nofun (iff_of_false nofun nofun)⟩
      · rw [Reply.job?, hjob]
        rfl
      · rw [Reply.held?, hjob]
        rfl
    | ok job =>
      have hheld : (Reply.text t).held? = some job := by
        rw [Reply.held?, hjob]
        rfl
      refine ⟨.ok true, _, _, ?_, served_of_held hheld⟩
      rw [Reply.job?, hjob, ← List.append_nil ((job.handle b clock base reporter).run s).events]
      rfl

/-! ## Runs -/

/-- The reply to the turn at a position; the queue is empty where no more replies are known. -/
def replyAt (replies : List Reply) (i : Nat) : Reply :=
  replies[i]?.getD .nothing

/-- The jobs that so many turns are given. -/
def jobs (replies : List Reply) (n : Nat) : List Job :=
  (replies.take n).filterMap Reply.held?

variable (b clock base reporter queue)

theorem run_turns_succ (n : Nat) (w : World σ) :
    (turns b clock base reporter queue (n + 1)).run w =
      let first := (process b clock base reporter queue).run w
      let rest := (turns b clock base reporter queue n).run first.state
      ⟨(first.value, first.events) :: rest.value, first.events ++ rest.events, rest.state⟩ := by
  dsimp only
  rw [← List.append_nil ((turns b clock base reporter queue n).run _).events]
  rfl

theorem replyAt_succ (replies : List Reply) (i : Nat) :
    replyAt replies (i + 1) = replyAt replies.tail i := by
  rw [replyAt, replyAt, List.getElem?_tail]

theorem jobs_succ (replies : List Reply) (n : Nat) :
    jobs replies (n + 1) = (replyAt replies 0).held?.toList ++ jobs replies.tail n := by
  cases replies with
  | nil => simp [jobs, replyAt, Reply.held?]
  | cons reply rest =>
    rw [jobs, jobs, List.take_succ_cons, List.filterMap_cons]
    show _ = reply.held?.toList ++ _
    cases reply.held? <;> rfl

/-- The turns of a run, each on the database that the one before it leaves. -/
theorem exists_states (n : Nat) (replies : List Reply) (s : σ) :
    let run := (turns b clock base reporter queue n).run ⟨replies, s⟩
    ∃ states : Nat → σ, states 0 = s ∧ run.state = ⟨replies.drop n, states n⟩ ∧
      run.value.length = n ∧ run.events = run.value.flatMap Prod.snd ∧
      ∀ i value events, run.value[i]? = some (value, events) → ∃ work,
        events = .pop queue :: work ∧
        Served b clock base reporter (replyAt replies i) (states i) value work (states (i + 1)) := by
  induction n generalizing replies s with
  | zero => exact ⟨fun _ => s, rfl, rfl, rfl, rfl, nofun⟩
  | succ n ih =>
    obtain ⟨value, work, s', hrun, hserved⟩ := exists_served b clock base reporter queue replies s
    obtain ⟨states, rfl, hend, hlength, hevents, hturns⟩ := ih replies.tail s'
    rw [run_turns_succ, hrun]
    refine ⟨fun i => i.casesOn s states, rfl, ?_, congrArg Nat.succ hlength,
      congrArg (.pop queue :: work ++ ·) hevents, fun i value' events' hi => ?_⟩
    · rw [List.drop_tail] at hend
      exact hend
    · cases i with
      | zero =>
        obtain ⟨rfl, rfl⟩ := Prod.mk.inj (Option.some.inj hi)
        refine ⟨work, rfl, ?_⟩
        rw [replyAt, ← List.head?_eq_getElem?]
        exact hserved
      | succ i =>
        rw [replyAt_succ]
        exact hturns i value' events' hi

/-- Apart from the asking, a run does the jobs that it is given, and nothing else. -/
theorem run_turns_eq_jobs (n : Nat) (replies : List Reply) (s : σ) :
    let run := (turns b clock base reporter queue n).run ⟨replies, s⟩
    let alone := ((jobs replies n).mapM fun job : Job => job.handle b clock base reporter).run s
    withoutPops run.events = alone.events ∧ run.state.database = alone.state := by
  induction n generalizing replies s with
  | zero => exact ⟨rfl, rfl⟩
  | succ n ih =>
    obtain ⟨value, work, s', hrun, hserved⟩ := exists_served b clock base reporter queue replies s
    obtain ⟨hevents, hstate⟩ := ih replies.tail s'
    have hpops (events : List Worker.Event) :
        withoutPops (.pop queue :: work ++ events) = work ++ withoutPops events := by
      show withoutPops (work ++ events) = _
      rw [withoutPops, List.filter_append, ← withoutPops, ← withoutPops, hserved.withoutPops_work]
    rw [run_turns_succ, hrun, jobs_succ]
    dsimp only
    rw [hpops, hevents, hstate]
    rw [List.head?_eq_getElem?, ← replyAt] at hserved
    cases hheld : (replyAt replies 0).held? with
    | none =>
      have hidle : value ≠ .ok true := fun htrue => by
        obtain ⟨job, hjob⟩ := hserved.done_iff.mp htrue
        rw [hheld] at hjob
        cases hjob
      obtain ⟨rfl, rfl⟩ := hserved.idle hidle
      exact ⟨rfl, rfl⟩
    | some job =>
      obtain ⟨rfl, -, rfl⟩ := hserved.handles job hheld
      rw [Option.toList_some, List.singleton_append, List.mapM_cons]
      simp only [Action.run_bind, Action.run_pure, List.append_nil, and_self]

/-- Every turn of a run asks the queue once and does what its reply calls for, on the database as the
turns before it have left it: a job if the reply is a text that stands for one, and nothing otherwise, be
the queue empty or the reply of no use. Apart from the asking, the run is the same as doing the jobs of
the replies one after another. -/
theorem turns_serve (n : Nat) (replies : List Reply) (s : σ) :
    let run := (turns b clock base reporter queue n).run ⟨replies, s⟩
    let alone := ((jobs replies n).mapM fun job : Job => job.handle b clock base reporter).run s
    (∃ states : Nat → σ, states 0 = s ∧ run.state = ⟨replies.drop n, states n⟩ ∧
      run.value.length = n ∧ run.events = run.value.flatMap Prod.snd ∧
      ∀ i value events, run.value[i]? = some (value, events) → ∃ work,
        events = .pop queue :: work ∧
        Served b clock base reporter (replyAt replies i) (states i) value work (states (i + 1))) ∧
    withoutPops run.events = alone.events ∧ run.state.database = alone.state :=
  ⟨exists_states b clock base reporter queue n replies s,
    run_turns_eq_jobs b clock base reporter queue n replies s⟩

/-- A job, a number, a text without data, and an empty queue. -/
def mixedReplies : List Reply :=
  [.text "\x7b\"data\":\x7b\x7d,\"from\":5,\"job_id\":\"j-1\"\x7d", .number 5,
    .text "\x7b\"job_id\":\"j-2\"\x7d", .nothing]

/-- The job is done, the number and the text are refused, and the queue is found empty. -/
theorem turns_serve_mixed :
    let job : Job := ⟨"j-1", .object [], ⟨none, none, false⟩⟩
    let base := Config.ofCredentials "bolt://h" "neo4j" "p"
    let run := (turns Upload.idle ⟨⟨0, 0⟩, ⟨0, 0⟩⟩ base .listening "q" 4).run ⟨mixedReplies, ()⟩
    ∃ first second third fourth, run.value = [first, second, third, fourth] ∧
      first.1 = .ok true ∧ (∃ e, second = (.error e, [.pop "q"])) ∧
      (∃ e, third = (.error e, [.pop "q"])) ∧ fourth = (.ok false, [.pop "q"]) ∧
      withoutPops run.events =
        ((job.handle Upload.idle ⟨⟨0, 0⟩, ⟨0, 0⟩⟩ base .listening).run ()).events := by
  intro job base
  have hjobs : jobs mixedReplies 4 = [job] := by decide +kernel
  have hjob : (replyAt mixedReplies 0).held? = some job := by decide +kernel
  have hnumber : replyAt mixedReplies 1 = .number 5 := rfl
  have htext : (replyAt mixedReplies 2).held? = none := by decide +kernel
  have hserve := turns_serve Upload.idle ⟨⟨0, 0⟩, ⟨0, 0⟩⟩ base .listening "q" 4 mixedReplies ()
  generalize (turns Upload.idle ⟨⟨0, 0⟩, ⟨0, 0⟩⟩ base .listening "q" 4).run ⟨mixedReplies, ()⟩ = run
    at hserve ⊢
  obtain ⟨⟨states, -, -, hlength, -, hturns⟩, halone, -⟩ := hserve
  rw [hjobs, List.mapM_cons, List.mapM_nil] at halone
  simp only [Action.run_bind, Action.run_pure, List.append_nil] at halone
  obtain ⟨values, events, w⟩ := run
  match values, hlength with
  | [first, second, third, fourth], _ =>
    obtain ⟨_, -, hfirst⟩ := hturns 0 first.1 first.2 rfl
    obtain ⟨_, hsecond, hserved⟩ := hturns 1 second.1 second.2 rfl
    obtain ⟨⟨e, he⟩, rfl⟩ := hserved.refused (by rw [hnumber]; rfl) (by rw [hnumber]; nofun)
    obtain ⟨_, hthird, hserved'⟩ := hturns 2 third.1 third.2 rfl
    obtain ⟨⟨e', he'⟩, rfl⟩ := hserved'.refused htext nofun
    obtain ⟨_, hfourth, hempty⟩ := hturns 3 fourth.1 fourth.2 rfl
    have hvalue := hempty.empty_iff.mpr rfl
    obtain ⟨rfl, -⟩ := hempty.idle (hvalue ▸ nofun)
    exact ⟨first, second, third, fourth, rfl, hfirst.done_iff.mpr ⟨job, hjob⟩, ⟨e, Prod.ext he hsecond⟩,
      ⟨e', Prod.ext he' hthird⟩, Prod.ext hvalue hfourth, halone⟩

end Queue
end GraphLoad
