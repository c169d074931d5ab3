import GraphLoad.Proofs.Json.Arranged
import GraphLoad.Proofs.Upload.Account
import GraphLoad.Proofs.Upload.Percentage
import GraphLoad.Worker.Job

/-!
# What is reported on a job

A job that is done with somebody listening is reported in one form only (`handle_reports`): it is under
way; after a statement the percentage, if it has risen; and at the end one update that says what became
of the upload. Behind it all stands the run of the statements (`Upload.Runs`), along which the percentage
does not fall.
-/

namespace GraphLoad

/-- What is seen of what a worker does. All is seen but the entries of the log. -/
def Worker.Event.visible? : Worker.Event → Option Worker.Event
  | .log _ => none
  | event => some event

/-- A statement that was run: the account after it, and the percentage that was reported then, if any. -/
structure Job.Progress where
  statement : Statement
  account : UploadResult
  reported : Option Nat

namespace Job

open Upload (Cleared Ends Runs Written accounts accounts_visible)

/-- What is seen of a statement. -/
def Progress.events (id database : String) (p : Progress) : List Worker.Event :=
  .call (.execute database p.statement) ::
    (p.reported.map fun percent => .update id ⟨some .processing, some percent, none, none⟩).toList

/-- The percentages reported. -/
def percents (steps : List Progress) : List Nat :=
  steps.filterMap (·.reported)

/-! ## Accounts -/

theorem recordsTotal_account (position total : Nat) (outcome : Except Failure Counters)
    (r : UploadResult) :
    (Upload.account position total outcome r).recordsTotal = r.recordsTotal := by
  cases outcome <;> rfl

theorem recordsCompleted_account (position total : Nat) (outcome : Except Failure Counters)
    (r : UploadResult) :
    r.recordsCompleted ≤ (Upload.account position total outcome r).recordsCompleted ∧
      (Upload.account position total outcome r).recordsCompleted ≤ r.recordsCompleted + 1 := by
  cases outcome with
  | ok counters => exact ⟨Nat.le_succ _, Nat.le_refl _⟩
  | error f => exact ⟨Nat.le_refl _, Nat.le_succ _⟩

/-! ## What is made of an upload's events -/

variable {id : String} {last : Nat} {events : List Upload.Event}

theorem filterMap_visible_relay (id : String) (last : Nat) (events : List Upload.Event) :
    (relay .listening id last events).filterMap Worker.Event.visible? =
      relay .listening id last (events.filterMap Upload.visible?) := by
  induction events generalizing last with
  | nil => rfl
  | cons event rest ih =>
    cases event with
    | log entry => exact ih last
    | call call => exact congrArg (Worker.Event.call call :: ·) (ih last)
    | progress account =>
      show (relay .listening id last (.progress account :: rest)).filterMap _ =
        relay .listening id last (.progress account :: rest.filterMap Upload.visible?)
      rw [relay, relay]
      split
      · exact ih last
      · exact congrArg (Worker.Event.update id (.processing account.percent) :: ·) (ih _)

theorem relay_calls (reporter : Worker.Reporter) (calls : List Call) (events : List Upload.Event) :
    relay reporter id last (calls.map .call ++ events) =
      calls.map .call ++ relay reporter id last events := by
  induction calls with
  | nil => rfl
  | cons call rest ih => exact congrArg (Worker.Event.call call :: ·) ih

theorem accounts_calls (calls : List Call) (events : List Upload.Event) :
    accounts (calls.map .call ++ events) = accounts events := by
  induction calls with
  | nil => rfl
  | cons call rest ih => exact ih

/-! ## Statements -/

/-- The percentages reported rise from the last one before them on, up to a hundred at most, and the last
of them is that of the last account. The percentage of an account says how many of the statements
succeeded and is less than one off. -/
structure Rising (last : Nat) (steps : List Progress) : Prop where
  rising : (last :: percents steps).Pairwise (· < ·)
  bounded : ∀ percent ∈ percents steps, percent ≤ 100
  reached : ∀ step, steps.getLast? = some step →
    (percents steps).getLast?.getD last = step.account.percent
  near : ∀ step ∈ steps, step.account.recordsTotal < 2 ^ 53 →
    UploadResult.Near step.account.percent step.account

/-- A number, if it is another one than the last. -/
def changed (last n : Nat) : Option Nat :=
  if n = last then none else some n

/-- What is reported after a statement, given the percentage reported last. -/
def Progress.after (last : Nat) (statement : Statement) (account : UploadResult) : Progress :=
  ⟨statement, account, changed last account.percent⟩

variable {statement : Statement} {account : UploadResult} {steps : List Progress}

theorem changed_self (last : Nat) : changed last last = none :=
  if_pos rfl

theorem changed_of_ne {n : Nat} (h : n ≠ last) : changed last n = some n :=
  if_neg h

theorem percents_cons (p : Progress) (steps : List Progress) :
    percents (p :: steps) = p.reported.toList ++ percents steps := by
  rw [percents, percents, List.filterMap_cons]
  cases p.reported <;> rfl

theorem rising_nil (last : Nat) : Rising last [] :=
  ⟨List.pairwise_singleton _ _, nofun, nofun, nofun⟩

theorem Rising.cons {p : Progress} {percent : Nat} (h : Rising percent steps)
    (hpercent : p.account.percent = percent) (hreported : p.reported = changed last percent)
    (hlast : last ≤ percent) (hbound : percent ≤ 100)
    (hnear : p.account.recordsTotal < 2 ^ 53 → UploadResult.Near percent p.account) :
    Rising last (p :: steps) := by
  have hreached : ∀ step, (p :: steps).getLast? = some step →
      (percents steps).getLast?.getD percent = step.account.percent := by
    intro step hstep
    rw [List.getLast?_cons] at hstep
    obtain rfl := Option.some.inj hstep
    cases hsteps : steps.getLast? with
    | none =>
      rw [List.getLast?_eq_none_iff.mp hsteps, Option.getD_none, hpercent]
      rfl
    | some step => exact h.reached step hsteps
  have hall := List.forall_mem_cons.mpr ⟨hpercent.symm ▸ hnear, h.near⟩
  have hpercents := percents_cons p steps
  rw [hreported] at hpercents
  rcases hlast.eq_or_lt with rfl | hlt
  · rw [changed_self] at hpercents
    exact ⟨hpercents ▸ h.rising, hpercents ▸ h.bounded, hpercents ▸ hreached, hall⟩
  · rw [changed_of_ne hlt.ne', Option.toList_some, List.singleton_append] at hpercents
    refine ⟨?_, ?_, fun step hstep => ?_, hall⟩
    · rw [hpercents]
      refine List.pairwise_cons.mpr ⟨fun n hn => ?_, h.rising⟩
      rcases List.mem_cons.mp hn with rfl | hn
      · exact hlt
      · exact hlt.trans ((List.pairwise_cons.mp h.rising).1 n hn)
    · rw [hpercents]
      exact List.forall_mem_cons.mpr ⟨hbound, h.bounded⟩
    · rw [hpercents, List.getLast?_cons, Option.getD_some]
      exact hreached step hstep

variable {σ : Type} {b : Backend σ} {clock : Upload.Clock} {c : Config} {payload : Json}
  {database : String} {total position : Nat} {statements : List Statement} {s s' : σ}
  {r r' : UploadResult} {seen : List Upload.Event} {outcome : Except UploadError UploadResult}

/-- A run of statements is reported step by step. -/
theorem exists_steps (id : String) (h : Runs b database total position statements s r seen s' r')
    (hlast : last ≤ r.percent) (hroom : r.recordsCompleted + statements.length ≤ r.recordsTotal) :
    ∃ steps, relay .listening id last seen = steps.flatMap (Progress.events id database) ∧
      accounts seen = steps.map (·.account) ∧ steps.map (·.statement) = statements ∧
      Rising last steps := by
  induction h generalizing last with
  | nil => exact ⟨[], rfl, rfl, rfl, rising_nil last⟩
  | @cons position statement rest s s' r r' next seen hnext _ ih =>
    have htotal : next.recordsTotal = r.recordsTotal := by
      rw [hnext, recordsTotal_account]
    obtain ⟨hgrows, hone⟩ := recordsCompleted_account position total
      (b.execute statement database s).outcome r
    rw [← hnext] at hgrows hone
    rw [List.length_cons] at hroom
    have hpos : 0 < next.recordsTotal := by omega
    have hcompleted : next.recordsCompleted ≤ next.recordsTotal := by omega
    have hpercent : r.percent ≤ next.percent :=
      UploadResult.percent_le_percent htotal.symm hcompleted hgrows
    obtain ⟨steps, hevents, haccounts, hstatements, hrising⟩ := ih (Nat.le_refl _) (by omega)
    refine ⟨.after last statement next :: steps, ?_, congrArg (next :: ·) haccounts,
      congrArg (statement :: ·) hstatements, hrising.cons rfl rfl (hlast.trans hpercent)
        (UploadResult.percent_le_hundred hcompleted)
        (UploadResult.near_percent hpos hcompleted)⟩
    rw [List.flatMap_cons, ← hevents, relay, relay, Progress.events, Progress.after]
    by_cases heq : next.percent = last
    · rw [if_pos heq, heq, changed_self]
      rfl
    · rw [if_neg heq, changed_of_ne heq]
      rfl

/-! ## Uploads -/

/-- No statement is run by these calls. -/
def NoStatement (calls : List Call) : Prop :=
  ∀ database statement, .execute database statement ∉ calls

theorem exists_calls_of_cleared (h : Cleared b c s seen s') :
    ∃ calls, seen = calls.map .call ∧ NoStatement calls := by
  cases h with
  | kept => exact ⟨[], rfl, nofun⟩
  | emptied => exact ⟨[.reset c.database], rfl, by simp [NoStatement]⟩

/-- An upload makes calls that run no statement, and then runs statements; if it is given up there are
none. -/
theorem exists_runs_of_ends (h : Ends b clock c payload s outcome seen s') :
    ∃ calls statements s₁ s₂ r ran, seen = calls.map .call ++ ran ∧ NoStatement calls ∧
      Runs b c.database statements.length 1 statements s₁ (.start clock.start statements.length) ran
        s₂ r ∧
      ∀ e, outcome = .error e → statements = [] := by
  have none_ran (calls : List Call) (hcalls : NoStatement calls) (s : σ) :
      ∃ calls' statements s₁ s₂ r ran, calls.map Upload.Event.call = calls'.map .call ++ ran ∧
        NoStatement calls' ∧
        Runs b c.database statements.length 1 statements s₁ (.start clock.start statements.length)
          ran s₂ r ∧
        ∀ e, outcome = .error e → statements = [] :=
    ⟨calls, [], s, s, _, [], (List.append_nil _).symm, hcalls, .nil, fun _ _ => rfl⟩
  cases h with
  | rejectedConfig => exact none_ran [] nofun s
  | unreachable | rejectedPayload => exact none_ran [.verify] (by simp [NoStatement]) s
  | written _ _ _ hwritten =>
    cases hwritten with
    | notEmptied => exact none_ran [.verify, .reset c.database] (by simp [NoStatement]) s
    | uncompilable hcleared | nothing hcleared =>
      obtain ⟨calls, rfl, hcalls⟩ := exists_calls_of_cleared hcleared
      exact none_ran (.verify :: calls) (by simpa [NoStatement] using hcalls) s
    | executed hcleared _ _ hruns =>
      obtain ⟨calls, rfl, hcalls⟩ := exists_calls_of_cleared hcleared
      exact ⟨.verify :: calls, _, _, _, _, _, rfl, by simpa [NoStatement] using hcalls, hruns, nofun⟩

/-! ## Jobs -/

/-- The form in which a job is reported: it is under way; calls that run no statement; statements, each
with the percentage if it has risen; the final update. -/
structure Reported (job : Job) (database : String) (seen : List Worker.Event)
    (steps : List Progress) (final : StatusUpdate) : Prop where
  seen_eq : ∃ calls, NoStatement calls ∧
    seen = .update job.id ⟨some .processing, some 0, none, none⟩ :: calls.map .call ++
      steps.flatMap (Progress.events job.id database) ++ [.update job.id final]
  rising : Rising 0 steps

/-- An account in an update. -/
def summary (r : UploadResult) : Json :=
  .object [
    ("error_message", .string r.errorMessage),
    ("finished_at", (r.finishedAt.map fun t => .string t.text).getD .null),
    ("nodes_created", .number (.int r.nodesCreated)),
    ("properties_set", .number (.int r.propertiesSet)),
    ("records_completed", .number (.int r.recordsCompleted)),
    ("records_total", .number (.int r.recordsTotal)),
    ("relationships_created", .number (.int r.relationshipsCreated)),
    ("seconds_to_complete", (r.secondsToComplete.map fun d => .number (.real d)).getD .null),
    ("started_at", .string r.startedAt.text),
    ("was_successful", .bool r.wasSuccessful)]

theorem orNull_eq_getD (v : Option Json) : Json.orNull v = v.getD .null := by
  cases v <;> rfl

theorem toJson_eq_summary (r : UploadResult) : r.toJson = summary r := by
  have hsorted : ["error_message", "finished_at", "nodes_created", "properties_set",
      "records_completed", "records_total", "relationships_created", "seconds_to_complete", "started_at",
      "was_successful"].Pairwise (· < ·) := by decide
  refine congrArg Json.object (Fields.Sorted.ofList_eq_of_perm hsorted ?_)
  rw [orNull_eq_getD, orNull_eq_getD, List.perm_iff_count]
  intro entry
  simp only [List.count_cons, List.count_nil]
  ac_rfl

/-- The final update agrees with the outcome of the upload and with what is given back. -/
structure Agrees (outcome : Except UploadError UploadResult) (value : Option UploadResult)
    (final : StatusUpdate) : Prop where
  completed_iff (json : Json) : final = ⟨some .completed, some 100, some json, none⟩ ↔
    ∃ r, value = some r ∧ r.wasSuccessful = true ∧ summary r = json
  failed_iff (text : String) (json : Json) :
    final = ⟨some .failed, none, some json, some text⟩ ↔
      ∃ r, value = some r ∧ r.wasSuccessful = false ∧ r.errorMessage = text ∧ summary r = json
  rejected_iff (text : String) : final = ⟨some .failed, none, none, some text⟩ ↔
    value = none ∧ ∃ e, outcome = .error e ∧ e.message = text
  none_iff : value = none ↔ ∃ e, outcome = .error e

theorem exists_agrees (outcome : Except UploadError UploadResult) :
    ∃ final, Agrees outcome outcome.toOption final ∧ ∀ id,
      (closing .listening id outcome).filterMap Worker.Event.visible? = [.update id final] := by
  cases outcome with
  | error e =>
    refine ⟨⟨some .failed, none, none, some e.message⟩, ⟨?_, ?_, ?_, ?_⟩, fun id => rfl⟩ <;>
      simp [Except.toOption]
  | ok r =>
    cases hsuccess : r.wasSuccessful with
    | true =>
      refine ⟨⟨some .completed, some 100, some (summary r), none⟩, ⟨?_, ?_, ?_, ?_⟩, fun id => ?_⟩
      case refine_5 =>
        rw [closing, if_pos hsuccess, toJson_eq_summary]
        rfl
      all_goals simp [Except.toOption, hsuccess]
    | false =>
      refine ⟨⟨some .failed, none, some (summary r), some r.errorMessage⟩, ⟨?_, ?_, ?_, ?_⟩,
        fun id => ?_⟩
      case refine_5 =>
        rw [closing, if_neg (Bool.eq_false_iff.mp hsuccess), toJson_eq_summary]
        rfl
      all_goals simp [Except.toOption, hsuccess, and_comm]

/-- A job that is done with somebody listening is reported in order: that it is under way, before any
call; the percentage after a statement if it differs from the last, so that the percentages rise strictly
from zero to that of the last account; and at last, after all calls, one update that agrees with what is
given back. Nothing is given back if and only if the upload was given up, and then no statement ran. -/
theorem handle_reports (b : Backend σ) (clock : Upload.Clock) (base : Config) (job : Job) (s : σ) :
    let upload := (Upload.upload b clock (job.config base) job.data).run s
    let run := (job.handle b clock base .listening).run s
    ∃ steps final,
      Reported job (job.config base).database (run.events.filterMap Worker.Event.visible?) steps final ∧
      accounts upload.events = steps.map (·.account) ∧ Agrees upload.value run.value final ∧
      (run.value = none → steps = []) := by
  intro upload run
  obtain ⟨outcome, seen, s', hends⟩ := Upload.exists_ends b clock (job.config base) job.data s
  obtain ⟨hvalue, hseen, -⟩ := hends.shows
  obtain ⟨calls, statements, s₁, s₂, r, ran, rfl, hcalls, hruns, hgivenUp⟩ := exists_runs_of_ends hends
  obtain ⟨steps, hevents, haccounts, hstatements, hrising⟩ :=
    exists_steps job.id hruns (Nat.zero_le _) (Nat.le_of_eq (Nat.zero_add _))
  obtain ⟨final, hagrees, hclosing⟩ := exists_agrees outcome
  have hrun : run.events = .log (.info s!"📝 Processing upload job: {job.id}") ::
      .update job.id (.processing 0) ::
        (relay .listening job.id 0 upload.events ++ (closing .listening job.id upload.value ++ [])) :=
    rfl
  have hout : run.value = upload.value.toOption := rfl
  rw [hout, hvalue]
  refine ⟨steps, final, ⟨⟨calls, hcalls, ?_⟩, hrising⟩, ?_, hagrees, fun hnone => ?_⟩
  · rw [hrun, List.append_nil, List.filterMap_cons, List.filterMap_cons, List.filterMap_append,
      filterMap_visible_relay, hseen, relay_calls, hevents, hvalue, hclosing]
    rfl
  · rw [← haccounts, ← accounts_calls calls ran, ← hseen, accounts_visible]
  · obtain ⟨e, he⟩ := hagrees.none_iff.mp hnone
    rw [hgivenUp e he] at hstatements
    exact List.map_eq_nil_iff.mp hstatements

/-- A job of three statements. -/
def threeRecords : Job where
  id := "j-1"
  data := .object [("nodes", .array [.object [("key", .string "uid"),
    ("labels", .array [.string "Person"]), ("records", .array [.object [("uid", .string "a")],
      .object [("uid", .string "b")], .object [("uid", .string "c")]])]])]
  options := ⟨none, some 1, false⟩

/-- The second of three statements fails: a third is reported once, then two thirds, and the account is
sent with the error. -/
theorem handle_reports_scripted :
    let script : List (Except Failure Counters) := [.ok ⟨1, 0, 1⟩, .error (.of "gone"), .ok ⟨1, 0, 1⟩]
    let run := (threeRecords.handle Upload.scripted ⟨⟨0, 0⟩, ⟨9, 0⟩⟩
      (.ofCredentials "bolt://h" "neo4j" "p") .listening).run script
    ∃ steps final r, Reported threeRecords "neo4j" (run.events.filterMap Worker.Event.visible?) steps
        final ∧
      steps.map (·.account.percent) = [33, 33, 67] ∧ (percents steps).getLast? = some 67 ∧
      run.value = some r ∧ r.recordsCompleted = 2 ∧
      final = ⟨some .failed, none, some (summary r), some "Error processing batch 2 of 3: gone"⟩ := by
  intro script run
  obtain ⟨steps, final, hreported, haccounts, hagrees, -⟩ := handle_reports Upload.scripted
    ⟨⟨0, 0⟩, ⟨9, 0⟩⟩ (.ofCredentials "bolt://h" "neo4j" "p") threeRecords script
  have hvalue : run.value = some ⟨⟨0, 0⟩, some ⟨9, 0⟩,
      some (UploadResult.secondsBetween ⟨0, 0⟩ ⟨9, 0⟩), 3, 2, 2, 0, 2, false,
      "Error processing batch 2 of 3: gone"⟩ := by decide +kernel
  have hpercents : steps.map (·.account.percent) = [33, 33, 67] := by
    have hmapped := congrArg (List.map UploadResult.percent) haccounts
    rw [List.map_map] at hmapped
    exact hmapped.symm.trans (by decide +kernel)
  have hlast : (percents steps).getLast? = some 67 := by
    have hfinal := congrArg List.getLast? hpercents
    rw [List.getLast?_map] at hfinal
    obtain ⟨step, hstep, hpercent⟩ := Option.map_eq_some_iff.mp hfinal
    have hreached := (hreported.rising.reached step hstep).trans hpercent
    cases hreports : (percents steps).getLast? with
    | none =>
      rw [hreports] at hreached
      cases hreached
    | some percent =>
      rw [hreports] at hreached
      exact congrArg some hreached
  exact ⟨steps, final, _, hreported, hpercents, hlast, hvalue, rfl,
    (hagrees.failed_iff _ _).mpr ⟨_, hvalue, rfl, rfl, rfl⟩⟩

end Job
end GraphLoad
