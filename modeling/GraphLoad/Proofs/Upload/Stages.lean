import GraphLoad.Proofs.Action
import GraphLoad.Upload.Upload

/-!
# The stages of an upload

`Ends` lists the ways in which an upload ends, each with the calls and the accounts that can be seen
until then and with its outcome. `shows_upload_iff`: an upload ends in one of these ways, and in no
other. Statements run one after another whether or not those before them succeeded (`Runs`).
-/

namespace GraphLoad.Upload

open GraphLoad.Action (gives_pure gives_emit gives_emit_map)

variable {σ α : Type}

/-! ## What can be seen -/

/-- What is seen of an event. All are seen but the entries of the log. -/
def visible? : Event → Option Event
  | .log _ => none
  | event => some event

/-- The accounts that an upload hands on. -/
def accounts (events : List Event) : List UploadResult :=
  events.filterMap fun
    | .progress account => some account
    | .log _ | .call _ => none

theorem accounts_visible (events : List Event) :
    accounts (events.filterMap visible?) = accounts events := by
  rw [accounts, accounts, List.filterMap_filterMap]
  congr 1
  funext event
  cases event <;> rfl

/-- From a state the step gives this value, with these calls and accounts, and leaves this state. -/
abbrev Shows (a : Step σ α) (s : σ) (value : α) (seen : List Event) (s' : σ) : Prop :=
  a.Gives visible? s value seen s'

theorem shows_say (entries : List Log.Entry) (s : σ) : Shows (say entries : Step σ Unit) s () [] s :=
  gives_emit_map (fun _ => rfl) entries s

theorem shows_ask (call : Call) (answer : σ → Answer σ α) (s : σ) :
    Shows (ask call answer) s (answer s).outcome [.call call] (answer s).state := by
  have hlog := (shows_say (answer s).log s).seen
  exact ⟨rfl, congrArg (Event.call call :: ·) hlog, rfl⟩

/-! ## Statements -/

/-- The statements from a position on are run: each is called once, with the database, and the account
that includes its outcome is handed on once after the call. -/
inductive Runs (b : Backend σ) (database : String) (total : Nat) :
    Nat → List Statement → σ → UploadResult → List Event → σ → UploadResult → Prop
  | nil {position : Nat} {s : σ} {r : UploadResult} : Runs b database total position [] s r [] s r
  | cons {position : Nat} {statement : Statement} {rest : List Statement} {s s' : σ}
      {r r' next : UploadResult} {seen : List Event} :
    next = account position total (b.execute statement database s).outcome r →
    Runs b database total (position + 1) rest (b.execute statement database s).state next seen s' r' →
    Runs b database total position (statement :: rest) s r
      (.call (.execute database statement) :: .progress next :: seen) s' r'

variable {b : Backend σ} {clock : Clock} {c : Config} {payload : Json} {database : String}
  {total position : Nat} {statements : List Statement} {s s' : σ} {r r' : UploadResult}
  {seen : List Event}

theorem exists_runs (b : Backend σ) (database : String) (total position : Nat)
    (statements : List Statement) (s : σ) (r : UploadResult) :
    ∃ seen s' r', Runs b database total position statements s r seen s' r' := by
  induction statements generalizing position s r with
  | nil => exact ⟨[], s, r, .nil⟩
  | cons statement rest ih =>
    obtain ⟨seen, s', r', hrest⟩ := ih (position + 1) (b.execute statement database s).state
      (account position total (b.execute statement database s).outcome r)
    exact ⟨_, s', r', .cons rfl hrest⟩

theorem Runs.shows (h : Runs b database total position statements s r seen s' r') :
    Shows (runFrom b database total position statements r) s r' seen s' := by
  induction h with
  | nil => exact gives_pure _ _
  | cons hnext _ ih =>
    subst hnext
    exact (shows_ask _ _ _).bind ((shows_say _ _).bind ((gives_emit [_] _).bind ih))

/-- A run of statements, from its first account to the finished one. -/
theorem Runs.shows_execute
    (h : Runs b database statements.length 1 statements s (.start clock.start statements.length) seen
      s' r) :
    Shows (execute b clock database statements) s (r.finish clock.stop) seen s' := by
  rw [execute, ← List.nil_append seen, ← List.append_nil seen]
  exact (shows_say _ _).bind (h.shows.bind ((shows_say _ _).bind (gives_pure _ _)))

/-! ## Stages -/

/-- The database is ready: it is left alone, or it was to be emptied and has been. -/
inductive Cleared (b : Backend σ) (c : Config) (s : σ) : List Event → σ → Prop
  | kept : c.overwrite = false → Cleared b c s [] s
  | emptied : c.overwrite = true → (b.reset c.database s).outcome = .ok () →
    Cleared b c s [.call (.reset c.database)] (b.reset c.database s).state

/-- The ways in which the writing of a specification ends. -/
inductive Written (b : Backend σ) (clock : Clock) (c : Config) (spec : Specification) (s : σ) :
    Except UploadError UploadResult → List Event → σ → Prop
  | notEmptied {f : Failure} : c.overwrite = true → (b.reset c.database s).outcome = .error f →
    Written b clock c spec s (.error (.reset f)) [.call (.reset c.database)]
      (b.reset c.database s).state
  | uncompilable {e : CompileError} {seen : List Event} {s' : σ} : Cleared b c s seen s' →
    spec.compile c.maxBatchSize = .error e →
    Written b clock c spec s (.error (.configuration e)) seen s'
  | nothing {seen : List Event} {s' : σ} : Cleared b c s seen s' →
    spec.compile c.maxBatchSize = .ok [] → Written b clock c spec s (.ok (noData clock)) seen s'
  | executed {statements : List Statement} {seen ran : List Event} {s' s'' : σ} {r : UploadResult} :
    Cleared b c s seen s' → spec.compile c.maxBatchSize = .ok statements → statements ≠ [] →
    Runs b c.database statements.length 1 statements s' (.start clock.start statements.length) ran s''
      r →
    Written b clock c spec s (.ok ((execute b clock c.database statements).run s').value)
      (seen ++ ran) s''

/-- The ways in which an upload ends. -/
inductive Ends (b : Backend σ) (clock : Clock) (c : Config) (payload : Json) (s : σ) :
    Except UploadError UploadResult → List Event → σ → Prop
  | rejectedConfig {e : CredentialsError} : c.validate = .error e →
    Ends b clock c payload s (.error (.invalidCredentials e)) [] s
  | unreachable {f : Failure} : c.validate = .ok () → (b.verify s).outcome = .error f →
    Ends b clock c payload s (.error (.connectivity f)) [.call .verify] (b.verify s).state
  | rejectedPayload {e : PayloadError} : c.validate = .ok () → (b.verify s).outcome = .ok () →
    Specification.ofJson payload = .error e →
    Ends b clock c payload s (.error (.invalidPayload e)) [.call .verify] (b.verify s).state
  | written {spec : Specification} {value : Except UploadError UploadResult} {seen : List Event}
      {s' : σ} : c.validate = .ok () → (b.verify s).outcome = .ok () →
    Specification.ofJson payload = .ok spec →
    Written b clock c spec (b.verify s).state value seen s' →
    Ends b clock c payload s value (.call .verify :: seen) s'

variable {spec : Specification} {value : Except UploadError UploadResult}

theorem Cleared.shows (h : Cleared b c s seen s') : Shows (clear b c) s (.ok ()) seen s' := by
  cases h with
  | kept hkeep =>
    rw [clear, if_neg (Bool.not_eq_true _ ▸ hkeep)]
    exact gives_pure _ _
  | emptied hempty hok =>
    rw [clear, if_pos hempty, ← hok]
    exact (shows_say _ _).bind (shows_ask _ _ _)

theorem Written.shows (h : Written b clock c spec s value seen s') :
    Shows (write b clock c spec) s value seen s' := by
  cases h with
  | @notEmptied f hempty hfail =>
    have hclear : Shows (clear b c) s (.error f) [.call (.reset c.database)]
        (b.reset c.database s).state := by
      rw [clear, if_pos hempty, ← hfail]
      exact (shows_say _ _).bind (shows_ask _ _ _)
    exact hclear.bind (gives_pure _ _)
  | uncompilable hcleared hcompile =>
    rw [← List.append_nil seen]
    refine hcleared.shows.bind ((shows_say _ _).bind ?_)
    rw [hcompile]
    exact gives_pure _ _
  | nothing hcleared hcompile =>
    rw [← List.append_nil seen]
    refine hcleared.shows.bind ((shows_say _ _).bind ?_)
    rw [hcompile]
    exact (shows_say _ _).bind (gives_pure _ _)
  | @executed statements _ _ _ _ _ hcleared hcompile hne hruns =>
    refine hcleared.shows.bind ((shows_say _ _).bind ?_)
    rw [hcompile, hruns.shows_execute.value]
    obtain ⟨statement, rest, rfl⟩ := List.exists_cons_of_ne_nil hne
    exact hruns.shows_execute.map _

theorem Ends.shows (h : Ends b clock c payload s value seen s') :
    Shows (upload b clock c payload) s value seen s' := by
  cases h with
  | rejectedConfig hconfig =>
    rw [upload, hconfig]
    exact gives_pure _ _
  | unreachable hconfig hverify =>
    rw [upload, hconfig, ← List.append_nil [Event.call .verify]]
    refine (shows_ask _ _ _).bind ?_
    rw [hverify]
    exact gives_pure _ _
  | rejectedPayload hconfig hverify hpayload =>
    rw [upload, hconfig, ← List.append_nil [Event.call .verify]]
    refine (shows_ask _ _ _).bind ?_
    rw [hverify, hpayload]
    exact gives_pure _ _
  | written hconfig hverify hpayload hwritten =>
    rw [upload, hconfig]
    refine (shows_ask .verify b.verify s).bind ?_
    rw [hverify, hpayload]
    exact hwritten.shows

/-! ## Every upload ends -/

theorem exists_cleared (b : Backend σ) (c : Config) (s : σ) :
    (∃ seen s', Cleared b c s seen s') ∨
      ∃ f, c.overwrite = true ∧ (b.reset c.database s).outcome = .error f := by
  cases hoverwrite : c.overwrite with
  | false => exact .inl ⟨_, _, .kept hoverwrite⟩
  | true =>
    cases hreset : (b.reset c.database s).outcome with
    | error f => exact .inr ⟨f, rfl, rfl⟩
    | ok => exact .inl ⟨_, _, .emptied hoverwrite hreset⟩

theorem exists_written (b : Backend σ) (clock : Clock) (c : Config) (spec : Specification) (s : σ) :
    ∃ value seen s', Written b clock c spec s value seen s' := by
  rcases exists_cleared b c s with ⟨seen, s', hcleared⟩ | ⟨f, hempty, hfail⟩
  · cases hcompile : spec.compile c.maxBatchSize with
    | error e => exact ⟨_, _, _, .uncompilable hcleared hcompile⟩
    | ok statements =>
      by_cases hne : statements = []
      · exact ⟨_, _, _, .nothing hcleared (hne ▸ hcompile)⟩
      · obtain ⟨ran, s'', r, hruns⟩ := exists_runs b c.database statements.length 1 statements s'
          (.start clock.start statements.length)
        exact ⟨_, _, _, .executed hcleared hcompile hne hruns⟩
  · exact ⟨_, _, _, .notEmptied hempty hfail⟩

theorem exists_ends (b : Backend σ) (clock : Clock) (c : Config) (payload : Json) (s : σ) :
    ∃ value seen s', Ends b clock c payload s value seen s' := by
  cases hconfig : c.validate with
  | error e => exact ⟨_, _, _, .rejectedConfig hconfig⟩
  | ok =>
    cases hverify : (b.verify s).outcome with
    | error f => exact ⟨_, _, _, .unreachable hconfig hverify⟩
    | ok =>
      cases hpayload : Specification.ofJson payload with
      | error e => exact ⟨_, _, _, .rejectedPayload hconfig hverify hpayload⟩
      | ok spec =>
        obtain ⟨value, seen, s', hwritten⟩ := exists_written b clock c spec (b.verify s).state
        exact ⟨_, _, _, .written hconfig hverify hpayload hwritten⟩

/-- An upload ends in one of these ways, with the calls, the accounts and the outcome that belong to
it, and in no other. Where there is nothing to write, the result is that of a finished upload of
nothing that was not successful. -/
theorem shows_upload_iff (b : Backend σ) (clock : Clock) (c : Config) (payload : Json) (s : σ) :
    (∀ value seen s', Shows (upload b clock c payload) s value seen s' ↔
      Ends b clock c payload s value seen s') ∧
    (noData clock).recordsTotal = 0 ∧ (noData clock).wasSuccessful = false ∧
      (noData clock).finishedAt = some clock.start ∧ (noData clock).errorMessage = noDataMessage := by
  refine ⟨fun value seen s' => ⟨fun h => ?_, Ends.shows⟩, rfl, rfl, rfl, rfl⟩
  obtain ⟨value', seen', s'', hends⟩ := exists_ends b clock c payload s
  obtain ⟨rfl, rfl, rfl⟩ := h.unique hends.shows
  exact hends

end GraphLoad.Upload
