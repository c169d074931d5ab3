import GraphLoad.Proofs.Specification.Round
import GraphLoad.Upload.Upload

/-!
# The calls of an upload

What an upload asks of its backend, stage by stage. `upload_cases` takes an upload apart into its
stages; each stage has one lemma about its calls. `resets_of_rejected` says which rejected uploads
leave the database alone: all of them, except those of a payload that cannot be compiled, where the
database was to be overwritten. By then it is emptied already (`reset_before_rejected`).
-/

namespace GraphLoad.Upload

/-- The calls of the backend among what happens. -/
def calls (events : List Event) : List Call :=
  events.filterMap fun
    | .call call => some call
    | .log _ | .progress _ => none

variable {σ α : Type}

@[simp]
theorem calls_append (a b : List Event) : calls (a ++ b) = calls a ++ calls b :=
  List.filterMap_append

@[simp]
theorem calls_logs (entries : List Log.Entry) : calls (entries.map .log) = [] := by
  rw [calls, List.filterMap_map]
  exact List.filterMap_eq_nil_iff.mpr fun _ _ => rfl

/-! ## One step -/

@[simp]
theorem run_say (entries : List Log.Entry) (s : σ) :
    (say entries : Step σ Unit).run s = ⟨(), entries.map .log, s⟩ := rfl

@[simp]
theorem run_ask (call : Call) (answer : σ → Answer σ α) (s : σ) :
    (ask call answer).run s =
      ⟨(answer s).outcome, .call call :: (answer s).log.map .log, (answer s).state⟩ := rfl

theorem calls_ask (call : Call) (answer : σ → Answer σ α) (s : σ) :
    calls ((ask call answer).run s).events = [call] := by
  show call :: calls ((answer s).log.map .log) = [call]
  rw [calls_logs]

variable (b : Backend σ) (clock : Clock) (c : Config) (payload : Json) (s : σ)

/-! ## The stages -/

theorem calls_runFrom (database : String) (total position : Nat) (statements : List Statement)
    (r : UploadResult) :
    calls ((runFrom b database total position statements r).run s).events =
      statements.map (.execute database) := by
  induction statements generalizing position r s with
  | nil => rfl
  | cons statement rest ih =>
    rw [runFrom, Action.run_bind]
    dsimp only
    rw [calls_append, calls_ask]
    simp only [Action.run_bind, run_say, Action.run_emit, calls_append, calls_logs, ih]
    rfl

theorem calls_execute (database : String) (statements : List Statement) :
    calls ((execute b clock database statements).run s).events =
      statements.map (.execute database) := by
  simp only [execute, Action.run_bind, run_say, Action.run_pure, calls_append, calls_logs,
    calls_runFrom, List.nil_append, List.append_nil]

theorem calls_clear :
    calls ((clear b c).run s).events = if c.overwrite then [.reset c.database] else [] := by
  rw [clear]
  split
  · rw [Action.run_bind]
    dsimp only
    rw [run_say, calls_append, calls_logs, calls_ask, List.nil_append]
  · rfl

/-- Writing a specification ends after the database was cleared, after the compilation, or behind
the last statement. -/
theorem write_cases (spec : Specification) :
    (∃ f, ((clear b c).run s).value = .error f ∧
      ((write b clock c spec).run s).value = .error (.reset f) ∧
      calls ((write b clock c spec).run s).events = calls ((clear b c).run s).events) ∨
    (∃ e, ((clear b c).run s).value = .ok () ∧ spec.compile c.maxBatchSize = .error e ∧
      ((write b clock c spec).run s).value = .error (.configuration e) ∧
      calls ((write b clock c spec).run s).events = calls ((clear b c).run s).events) ∨
    ∃ statements r, ((clear b c).run s).value = .ok () ∧
      spec.compile c.maxBatchSize = .ok statements ∧
      ((write b clock c spec).run s).value = .ok r ∧
      calls ((write b clock c spec).run s).events =
        calls ((clear b c).run s).events ++ statements.map (.execute c.database) := by
  rw [write, Action.run_bind]
  dsimp only
  cases hclear : ((clear b c).run s).value with
  | error f =>
    refine .inl ⟨f, rfl, rfl, ?_⟩
    rw [calls_append]
    exact List.append_nil _
  | ok =>
    dsimp only
    cases hcompile : spec.compile c.maxBatchSize with
    | error e =>
      refine .inr (.inl ⟨e, rfl, rfl, rfl, ?_⟩)
      simp only [Action.run_bind, run_say, Action.run_pure, calls_append, calls_logs,
        List.append_nil]
    | ok statements =>
      cases statements with
      | nil =>
        refine .inr (.inr ⟨[], noData clock, rfl, rfl, rfl, ?_⟩)
        simp only [Action.run_bind, run_say, Action.run_pure, calls_append, calls_logs,
          List.append_nil, List.map_nil]
      | cons statement rest =>
        refine .inr (.inr ⟨_, _, rfl, rfl, rfl, ?_⟩)
        simp only [Action.run_bind, run_say, Action.run_map, calls_append, calls_logs,
          calls_execute, List.nil_append]

/-- An upload ends at the check of the config, at the first call, at the check of the payload, or
with the writing. -/
theorem upload_cases :
    (∃ e, c.validate = .error e ∧
      ((upload b clock c payload).run s).value = .error (.invalidCredentials e) ∧
      calls ((upload b clock c payload).run s).events = []) ∨
    (∃ f, c.validate = .ok () ∧ (b.verify s).outcome = .error f ∧
      ((upload b clock c payload).run s).value = .error (.connectivity f) ∧
      calls ((upload b clock c payload).run s).events = [.verify]) ∨
    (∃ e, c.validate = .ok () ∧ (b.verify s).outcome = .ok () ∧
      Specification.ofJson payload = .error e ∧
      ((upload b clock c payload).run s).value = .error (.invalidPayload e) ∧
      calls ((upload b clock c payload).run s).events = [.verify]) ∨
    ∃ spec, c.validate = .ok () ∧ (b.verify s).outcome = .ok () ∧
      Specification.ofJson payload = .ok spec ∧
      ((upload b clock c payload).run s).value =
        ((write b clock c spec).run (b.verify s).state).value ∧
      calls ((upload b clock c payload).run s).events =
        .verify :: calls ((write b clock c spec).run (b.verify s).state).events := by
  rw [upload]
  cases hconfig : c.validate with
  | error e => exact .inl ⟨e, rfl, rfl, rfl⟩
  | ok =>
    refine .inr ?_
    dsimp only
    rw [Action.run_bind]
    dsimp only
    rw [calls_append, calls_ask, run_ask]
    dsimp only
    cases hverify : (b.verify s).outcome with
    | error f => exact .inl ⟨f, rfl, rfl, rfl, rfl⟩
    | ok =>
      refine .inr ?_
      cases hpayload : Specification.ofJson payload with
      | error e => exact .inl ⟨e, rfl, rfl, rfl, rfl, rfl⟩
      | ok spec => exact .inr ⟨spec, rfl, rfl, rfl, rfl, rfl⟩

/-! ## Rejected uploads -/

variable {b clock c payload s}

/-- An upload that is rejected, other than by the reset itself, executes nothing. It leaves the
database as it is if and only if it was not to be overwritten or was rejected before the
compilation. -/
theorem resets_of_rejected {e : UploadError}
    (h : ((upload b clock c payload).run s).value = .error e) (he : ∀ f, e ≠ .reset f) :
    (∀ database statement,
      .execute database statement ∉ calls ((upload b clock c payload).run s).events) ∧
    ((∀ database, .reset database ∉ calls ((upload b clock c payload).run s).events) ↔
      (c.overwrite → ∀ cause, e ≠ .configuration cause)) := by
  rcases upload_cases b clock c payload s with ⟨e', -, hvalue, hcalls⟩ | ⟨f, -, -, hvalue, hcalls⟩ |
    ⟨e', -, -, -, hvalue, hcalls⟩ | ⟨spec, -, -, -, hvalue, hcalls⟩
  · obtain rfl := Except.error.inj (hvalue.symm.trans h)
    rw [hcalls]
    simp
  · obtain rfl := Except.error.inj (hvalue.symm.trans h)
    rw [hcalls]
    simp
  · obtain rfl := Except.error.inj (hvalue.symm.trans h)
    rw [hcalls]
    simp
  · rw [hcalls]
    rw [hvalue] at h
    rcases write_cases b clock c (b.verify s).state spec with ⟨f, -, hvalue, -⟩ |
      ⟨cause, -, -, hvalue, hcalls⟩ | ⟨_, _, -, -, hvalue, -⟩
    · exact absurd (Except.error.inj (h.symm.trans hvalue)) (he f)
    · obtain rfl := Except.error.inj (hvalue.symm.trans h)
      rw [hcalls, calls_clear]
      cases c.overwrite <;> simp
    · rw [hvalue] at h
      cases h

/-- A backend on which every call succeeds and nothing is written. -/
def idle : Backend Unit where
  verify s := ⟨.ok (), [], s⟩
  execute _ _ s := ⟨.ok ⟨0, 0, 0⟩, [], s⟩
  reset _ s := ⟨.ok (), [], s⟩

/-- What is no specification empties no database. -/
theorem resets_of_rejected_undecodable :
    ((upload idle ⟨⟨0, 0⟩, ⟨0, 0⟩⟩ { Config.ofCredentials "bolt://h" "neo4j" "p" with
        overwrite := true } .null).run ()).value =
      .error (.invalidPayload (.undecodable (.invalidType .null "struct GraphSpecification"))) ∧
    ∀ database, .reset database ∉ calls ((upload idle ⟨⟨0, 0⟩, ⟨0, 0⟩⟩
      { Config.ofCredentials "bolt://h" "neo4j" "p" with overwrite := true } .null).run ()).events := by
  refine ⟨rfl, ?_⟩
  exact (resets_of_rejected (e := .invalidPayload _) rfl nofun).2.mpr nofun

/-- A payload that cannot be compiled is rejected only after the database was emptied. -/
theorem reset_before_rejected :
    ¬∀ (b : Backend Unit) (clock : Clock) (c : Config) (payload : Json) (s : Unit)
      (e : UploadError), ((upload b clock c payload).run s).value = .error e →
      (∀ f, e ≠ .reset f) → ∀ database,
        .reset database ∉ calls ((upload b clock c payload).run s).events := by
  intro h
  have hexpand := RelationshipGroup.expand_of_expandAt_eq_error (g := ⟨"TAGGED",
    ⟨none, "uid", "from"⟩, ⟨none, "name", "tags"⟩,
    [[("from", .string "a"), ("tags", .array [.string "x"])]], [], true, true⟩)
    (p := ⟨.target, "tags", ""⟩) (by decide) rfl
  have hcompile : Specification.compile ⟨[], [⟨"TAGGED", ⟨none, "uid", "from"⟩,
      ⟨none, "name", "tags"⟩, [[("from", .string "a"), ("tags", .array [.string "x"])]], [], true,
      true⟩]⟩ Config.defaultBatchSize =
      .error (.expansion (.listAtEnd .target "tags" "TAGGED" "tags")) := by
    simp only [Specification.compile, Specification.groups, List.map_cons, List.map_nil,
      List.nil_append, List.mapM_cons, Group.statements, RelationshipGroup.statements,
      RelationshipGroup.batches, hexpand]
    rfl
  have hpayload : Specification.ofJson (.object [("relationships", .array [.object [
      ("from", .object [("node_key", .string "uid"), ("record_key", .string "from")]),
      ("records", .array [.object [("from", .string "a"), ("tags", .array [.string "x"])]]),
      ("to", .object [("node_key", .string "name"), ("record_key", .string "tags")]),
      ("type", .string "TAGGED")]])]) = .ok _ := rfl
  rcases upload_cases idle ⟨⟨0, 0⟩, ⟨0, 0⟩⟩
    { Config.ofCredentials "bolt://h" "neo4j" "p" with overwrite := true } _ () with
    ⟨e, he, -⟩ | ⟨f, -, hf, -⟩ | ⟨e, -, -, he, -⟩ | ⟨spec, -, -, hspec, hvalue, hcalls⟩
  · cases he
  · cases hf
  · rw [hpayload] at he
    cases he
  · obtain rfl := Except.ok.inj (hpayload.symm.trans hspec)
    rcases write_cases idle ⟨⟨0, 0⟩, ⟨0, 0⟩⟩
      { Config.ofCredentials "bolt://h" "neo4j" "p" with overwrite := true } () _ with
      ⟨f, hf, -⟩ | ⟨cause, -, -, hwrite, hwritten⟩ | ⟨_, _, -, hok, -⟩
    · cases hf
    · refine h _ _ _ _ _ _ (hvalue.trans hwrite) nofun "neo4j" ?_
      rw [hcalls, hwritten, calls_clear]
      decide
    · cases hcompile.symm.trans hok

end GraphLoad.Upload
