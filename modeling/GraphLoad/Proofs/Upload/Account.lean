import GraphLoad.Proofs.Upload.Stages
import Mathlib.Data.List.Induction

/-!
# What the account of an upload says

After each statement the account stands for the replies so far (`Accounts`), whichever of them are
failures: each reply adds to it (`Accounts.step`), and so does a run (`Runs.accounts`). A line is noted for
each failure, so the account is without errors exactly if nothing failed (`Accounts.errorMessage_eq_iff`).
Counters only grow, so those that are numbers of 64 bits at the end are so all along
(`inRange_of_mem_accounts`).
-/

namespace GraphLoad.Upload

/-! ## Replies -/

/-- What the backend replies to statements that are run one after another. -/
def replies {σ : Type} (b : Backend σ) (database : String) :
    List Statement → σ → List (Except Failure Counters)
  | [], _ => []
  | statement :: rest, s =>
    let answer := b.execute statement database s
    answer.outcome :: replies b database rest answer.state

/-- The lines about the statements that failed, of so many. -/
def failures (total : Nat) (outcomes : List (Except Failure Counters)) : List String :=
  outcomes.zipIdx.filterMap fun
    | (.error f, i) => some s!"Error processing batch {i + 1} of {total}: {f.full}"
    | (.ok _, _) => none

/-- The sum of a counter over the statements that succeeded. -/
def sum (counter : Counters → Nat) (outcomes : List (Except Failure Counters)) : Nat :=
  (outcomes.filterMap Except.toOption).foldl (fun n c => n + counter c) 0

/-- The account stands for these outcomes of the first statements. -/
structure Accounts (total : Nat) (outcomes : List (Except Failure Counters)) (r : UploadResult) :
    Prop where
  recordsTotal : r.recordsTotal = total
  recordsCompleted : r.recordsCompleted + (failures total outcomes).length = outcomes.length
  nodesCreated : r.nodesCreated = sum (·.nodesCreated) outcomes
  relationshipsCreated : r.relationshipsCreated = sum (·.relationshipsCreated) outcomes
  propertiesSet : r.propertiesSet = sum (·.propertiesSet) outcomes
  errorMessage : r.errorMessage = "\n".intercalate (failures total outcomes)

/-- The account is one of an upload that has not ended. -/
structure UnderWay (r : UploadResult) : Prop where
  finishedAt : r.finishedAt = none
  secondsToComplete : r.secondsToComplete = none
  wasSuccessful : r.wasSuccessful = false

variable {σ : Type} {b : Backend σ} {database : String} {statements : List Statement}
  {total position : Nat} {outcomes before : List (Except Failure Counters)} {s s' : σ}
  {r r' : UploadResult} {seen : List Event}

theorem length_replies (b : Backend σ) (database : String) (statements : List Statement) (s : σ) :
    (replies b database statements s).length = statements.length := by
  induction statements generalizing s with
  | nil => rfl
  | cons statement rest ih => exact congrArg (· + 1) (ih _)

/-! ## Lines -/

theorem failures_append_ok (total : Nat) (outcomes : List (Except Failure Counters)) (c : Counters) :
    failures total (outcomes ++ [.ok c]) = failures total outcomes := by
  simp [failures, List.zipIdx_append]

theorem failures_append_error (total : Nat) (outcomes : List (Except Failure Counters)) (f : Failure) :
    failures total (outcomes ++ [.error f]) = failures total outcomes ++
      [s!"Error processing batch {outcomes.length + 1} of {total}: {f.full}"] := by
  simp [failures, List.zipIdx_append]

theorem failures_eq_nil_iff : failures total outcomes = [] ↔ ∀ outcome ∈ outcomes, outcome.isOk := by
  induction outcomes using List.reverseRecOn with
  | nil => simp [failures]
  | append_singleton outcomes outcome ih =>
    rw [List.forall_mem_append, List.forall_mem_singleton]
    cases outcome with
    | ok c => simp [failures_append_ok, ih, Except.isOk, Except.toBool]
    | error f => simp [failures_append_error, Except.isOk, Except.toBool]

theorem ne_empty_of_mem_failures {line : String} (h : line ∈ failures total outcomes) : line ≠ "" := by
  obtain ⟨⟨outcome, i⟩, -, hline⟩ := List.mem_filterMap.mp h
  cases outcome with
  | ok c => cases hline
  | error f =>
    rw [← Option.some.inj hline]
    simp

theorem intercalate_append_singleton (lines : List String) (line : String) :
    "\n".intercalate (lines ++ [line]) =
      (if lines = [] then "" else "\n".intercalate lines ++ "\n") ++ line := by
  induction lines with
  | nil => simp
  | cons x rest ih =>
    rw [if_neg (List.cons_ne_nil _ _), List.cons_append]
    cases rest with
    | nil => simp
    | cons y rest =>
      rw [if_neg (List.cons_ne_nil _ _), List.cons_append] at ih
      rw [List.cons_append, String.intercalate_cons_cons, ih, String.intercalate_cons_cons]
      simp only [String.append_assoc]

theorem intercalate_eq_empty_iff {lines : List String} (h : ∀ line ∈ lines, line ≠ "") :
    "\n".intercalate lines = "" ↔ lines = [] := by
  induction lines using List.reverseRecOn with
  | nil => simp
  | append_singleton lines line =>
    have hline := h line (List.mem_append_right _ List.mem_cons_self)
    simp [intercalate_append_singleton, hline]

/-! ## Accounts -/

theorem sum_append_ok (counter : Counters → Nat) (outcomes : List (Except Failure Counters))
    (c : Counters) : sum counter (outcomes ++ [.ok c]) = sum counter outcomes + counter c := by
  rw [sum, List.filterMap_append, List.foldl_append]
  rfl

theorem sum_append_error (counter : Counters → Nat) (outcomes : List (Except Failure Counters))
    (f : Failure) : sum counter (outcomes ++ [.error f]) = sum counter outcomes := by
  rw [sum, List.filterMap_append, List.foldl_append]
  rfl

theorem sum_append (counter : Counters → Nat) (outcomes others : List (Except Failure Counters)) :
    sum counter (outcomes ++ others) = sum counter outcomes + sum counter others := by
  induction others using List.reverseRecOn with
  | nil => rw [List.append_nil]; rfl
  | append_singleton others outcome ih =>
    rw [← List.append_assoc]
    cases outcome with
    | ok c => rw [sum_append_ok, sum_append_ok, ih, Nat.add_assoc]
    | error f => rw [sum_append_error, sum_append_error, ih]

theorem sum_take_le (counter : Counters → Nat) (outcomes : List (Except Failure Counters)) (k : Nat) :
    sum counter (outcomes.take k) ≤ sum counter outcomes := by
  have h := sum_append counter (outcomes.take k) (outcomes.drop k)
  rw [List.take_append_drop] at h
  omega

theorem accounts_start (startedAt : Instant) (total : Nat) :
    Accounts total [] (.start startedAt total) :=
  ⟨rfl, rfl, rfl, rfl, rfl, rfl⟩

theorem underWay_start (startedAt : Instant) (total : Nat) : UnderWay (.start startedAt total) :=
  ⟨rfl, rfl, rfl⟩

namespace Accounts

/-- There is an error in the account exactly if something failed. -/
theorem errorMessage_eq_iff (h : Accounts total outcomes r) :
    r.errorMessage = "" ↔ failures total outcomes = [] := by
  rw [h.errorMessage, intercalate_eq_empty_iff fun _ => ne_empty_of_mem_failures]

theorem recordsCompleted_eq_iff (h : Accounts total outcomes r) :
    r.recordsCompleted = outcomes.length ↔ failures total outcomes = [] := by
  rw [← h.recordsCompleted, ← List.length_eq_zero_iff]
  omega

/-- The account with one more outcome. -/
theorem step (h : Accounts total outcomes r) (outcome : Except Failure Counters) :
    Accounts total (outcomes ++ [outcome]) (account (outcomes.length + 1) total outcome r) := by
  cases outcome with
  | ok c =>
    constructor <;> simp only [account, UploadResult.addCounters, failures_append_ok, sum_append_ok]
    · exact h.recordsTotal
    · rw [List.length_append, ← h.recordsCompleted, List.length_singleton]
      omega
    · rw [h.nodesCreated]
    · rw [h.relationshipsCreated]
    · rw [h.propertiesSet]
    · exact h.errorMessage
  | error f =>
    have hempty : (r.errorMessage.isEmpty = true) = (failures total outcomes = []) :=
      propext (String.isEmpty_iff.trans h.errorMessage_eq_iff)
    constructor <;>
      simp only [account, UploadResult.pushError, failures_append_error, sum_append_error]
    · exact h.recordsTotal
    · rw [List.length_append, List.length_append, ← h.recordsCompleted, List.length_singleton,
        List.length_singleton, Nat.add_assoc]
    · exact h.nodesCreated
    · exact h.relationshipsCreated
    · exact h.propertiesSet
    · simp only [intercalate_append_singleton, ← h.errorMessage, hempty]

end Accounts

theorem UnderWay.step (h : UnderWay r) (position total : Nat) (outcome : Except Failure Counters) :
    UnderWay (account position total outcome r) := by
  cases outcome with
  | ok c => exact ⟨h.finishedAt, h.secondsToComplete, h.wasSuccessful⟩
  | error f => exact ⟨h.finishedAt, h.secondsToComplete, rfl⟩

/-- Statements are run with an account of those before them: each account that is handed on stands for
one reply more, and the last for all of them. -/
theorem Runs.accounts (h : Runs b database total position statements s r seen s' r')
    (hposition : position = before.length + 1) (hr : Accounts total before r) (hopen : UnderWay r) :
    (accounts seen).length = statements.length ∧
      (∀ k snapshot, (accounts seen)[k]? = some snapshot →
        Accounts total (before ++ (replies b database statements s).take (k + 1)) snapshot ∧
          UnderWay snapshot) ∧
      Accounts total (before ++ replies b database statements s) r' ∧ UnderWay r' := by
  induction h generalizing before with
  | nil => exact ⟨rfl, nofun, (List.append_nil before).symm ▸ hr, hopen⟩
  | @cons position statement rest s s' r r' next seen hnext _ ih =>
    subst hnext hposition
    have hnext := hr.step (b.execute statement database s).outcome
    have hopen' := hopen.step (before.length + 1) total (b.execute statement database s).outcome
    obtain ⟨hlength, hsnapshots, hlast⟩ := ih (by simp) hnext hopen'
    refine ⟨congrArg (· + 1) hlength, fun k snapshot hk => ?_, ?_⟩
    · cases k with
      | zero =>
        obtain rfl := Option.some.inj hk
        exact ⟨hnext, hopen'⟩
      | succ k =>
        have hsnapshot := hsnapshots k snapshot hk
        rwa [List.append_assoc] at hsnapshot
    · rwa [List.append_assoc] at hlast

/-- What holds of an account of all statements once it is finished. -/
structure Concludes (total : Nat) (outcomes : List (Except Failure Counters)) (stop : Instant)
    (r : UploadResult) : Prop extends Accounts total outcomes r where
  finishedAt : r.finishedAt = some stop
  wasSuccessful_iff : r.wasSuccessful ↔ r.errorMessage = ""
  errorMessage_eq_iff : r.errorMessage = "" ↔ ∀ outcome ∈ outcomes, outcome.isOk
  recordsCompleted_eq_iff : r.recordsCompleted = r.recordsTotal ↔ ∀ outcome ∈ outcomes, outcome.isOk

theorem Accounts.finish (h : Accounts outcomes.length outcomes r) (stop : Instant) :
    Concludes outcomes.length outcomes stop (r.finish stop) where
  recordsTotal := h.recordsTotal
  recordsCompleted := h.recordsCompleted
  nodesCreated := h.nodesCreated
  relationshipsCreated := h.relationshipsCreated
  propertiesSet := h.propertiesSet
  errorMessage := h.errorMessage
  finishedAt := rfl
  wasSuccessful_iff := String.isEmpty_iff
  errorMessage_eq_iff := h.errorMessage_eq_iff.trans failures_eq_nil_iff
  recordsCompleted_eq_iff := by
    have hnil : failures outcomes.length outcomes = [] ↔ ∀ outcome ∈ outcomes, outcome.isOk :=
      failures_eq_nil_iff
    rw [← hnil, ← h.recordsCompleted_eq_iff]
    show r.recordsCompleted = r.recordsTotal ↔ _
    rw [h.recordsTotal]

/-- A run of statements hands on one account after each of them, and ends with one of them all. -/
theorem accounts_execute (b : Backend σ) (clock : Clock) (database : String)
    (statements : List Statement) (s : σ) :
    let executed := (execute b clock database statements).run s
    let outcomes := replies b database statements s
    (accounts executed.events).length = statements.length ∧
      (∀ k snapshot, (accounts executed.events)[k]? = some snapshot →
        Accounts statements.length (outcomes.take (k + 1)) snapshot ∧ UnderWay snapshot) ∧
      Concludes statements.length outcomes clock.stop executed.value := by
  obtain ⟨seen, s', r, hruns⟩ := exists_runs b database statements.length 1 statements s
    (.start clock.start statements.length)
  have hshows : Shows (execute b clock database statements) s (r.finish clock.stop) seen s' :=
    hruns.shows_execute
  have hseen : accounts ((execute b clock database statements).run s).events = accounts seen := by
    rw [← accounts_visible, hshows.seen]
  obtain ⟨hlength, hsnapshots, hlast, -⟩ := hruns.accounts rfl (accounts_start _ _) (underWay_start _ _)
  dsimp only
  rw [hseen, hshows.value]
  refine ⟨hlength, hsnapshots, ?_⟩
  rw [← length_replies b database statements s] at hlast ⊢
  exact hlast.finish clock.stop

/-- The counters of an account are numbers of 64 bits. -/
def InRange (r : UploadResult) : Prop :=
  r.nodesCreated < Nat.pow 2 64 ∧ r.relationshipsCreated < Nat.pow 2 64 ∧
    r.propertiesSet < Nat.pow 2 64

/-- If the counters at the end are numbers of 64 bits, then so are those of every account on the way.
Each sum that is formed stands in one of these, so none is cut off. -/
theorem inRange_of_mem_accounts (b : Backend σ) (clock : Clock) (database : String)
    (statements : List Statement) (s : σ)
    (hend : InRange ((execute b clock database statements).run s).value) :
    ∀ snapshot ∈ accounts ((execute b clock database statements).run s).events,
      InRange snapshot := by
  intro snapshot hmem
  obtain ⟨k, hk⟩ := List.getElem?_of_mem hmem
  obtain ⟨-, hsnapshots, hlast⟩ := accounts_execute b clock database statements s
  obtain ⟨haccounts, -⟩ := hsnapshots k snapshot hk
  rw [InRange, hlast.nodesCreated, hlast.relationshipsCreated, hlast.propertiesSet] at hend
  rw [InRange, haccounts.nodesCreated, haccounts.relationshipsCreated, haccounts.propertiesSet]
  exact ⟨Nat.lt_of_le_of_lt (sum_take_le _ _ _) hend.1,
    Nat.lt_of_le_of_lt (sum_take_le _ _ _) hend.2.1,
    Nat.lt_of_le_of_lt (sum_take_le _ _ _) hend.2.2⟩

/-- Of an upload that gives a result, success means that there were statements and all succeeded. -/
theorem wasSuccessful_upload_iff {clock : Clock} {c : Config} {payload : Json}
    (h : ((upload b clock c payload).run s).value = .ok r) :
    r.wasSuccessful ↔ 0 < r.recordsTotal ∧ r.recordsCompleted = r.recordsTotal := by
  obtain ⟨value, seen, s', hends⟩ := exists_ends b clock c payload s
  rw [hends.shows.value] at h
  subst h
  cases hends with
  | written _ _ _ hwritten =>
    cases hwritten with
    | nothing => exact iff_of_false Bool.false_ne_true fun h => Nat.lt_irrefl 0 h.1
    | @executed statements _ _ s' _ _ _ _ hne _ =>
      obtain ⟨-, -, h⟩ := accounts_execute b clock c.database statements s'
      have hpos : 0 < statements.length := List.length_pos_iff.mpr hne
      rw [h.wasSuccessful_iff, h.errorMessage_eq_iff, ← h.recordsCompleted_eq_iff, h.recordsTotal,
        and_iff_right hpos]

/-- Whatever the backend replies, an account is handed on after each statement, and that after the k-th
stands for the first k replies and is not finished. The account at the end stands for all replies; it is
successful exactly if it has no error, if nothing failed, if all statements are completed. Of an upload
that gives a result, success means that there were statements and all of them succeeded. -/
theorem accounts_for_replies (b : Backend σ) (clock : Clock) (database : String)
    (statements : List Statement) (s : σ) :
    let executed := (execute b clock database statements).run s
    let outcomes := replies b database statements s
    outcomes.length = statements.length ∧ (accounts executed.events).length = statements.length ∧
      (∀ k snapshot, (accounts executed.events)[k]? = some snapshot →
        Accounts statements.length (outcomes.take (k + 1)) snapshot ∧ UnderWay snapshot) ∧
      Concludes statements.length outcomes clock.stop executed.value ∧
      ∀ c payload r, ((upload b clock c payload).run s).value = .ok r →
        (r.wasSuccessful ↔ 0 < r.recordsTotal ∧ r.recordsCompleted = r.recordsTotal) := by
  obtain ⟨hlength, hsnapshots, hlast⟩ := accounts_execute b clock database statements s
  exact ⟨length_replies b database statements s, hlength, hsnapshots, hlast,
    fun _ _ _ => wasSuccessful_upload_iff⟩

/-- A backend that gives the replies it is told to give. -/
def scripted : Backend (List (Except Failure Counters)) where
  verify script := ⟨.ok (), [], script⟩
  execute _ _ script := ⟨script.head?.getD (.ok ⟨0, 0, 0⟩), [], script.tail⟩
  reset _ script := ⟨.ok (), [], script⟩

/-- Whatever is to be replied to statements, there is a backend that replies it. -/
theorem replies_scripted (database : String) (h : outcomes.length = statements.length) :
    replies scripted database statements outcomes = outcomes := by
  induction statements generalizing outcomes with
  | nil => exact (List.length_eq_zero_iff.mp h).symm
  | cons statement rest ih =>
    obtain ⟨outcome, others, rfl⟩ := List.exists_cons_of_length_eq_add_one h
    exact congrArg (outcome :: ·) (ih (Nat.succ.inj h))

/-- Two of four statements fail. After the third there is one error, and in the end there are two. An
upload of nothing is given the same backend. -/
theorem accounts_for_replies_scripted :
    let script : List (Except Failure Counters) := [.ok ⟨2, 1, 5⟩,
      .error (.context "Failed to run statement" (.of "boom")), .ok ⟨0, 3, 4⟩, .error (.of "gone")]
    let statements : List Statement := List.replicate 4 ⟨"RETURN 1", [], 0⟩
    let executed := (execute scripted ⟨⟨0, 0⟩, ⟨9, 0⟩⟩ "neo4j" statements).run script
    (∃ snapshot, (accounts executed.events)[2]? = some snapshot ∧ snapshot.finishedAt = none ∧
      snapshot.recordsCompleted = 2 ∧ snapshot.relationshipsCreated = 4 ∧
        snapshot.errorMessage = "Error processing batch 2 of 4: Failed to run statement: boom") ∧
    executed.value.errorMessage = "Error processing batch 2 of 4: Failed to run statement: boom\n" ++
      "Error processing batch 4 of 4: gone" ∧
    ∃ r, ((upload scripted ⟨⟨0, 0⟩, ⟨9, 0⟩⟩ (.ofCredentials "bolt://h" "neo4j" "p") (.object [])).run
      script).value = .ok r ∧ r.wasSuccessful = false := by
  intro script statements executed
  obtain ⟨-, hlength, hsnapshots, hlast, hupload⟩ :=
    accounts_for_replies scripted ⟨⟨0, 0⟩, ⟨9, 0⟩⟩ "neo4j" statements script
  rw [replies_scripted "neo4j" rfl] at hsnapshots hlast
  refine ⟨?_, hlast.errorMessage.trans (by decide +kernel), ?_⟩
  · have hlt : 2 < (accounts executed.events).length := hlength ▸ (by decide : 2 < 4)
    have hfound := List.getElem?_eq_getElem hlt
    obtain ⟨haccounts, hopen⟩ := hsnapshots 2 _ hfound
    refine ⟨_, hfound, hopen.finishedAt, ?_, haccounts.relationshipsCreated.trans rfl,
      haccounts.errorMessage.trans (by decide +kernel)⟩
    exact Nat.add_right_cancel (m := 1) haccounts.recordsCompleted
  · refine ⟨_, rfl, Bool.eq_false_iff.mpr fun h => ?_⟩
    exact Nat.lt_irrefl 0 ((hupload (.ofCredentials "bolt://h" "neo4j" "p") (.object []) _ rfl).mp h).1

end GraphLoad.Upload
