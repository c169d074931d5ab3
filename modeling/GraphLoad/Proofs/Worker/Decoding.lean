import GraphLoad.Proofs.Json.Members
import GraphLoad.Worker.Job

/-!
# Jobs in texts

A text is a job if it is an object with an id and data (`ofText_object`). Options may be left out, each of
them and all of them, the members may stand in any order, and others are read past. What a job does not
override is as in the settings of the worker (`config_overrides`), but for the emptying of the database.
-/

namespace GraphLoad

open Json.Decode Json.Read

theorem Config.validate_eq_ok_iff {c : Config} :
    c.validate = .ok () ↔ (¬Text.isVacant c.uri ∧ ¬Text.isVacant c.user) ∧
      ¬Text.isVacant c.database ∧ c.maxBatchSize ≠ 0 := by
  rw [validate]
  split_ifs <;> simp_all

namespace Job

/-- A member of the options as it is written, and the option that it stands for. -/
inductive Options.IsMember : TextMember Options → Prop where
  | database {text : List Char} {v : Json} {d : Option String} (hv : Reads 0 text v)
    (hd : optional string v = .ok d) :
    IsMember ⟨"database", text, fun o => { o with database := d }⟩
  | maxBatchSize {text : List Char} {v : Json} {n : Option Nat} (hv : Reads 0 text v)
    (hn : optional size v = .ok n) :
    IsMember ⟨"max_batch_size", text, fun o => { o with maxBatchSize := n }⟩
  | overwrite {text : List Char} {b : Bool} (hv : Reads 0 text (.bool b)) :
    IsMember ⟨"overwrite", text, fun o => { o with overwrite := b }⟩
  | other {key : String} {text : List Char} (hkey : key ∉ ["database", "max_batch_size", "overwrite"])
    (htext : Skips text) : IsMember ⟨key, text, fun o => o⟩

/-- A member of a job as it is written, and what it stands for. -/
inductive IsMember : TextMember Job → Prop where
  | id {text : List Char} {s : String} (hv : Reads 0 text (.string s)) :
    IsMember ⟨"job_id", text, fun job => { job with id := s }⟩
  | data {text : List Char} {v : Json} (hv : Reads 126 text v) :
    IsMember ⟨"data", text, fun job => { job with data := v }⟩
  | options {members : List (TextMember Options)} (hmembers : ∀ m ∈ members, Options.IsMember m)
    (hnodup : (TextMember.known Options.textShape members).Nodup) :
    IsMember ⟨"options", TextMember.object members, fun job =>
      { job with options := TextMember.fillAll members .none }⟩
  | other {key : String} {text : List Char} (hkey : key ∉ ["job_id", "data", "options"])
    (htext : Skips text) : IsMember ⟨key, text, fun job => job⟩

theorem find?_eq_none {ρ : Type} {t : TextShape ρ} {key : String} (h : key ∉ t.parts.map TextPart.name) :
    t.parts.find? (·.name == key) = none := by
  rw [List.find?_eq_none]
  intro part hpart heq
  exact h (List.mem_map.mpr ⟨part, hpart, eq_of_beq heq⟩)

theorem Options.IsMember.fills {m : TextMember Options} (h : IsMember m) (depth : Nat) :
    m.Fills textShape depth := by
  cases h with
  | database hv hd => exact TextMember.fills_scalar rfl hv fun _ => congrArg (Except.map _) hd
  | maxBatchSize hv hn => exact TextMember.fills_scalar rfl hv fun _ => congrArg (Except.map _) hn
  | overwrite hv => exact TextMember.fills_scalar rfl hv fun _ => rfl
  | other hkey htext => exact TextMember.fills_other (find?_eq_none hkey) htext rfl

theorem IsMember.fills {m : TextMember Job} (h : IsMember m) : m.Fills textShape 126 := by
  cases h with
  | id hv => exact TextMember.fills_scalar rfl hv fun _ => rfl
  | data hv => exact TextMember.fills_whole rfl hv fun _ => rfl
  | options hmembers hnodup =>
    exact TextMember.fills_nested rfl rfl (fun m hm => (hmembers m hm).fills 125) hnodup (by decide) rfl
  | other hkey htext => exact TextMember.fills_other (find?_eq_none hkey) htext rfl

/-- A text of an object is a job exactly if the id and the data are among its members; what is not given is
as in a job without options. -/
theorem ofText_object {members : List (TextMember Job)} (hmembers : ∀ m ∈ members, IsMember m)
    (hnodup : (TextMember.known textShape members).Nodup) :
    ofText (String.ofList (TextMember.object members)) =
      if "job_id" ∈ members.map TextMember.key ∧ "data" ∈ members.map TextMember.key then
        .ok (TextMember.fillAll members ⟨"", .null, ⟨none, none, false⟩⟩)
      else .error .mismatch := by
  have hrequired : (∀ part ∈ textShape.parts, part.absence = .required →
      part.name ∈ members.map TextMember.key) ↔
      "job_id" ∈ members.map TextMember.key ∧ "data" ∈ members.map TextMember.key := by
    refine ⟨fun h => ⟨h _ (.head _) rfl, h _ (.tail _ (.head _)) rfl⟩, fun ⟨hid, hdata⟩ => ?_⟩
    refine List.forall_mem_cons.mpr ⟨fun _ => hid, List.forall_mem_cons.mpr ⟨fun _ => hdata, ?_⟩⟩
    exact List.forall_mem_singleton.mpr nofun
  rw [ofText, TextMember.ofText_object rfl (fun m hm => (hmembers m hm).fills) hnodup]
  exact if_congr hrequired rfl rfl

/-! ## Settings -/

/-- A job may name another database and another size of batches. The server and the credentials are those of
the worker, and whether the database is emptied is for the job alone to say. -/
theorem config_overrides (job : Job) (base : Config) :
    job.config base = ⟨base.uri, base.password, base.user,
      match job.options.database with | some database => database | none => base.database,
      match job.options.maxBatchSize with | some size => size | none => base.maxBatchSize,
      job.options.overwrite⟩ := by
  rw [config]
  cases job.options.database <;> cases job.options.maxBatchSize <;> rfl

/-- With a worker whose settings are valid, those of a job are if what it overrides is. -/
theorem validate_config_iff {job : Job} {base : Config} (hbase : base.validate = .ok ()) :
    (job.config base).validate = .ok () ↔
      (∀ database ∈ job.options.database, ¬Text.isVacant database) ∧
        ∀ size ∈ job.options.maxBatchSize, size ≠ 0 := by
  obtain ⟨hserver, hdatabase, hsize⟩ := Config.validate_eq_ok_iff.mp hbase
  rw [Config.validate_eq_ok_iff, config_overrides]
  refine (and_iff_right hserver).trans (and_congr ?_ ?_)
  · cases job.options.database <;> simp [hdatabase]
  · cases job.options.maxBatchSize <;> simp [hsize]

end Job
end GraphLoad
