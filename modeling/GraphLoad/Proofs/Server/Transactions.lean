import GraphLoad.Proofs.Action
import GraphLoad.Proofs.Number.Nearest
import GraphLoad.Server.Transaction

/-!
# Transactions

What a statement asks of a server and what the server answers is a `Transaction`: nothing follows a
transaction that is refused, and one that has begun is closed by one request, which is the commit if
and only if everything inside succeeded. `execute_transactions` says so of statements that are run one
after another, whatever the server answers. The values of a statement are handed over as `Taken` says.
-/

namespace GraphLoad.Server

open GraphLoad.Action (gives_pure gives_emit_map)

variable {σ α β : Type}

/-! ## What is asked and answered -/

abbrev Reply := Except Failure Rows

/-- Requests in order, each with its answer. -/
abbrev Dialogue := List (Request × Reply)

/-- The server gives these answers, one after another. -/
inductive Answered (link : Link σ) : σ → Dialogue → σ → Prop
  | nil {s : σ} : Answered link s [] s
  | cons {s s' : σ} {request : Request} {d : Dialogue} : Answered link (link.answer request s).2 d s' →
    Answered link s ((request, (link.answer request s).1) :: d) s'

/-- The request that is seen of an event, if it is one. -/
def requested? : Event → Option Request
  | .request request => some request
  | .log _ => none

/-- From a state the step gives this value, in this dialogue with the server, and leaves this state. -/
structure Holds (link : Link σ) (a : Step σ α) (s : σ) (value : α) (d : Dialogue) (s' : σ) : Prop where
  gives : a.Gives requested? s value (d.map Prod.fst) s'
  answered : Answered link s d s'

section

variable {link : Link σ} {a : Step σ α} {f : α → Step σ β} {s s₁ s₂ : σ} {v : α} {w : β}
  {d d' : Dialogue}

theorem Answered.append (h : Answered link s d s₁) (h' : Answered link s₁ d' s₂) :
    Answered link s (d ++ d') s₂ := by
  induction h with
  | nil => exact h'
  | cons _ ih => exact .cons (ih h')

theorem answered_cons_iff {request : Request} {reply : Reply} :
    Answered link s ((request, reply) :: d) s₁ ↔
      (link.answer request s).1 = reply ∧ Answered link (link.answer request s).2 d s₁ := by
  constructor
  · intro h
    cases h with
    | cons h => exact ⟨rfl, h⟩
  · rintro ⟨rfl, h⟩
    exact .cons h

theorem exists_of_answered_append (h : Answered link s (d ++ d') s₂) :
    ∃ s₁, Answered link s d s₁ ∧ Answered link s₁ d' s₂ := by
  induction d generalizing s with
  | nil => exact ⟨s, .nil, h⟩
  | cons x d ih =>
    obtain ⟨hreply, h⟩ := answered_cons_iff.mp h
    obtain ⟨s₁, hd, hd'⟩ := ih h
    exact ⟨s₁, answered_cons_iff.mpr ⟨hreply, hd⟩, hd'⟩

theorem Holds.bind (ha : Holds link a s v d s₁) (hf : Holds link (f v) s₁ w d' s₂) :
    Holds link (a >>= f) s w (d ++ d') s₂ where
  gives := List.map_append ▸ ha.gives.bind hf.gives
  answered := ha.answered.append hf.answered

theorem Holds.map (g : α → β) (ha : Holds link a s v d s₁) : Holds link (g <$> a) s (g v) d s₁ :=
  ⟨ha.gives.map g, ha.answered⟩

theorem holds_pure (v : α) (s : σ) : Holds link (pure v : Step σ α) s v [] s :=
  ⟨gives_pure v s, .nil⟩

theorem holds_say (entries : List Log.Entry) (s : σ) :
    Holds link (say entries : Step σ Unit) s () [] s :=
  ⟨gives_emit_map (fun _ => rfl) entries s, .nil⟩

theorem holds_fetch (link : Link σ) (request : Request) (trying : String) (s : σ) :
    Holds link (fetch link request trying) s ((link.answer request s).1.mapError (.context trying))
      [(request, (link.answer request s).1)] (link.answer request s).2 :=
  ⟨⟨rfl, rfl, rfl⟩, .cons .nil⟩

theorem holds_ask (link : Link σ) (request : Request) (trying : String) (s : σ) :
    Holds link (ask link request trying) s
      (((link.answer request s).1.bind Rows.all).mapError (.context trying))
      [(request, (link.answer request s).1)] (link.answer request s).2 :=
  ⟨⟨rfl, rfl, rfl⟩, .cons .nil⟩

end

/-! ## Values as they are handed over -/

/-- A value and what a server takes for it. An integer that needs more than 64 bits with a sign is the
nearest real number, an array or an object is its text. -/
inductive Taken : Json → Parameter → Prop
  | null : Taken .null .null
  | bool (b : Bool) : Taken (.bool b) (.bool b)
  | integer {i : Int} : -2 ^ 63 ≤ i → i < 2 ^ 63 → Taken (.number (.int i)) (.integer i)
  | nearest {i : Int} {x : Binary64} : i < -2 ^ 63 ∨ 2 ^ 63 ≤ i → x.IsNearest i.natAbs →
    Taken (.number (.int i)) (.real (x.shortest (i < 0)))
  | real (d : Decimal) : Taken (.number (.real d)) (.real d)
  | text (s : String) : Taken (.string s) (.text s)
  | array (items : List Json) : Taken (.array items) (.text (Json.array items).render)
  | object (fields : Fields) : Taken (.object fields) (.text (Json.object fields).render)

theorem taken_ofJson (v : Json) : Taken v (.ofJson v) := by
  cases v with
  | null => exact .null
  | bool b => exact .bool b
  | string s => exact .text s
  | array items => exact .array items
  | object fields => exact .object fields
  | number n =>
    cases n with
    | real d => exact .real d
    | int i =>
      have hpow : ((Nat.pow 2 63 : Nat) : Int) = 2 ^ 63 := rfl
      rw [Parameter.ofJson, hpow]
      split
      · rename_i h
        exact .integer h.1 h.2
      · rename_i h
        have hnearest := Binary64.isNearest_nearest i.natAbs Nat.one_pos
        rw [Nat.cast_one, div_one] at hnearest
        exact .nearest (by omega) hnearest

/-! ## Inside of a transaction -/

/-- A request inside of a transaction, and what comes of the answer: a failure, or the numbers that are
read. -/
structure Query where
  request : Request
  outcome : Reply → Except Failure (List Int)

namespace Query

def counting (text column : String) : Query where
  request := .run none text []
  outcome
    | .error f => .error (f.context s!"Failed to count {column}")
    | .ok ⟨_, some f⟩ => .error f
    | .ok ⟨[], none⟩ => .error (.of s!"Count query for {column} returned no rows")
    | .ok ⟨row :: _, none⟩ => (row.integer column).map ([·])

/-- The statement itself, of whose answer nothing is read. -/
def stating (text : String) (parameters : List (String × Parameter)) : Query where
  request := .run none text parameters
  outcome
    | .error f | .ok ⟨_, some f⟩ => .error (f.context "Failed to run statement")
    | .ok ⟨_, none⟩ => .ok []

end Query

/-- What is asked between the beginning and the end of a transaction. -/
def inside (text : String) (parameters : List (String × Parameter)) : List Query :=
  let nodes := .counting "MATCH (n) RETURN count(n) AS nodes" "nodes"
  let relationships :=
    .counting "MATCH ()-[r]->() RETURN count(r) AS relationships" "relationships"
  [nodes, relationships, .stating text parameters, nodes, relationships]

/-- The queries are asked in order, up to the first that fails. If none does, the result is all the
numbers that were read. -/
inductive InOrder : List Query → Dialogue → Except Failure (List Int) → Prop
  | nil : InOrder [] [] (.ok [])
  | stop {q : Query} {rest : List Query} {reply : Reply} {f : Failure} : q.outcome reply = .error f →
    InOrder (q :: rest) [(q.request, reply)] (.error f)
  | next {q : Query} {rest : List Query} {reply : Reply} {numbers : List Int} {d : Dialogue}
      {result : Except Failure (List Int)} : q.outcome reply = .ok numbers → InOrder rest d result →
    InOrder (q :: rest) ((q.request, reply) :: d) (result.map (numbers ++ ·))

/-- What comes of an answer of which nothing is read: it fails, at once or behind some rows, or not. -/
inductive Ends : Reply → Option Failure → Prop
  | error (f : Failure) : Ends (.error f) (some f)
  | broken (rows : List Row) (f : Failure) : Ends (.ok ⟨rows, some f⟩) (some f)
  | whole (rows : List Row) : Ends (.ok ⟨rows, none⟩) none

/-- The dialogue of a statement with a server, and what is told of it: the transaction is refused, or
everything inside succeeds and it is committed, or something inside fails and it is rolled back. The closing
request may fail too. -/
inductive Transaction (text : String) (parameters : List (String × Parameter)) (bindings : Nat)
    (database : String) : Dialogue → Except Failure Counters → Prop
  | refused {reply : Reply} {f : Failure} : Ends reply (some f) →
    Transaction text parameters bindings database [(.begin database, reply)]
      (.error (f.context s!"Failed to start transaction on '{database}'"))
  | committed {opened reply : Reply} {d : Dialogue} {nodes relationships nodes' relationships' : Int} :
    Ends opened none →
    InOrder (inside text parameters) d (.ok [nodes, relationships, nodes', relationships']) →
    Ends reply none →
    Transaction text parameters bindings database ((.begin database, opened) :: (d ++ [(.commit, reply)]))
      (.ok ⟨(nodes' - nodes).toNat, (relationships' - relationships).toNat, bindings⟩)
  | uncommitted {opened reply : Reply} {d : Dialogue} {numbers : List Int} {f : Failure} :
    Ends opened none → InOrder (inside text parameters) d (.ok numbers) → Ends reply (some f) →
    Transaction text parameters bindings database ((.begin database, opened) :: (d ++ [(.commit, reply)]))
      (.error (f.context "Failed to commit transaction"))
  | rolledBack {opened reply : Reply} {d : Dialogue} {f : Failure} :
    Ends opened none → InOrder (inside text parameters) d (.error f) → Ends reply none →
    Transaction text parameters bindings database ((.begin database, opened) :: (d ++ [(.rollback, reply)]))
      (.error f)
  | stuck {opened reply : Reply} {d : Dialogue} {f g : Failure} :
    Ends opened none → InOrder (inside text parameters) d (.error f) → Ends reply (some g) →
    Transaction text parameters bindings database ((.begin database, opened) :: (d ++ [(.rollback, reply)]))
      (.error (g.context "Failed to rollback transaction"))

/-- What is told of a step agrees with the result of its queries: both are one failure, or the value
has to do with the numbers. -/
inductive Agrees (P : α → List Int → Prop) : Except Failure α → Except Failure (List Int) → Prop
  | error (f : Failure) : Agrees P (.error f) (.error f)
  | ok {x : α} {numbers : List Int} : P x numbers → Agrees P (.ok x) (.ok numbers)

/-- The step asks these queries in order. -/
def Asks (link : Link σ) (queries : List Query) (a : Step σ (Except Failure α))
    (P : α → List Int → Prop) : Prop :=
  ∀ s, ∃ value d s' result, Holds link a s value d s' ∧ InOrder queries d result ∧
    Agrees P value result

variable {link : Link σ} {queries queries' : List Query} {d d' : Dialogue} {numbers : List Int}
  {f : Failure} {result : Except Failure (List Int)}

theorem InOrder.append_of_error (h : InOrder queries d (.error f)) (queries' : List Query) :
    InOrder (queries ++ queries') d (.error f) := by
  generalize hr : Except.error f = r at h
  induction h with
  | nil => cases hr
  | stop hq =>
    obtain rfl := Except.error.inj hr
    exact .stop hq
  | @next q rest reply numbers d result hq hrest ih =>
    cases result with
    | ok => cases hr
    | error g =>
      obtain rfl := Except.error.inj hr
      exact .next hq (ih rfl)

theorem InOrder.append (h : InOrder queries d (.ok numbers)) (h' : InOrder queries' d' result) :
    InOrder (queries ++ queries') (d ++ d') (result.map (numbers ++ ·)) := by
  generalize hr : Except.ok numbers = r at h
  induction h generalizing numbers with
  | nil =>
    obtain rfl := Except.ok.inj hr
    cases result <;> exact h'
  | stop => cases hr
  | @next q rest reply first d before hq hrest ih =>
    cases before with
    | error => cases hr
    | ok later =>
      obtain rfl := Except.ok.inj hr
      have hall := InOrder.next hq (ih rfl)
      cases result with
      | error => exact hall
      | ok numbers' =>
        show InOrder _ _ (.ok (first ++ later ++ numbers'))
        rw [List.append_assoc]
        exact hall

variable {P : α → List Int → Prop} {a : Step σ (Except Failure α)}

/-- Queries one after another, where the step ends at the first failure. -/
theorem Asks.bind {g : Except Failure α → Step σ (Except Failure β)} {Q : β → List Int → Prop}
    (ha : Asks link queries a P) (hg : ∀ f, g (.error f) = pure (.error f))
    (hok : ∀ x numbers, P x numbers →
      Asks link queries' (g (.ok x)) fun y numbers' => Q y (numbers ++ numbers')) :
    Asks link (queries ++ queries') (a >>= g) Q := by
  intro s
  obtain ⟨value, d, s₁, result, hholds, hasked, hagrees⟩ := ha s
  cases hagrees with
  | error f =>
    have hstop : Holds link (g (.error f)) s₁ (.error f) [] s₁ := by
      rw [hg]
      exact holds_pure _ _
    refine ⟨_, _, _, _, hholds.bind hstop, ?_, .error f⟩
    rw [List.append_nil]
    exact hasked.append_of_error queries'
  | ok hP =>
    obtain ⟨value', d', s₂, result', hholds', hasked', hagrees'⟩ := hok _ _ hP s₁
    refine ⟨_, _, _, _, hholds.bind hholds', hasked.append hasked', ?_⟩
    cases hagrees' with
    | error f => exact .error f
    | ok hQ => exact .ok hQ

theorem Asks.pure {x : α} (h : P x []) : Asks link [] (pure (.ok x)) P :=
  fun s => ⟨_, _, _, _, holds_pure _ s, .nil, .ok h⟩

theorem asks_query (q : Query) (value : Reply → Except Failure α)
    (ha : ∀ s, Holds link a s (value (link.answer q.request s).1) [(q.request, (link.answer q.request s).1)]
      (link.answer q.request s).2)
    (hagrees : ∀ reply, Agrees P (value reply) (q.outcome reply)) : Asks link [q] a P := by
  intro s
  refine ⟨_, _, _, q.outcome (link.answer q.request s).1, ha s, ?_, hagrees _⟩
  cases hq : q.outcome (link.answer q.request s).1 with
  | error f => exact .stop hq
  | ok numbers =>
    rw [← List.append_nil numbers]
    exact .next hq .nil

/-! ## One transaction -/

theorem asks_count (link : Link σ) (c : Census) :
    Asks link [.counting c.query c.column] (count link c) fun n numbers => numbers = [n] := by
  refine asks_query (.counting c.query c.column)
    (fun reply => ((reply.mapError (.context s!"Failed to count {c.column}")).bind Rows.all).bind c.read)
    (fun s => (holds_fetch link _ _ s).bind (holds_pure _ _)) ?_
  rintro (f | ⟨rows, _ | f⟩)
  · exact .error _
  · cases rows with
    | nil => exact .error _
    | cons row rows =>
      show Agrees _ (row.integer c.column) ((row.integer c.column).map ([·]))
      cases row.integer c.column with
      | error f => exact .error f
      | ok n => exact .ok rfl
  · exact .error _

theorem asks_countAll (link : Link σ) :
    Asks link [.counting Census.nodes.query "nodes", .counting Census.relationships.query "relationships"]
      (countAll link) fun n numbers => numbers = [n.1, n.2] := by
  refine (asks_count link .nodes).bind (fun _ => rfl) ?_
  rintro nodes _ rfl
  refine (asks_count link .relationships).bind (fun _ => rfl) ?_
  rintro relationships _ rfl
  exact .pure rfl

theorem asks_statement (link : Link σ) (text : String) (parameters : List (String × Parameter)) :
    Asks link [.stating text parameters] (ask link (.run none text parameters) "Failed to run statement")
      fun _ numbers => numbers = [] := by
  refine asks_query (.stating text parameters)
    (fun reply => (reply.bind Rows.all).mapError (.context "Failed to run statement"))
    (holds_ask link _ _) ?_
  rintro (f | ⟨rows, _ | f⟩)
  · exact .error _
  · exact .ok rfl
  · exact .error _

theorem asks_runCounted (link : Link σ) (s : Statement) :
    Asks link (inside s.text (s.parameters.map fun e => (e.1, .ofJson e.2))) (runCounted link s)
      fun counters numbers => ∃ nodes relationships nodes' relationships',
        numbers = [nodes, relationships, nodes', relationships'] ∧
        counters = ⟨(nodes' - nodes).toNat, (relationships' - relationships).toNat,
          s.propertyBindings⟩ := by
  refine (asks_countAll link).bind (fun _ => rfl) ?_
  rintro ⟨nodes, relationships⟩ _ rfl
  refine (asks_statement link s.text _).bind (fun _ => rfl) ?_
  rintro _ _ rfl
  refine (asks_countAll link).bind (fun _ => rfl) ?_
  rintro ⟨nodes', relationships'⟩ _ rfl
  exact .pure ⟨nodes, relationships, nodes', relationships', rfl, rfl⟩

/-- What is told of an answer of which nothing is read. -/
theorem ask_cases (reply : Reply) (trying : String) :
    (∃ f, Ends reply (some f) ∧
        (reply.bind Rows.all).mapError (.context trying) = .error (f.context trying)) ∨
      ∃ rows, Ends reply none ∧
        (reply.bind Rows.all).mapError (Failure.context trying) = .ok rows := by
  rcases reply with f | ⟨rows, _ | f⟩
  · exact .inl ⟨f, .error f, rfl⟩
  · exact .inr ⟨rows, .whole rows, rfl⟩
  · exact .inl ⟨f, .broken rows f, rfl⟩

theorem exists_transaction (link : Link σ) (s : Statement) (database : String) (state : σ) :
    ∃ value d state', Holds link (execute link s database) state value d state' ∧
      Transaction s.text (s.parameters.map fun e => (e.1, .ofJson e.2)) s.propertyBindings database
        d value := by
  have hbegin := holds_ask link (.begin database) s!"Failed to start transaction on '{database}'" state
  rw [execute]
  rcases ask_cases (link.answer (.begin database) state).1
    s!"Failed to start transaction on '{database}'" with ⟨f, hends, htold⟩ | ⟨rows, hends, htold⟩
  · rw [htold] at hbegin
    exact ⟨_, _, _, hbegin.bind (holds_pure _ _), .refused hends⟩
  · rw [htold] at hbegin
    obtain ⟨value, d, state₁, result, hinside, hasked, hagrees⟩ :=
      asks_runCounted link s (link.answer (.begin database) state).2
    cases hagrees with
    | ok hcounters =>
      obtain ⟨nodes, relationships, nodes', relationships', rfl, rfl⟩ := hcounters
      have hcommit := holds_ask link .commit "Failed to commit transaction" state₁
      refine ⟨_, _, _, hbegin.bind (hinside.bind (hcommit.bind (holds_pure _ _))), ?_⟩
      rcases ask_cases (link.answer .commit state₁).1 "Failed to commit transaction" with
        ⟨f, hends', htold'⟩ | ⟨rows', hends', htold'⟩
      · rw [htold']
        exact .uncommitted hends hasked hends'
      · rw [htold']
        exact .committed hends hasked hends'
    | error f =>
      have hrollback := holds_ask link .rollback "Failed to rollback transaction" state₁
      rcases ask_cases (link.answer .rollback state₁).1 "Failed to rollback transaction" with
        ⟨g, hends', htold'⟩ | ⟨rows', hends', htold'⟩
      · rw [htold'] at hrollback
        exact ⟨_, _, _, hbegin.bind (hinside.bind ((holds_say _ _).bind (hrollback.bind (holds_pure _ _)))),
          .stuck hends hasked hends'⟩
      · rw [htold'] at hrollback
        exact ⟨_, _, _, hbegin.bind (hinside.bind ((holds_say _ _).bind (hrollback.bind (holds_pure _ _)))),
          .rolledBack hends hasked hends'⟩

/-! ## How a transaction ends -/

def Request.closes : Request → Bool
  | .commit | .rollback => true
  | .begin _ | .run .. => false

/-- Whether a transaction has begun with this. -/
def begins : Request × Reply → Bool
  | (.begin _, .ok ⟨_, none⟩) => true
  | _ => false

theorem InOrder.exists_query {x : Request × Reply} (h : InOrder queries d result) (hx : x ∈ d) :
    ∃ q ∈ queries, x.1 = q.request := by
  induction h with
  | nil => cases hx
  | stop =>
    rw [List.mem_singleton.mp hx]
    exact ⟨_, List.mem_cons_self, rfl⟩
  | next _ _ ih =>
    rcases List.mem_cons.mp hx with rfl | hx
    · exact ⟨_, List.mem_cons_self, rfl⟩
    · obtain ⟨q, hq, heq⟩ := ih hx
      exact ⟨q, List.mem_cons_of_mem _ hq, heq⟩

variable {text database : String} {parameters : List (String × Parameter)} {bindings : Nat}
  {value : Except Failure Counters}

/-- No transaction begins or is closed inside of another. -/
theorem InOrder.inside (h : InOrder (inside text parameters) d result) :
    ∀ x ∈ d, x.1.closes = false ∧ begins x = false := by
  intro x hx
  obtain ⟨q, hq, heq⟩ := h.exists_query hx
  have hrun : ∃ text parameters, x.1 = .run none text parameters := by
    rw [heq]
    simp only [Server.inside, List.mem_cons, List.not_mem_nil, or_false] at hq
    rcases hq with rfl | rfl | rfl | rfl | rfl <;> exact ⟨_, _, rfl⟩
  obtain ⟨text, parameters, hrun⟩ := hrun
  obtain ⟨request, reply⟩ := x
  subst hrun
  exact ⟨rfl, rfl⟩

theorem InOrder.eq_of_commit_mem {opened reply : Reply} {closing : Request × Reply}
    (h : InOrder (Server.inside text parameters) d result)
    (hmem : (.commit, reply) ∈ (.begin database, opened) :: (d ++ [closing])) :
    (.commit, reply) = closing := by
  rcases List.mem_cons.mp hmem with heq | hmem
  · cases heq
  · rcases List.mem_append.mp hmem with hmem | hmem
    · cases (h.inside _ hmem).1
    · exact List.mem_singleton.mp hmem

/-- A statement is told to have succeeded if and only if its transaction was committed. -/
theorem Transaction.isOk_iff (h : Transaction text parameters bindings database d value) :
    value.isOk ↔ ∃ rows, (.commit, .ok ⟨rows, none⟩) ∈ d := by
  cases h with
  | refused =>
    refine ⟨nofun, ?_⟩
    rintro ⟨rows, hmem⟩
    cases List.mem_singleton.mp hmem
  | committed _ hd hends =>
    cases hends with
    | whole rows =>
      refine ⟨fun _ => ⟨rows, ?_⟩, fun _ => rfl⟩
      exact List.mem_cons_of_mem _ (List.mem_append_right _ List.mem_cons_self)
  | uncommitted _ hd hends =>
    refine ⟨nofun, ?_⟩
    rintro ⟨rows, hmem⟩
    obtain rfl := (Prod.mk.inj (hd.eq_of_commit_mem hmem)).2
    cases hends
  | rolledBack _ hd | stuck _ hd =>
    refine ⟨nofun, ?_⟩
    rintro ⟨rows, hmem⟩
    cases hd.eq_of_commit_mem hmem

/-- A transaction that has begun is closed by one request, and no other is. -/
theorem Transaction.countP_closes (h : Transaction text parameters bindings database d value) :
    d.countP (·.1.closes) = d.countP begins := by
  have hbody : ∀ {d : Dialogue} {result}, InOrder (Server.inside text parameters) d result →
      d.countP (·.1.closes) = 0 ∧ d.countP begins = 0 := by
    intro d result hd
    constructor <;> rw [List.countP_eq_zero]
    · exact fun x hx => Bool.not_eq_true _ ▸ (hd.inside x hx).1
    · exact fun x hx => Bool.not_eq_true _ ▸ (hd.inside x hx).2
  cases h with
  | refused hends => cases hends <;> rfl
  | committed hends hd | uncommitted hends hd | rolledBack hends hd | stuck hends hd =>
    cases hends
    simp only [List.countP_cons, List.countP_append, hbody hd]
    rfl

/-! ## Statements one after another -/

structure Turn where
  statement : Statement
  database : String
  dialogue : Dialogue
  value : Except Failure Counters

/-- Statements that are run one after another are each run in a transaction of their own, with their
parameters as a server takes them, one behind the other: nothing else is asked of the server. -/
theorem execute_transactions (link : Link σ) (work : List (Statement × String)) (state : σ) :
    ∃ (turns : List Turn) (state' : σ), turns.map (fun t => (t.statement, t.database)) = work ∧
      Holds link (work.mapM fun w => execute link w.1 w.2) state (turns.map Turn.value)
        (turns.flatMap Turn.dialogue) state' ∧
      ∀ t ∈ turns,
        (∃ parameters, List.Forall₂ (fun e p => p.1 = e.1 ∧ Taken e.2 p.2) t.statement.parameters parameters ∧
          Transaction t.statement.text parameters t.statement.propertyBindings t.database t.dialogue
            t.value) ∧
        (t.value.isOk ↔ ∃ rows, (.commit, .ok ⟨rows, none⟩) ∈ t.dialogue) ∧
        t.dialogue.countP (·.1.closes) = t.dialogue.countP begins := by
  induction work generalizing state with
  | nil => exact ⟨[], state, rfl, holds_pure _ _, nofun⟩
  | cons w work ih =>
    obtain ⟨value, d, state₁, hholds, htransaction⟩ := exists_transaction link w.1 w.2 state
    obtain ⟨turns, state₂, hwork, hrest, hturns⟩ := ih state₁
    refine ⟨⟨w.1, w.2, d, value⟩ :: turns, state₂, ?_, ?_, ?_⟩
    · rw [List.map_cons, hwork]
    · rw [List.mapM_cons, List.map_cons, List.flatMap_cons, ← List.append_nil (List.flatMap _ _)]
      exact hholds.bind (hrest.bind (holds_pure _ _))
    · rintro t (_ | ⟨_, ht⟩)
      · refine ⟨⟨_, ?_, htransaction⟩, htransaction.isOk_iff, htransaction.countP_closes⟩
        exact List.forall₂_map_right_iff.mpr (List.forall₂_same.mpr fun e _ => ⟨rfl, taken_ofJson e.2⟩)
      · exact hturns t ht

end GraphLoad.Server
