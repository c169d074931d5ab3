import GraphLoad.Cypher.NodeBatch
import GraphLoad.Specification.Expansion

/-!
A specification as statements: every node group before any relationship group, so that the nodes are
there when relationships are matched; each group expanded, cut into batches of at most the given
size, and each batch one statement.
-/

namespace GraphLoad

inductive CompileError where
  | zeroBatchSize
  | expansion (cause : ExpansionError)
deriving DecidableEq, Repr

def CompileError.message : CompileError → String
  | zeroBatchSize => "max_batch_size must be greater than zero"
  | expansion cause => cause.message

namespace Record

/-- Consecutive slices of the given size; the last may be shorter. -/
def slices (size : Nat) : List Record → List (List Record)
  | [] => []
  | r :: rs => (r :: rs.take (size - 1)) :: slices size (rs.drop (size - 1))
termination_by records => records.length
decreasing_by simp only [List.length_drop, List.length_cons]; omega

/-- No record is lost, repeated or moved. -/
theorem flatten_slices (size : Nat) (records : List Record) :
    (slices size records).flatten = records := by
  fun_induction slices size records with
  | case1 => rfl
  | case2 r rs ih => rw [List.flatten_cons, ih, List.cons_append, List.take_append_drop]

theorem length_le_of_mem_slices {size : Nat} (h : 0 < size) {records slice : List Record}
    (hs : slice ∈ slices size records) : slice.length ≤ size := by
  fun_induction slices size records with
  | case1 => simp at hs
  | case2 r rs ih =>
    rcases List.mem_cons.mp hs with rfl | hs
    · rw [List.length_cons, List.length_take]
      omega
    · exact ih hs

/-- The slices, for a size other than zero. -/
def chunks (records : List Record) (size : Nat) : Except CompileError (List (List Record)) :=
  if size = 0 then .error .zeroBatchSize else .ok (slices size records)

end Record

namespace NodeGroup

variable (g : NodeGroup)

def batch (slice : List Record) (position : Nat) : NodeBatch where
  id := s!"b{position}n"
  records := slice
  key := g.key
  labels := g.labels
  excludeKeys := g.excludeKeys
  dedupe := g.dedupe

def batches (maxBatchSize : Nat) : Except CompileError (List NodeBatch) :=
  (Record.chunks g.records maxBatchSize).map fun slices =>
    slices.zipIdx.map fun (slice, position) => g.batch slice position

def statements (maxBatchSize : Nat) : Except CompileError (List Statement) :=
  (g.batches maxBatchSize).map (·.filterMap NodeBatch.statement?)

def log (maxBatchSize : Nat) : List Log.Entry :=
  match g.batches maxBatchSize with
  | .error _ => []
  | .ok batches => batches.flatMap NodeBatch.log

end NodeGroup

namespace RelationshipGroup

variable (g : RelationshipGroup)

/-- The batch of a slice at a position, of a group that is expanded already. -/
def batch (slice : List Record) (position : Nat) : RelationshipBatch where
  id := s!"b{position}r"
  records := slice
  source := g.source
  target := g.target
  type := g.type
  excludeKeys := g.effectiveExcludeKeys
  dedupe := g.dedupe

def batches (maxBatchSize : Nat) : Except CompileError (List RelationshipBatch) :=
  match g.expand with
  | .error cause => .error (.expansion cause)
  | .ok expanded =>
    (Record.chunks expanded.records maxBatchSize).map fun slices =>
      slices.zipIdx.map fun (slice, position) => expanded.batch slice position

def statements (maxBatchSize : Nat) : Except CompileError (List Statement) :=
  (g.batches maxBatchSize).map (·.filterMap RelationshipBatch.statement?)

def log (maxBatchSize : Nat) : List Log.Entry :=
  g.expandLog ++
  match g.batches maxBatchSize with
  | .error _ => []
  | .ok batches => batches.flatMap RelationshipBatch.log

end RelationshipGroup

inductive Group where
  | nodes (group : NodeGroup)
  | relationships (group : RelationshipGroup)
deriving DecidableEq, Repr

namespace Group

def statements (maxBatchSize : Nat) : Group → Except CompileError (List Statement)
  | nodes g => g.statements maxBatchSize
  | relationships g => g.statements maxBatchSize

def log (maxBatchSize : Nat) : Group → List Log.Entry
  | nodes g => g.log maxBatchSize
  | relationships g => g.log maxBatchSize

/-- What is said while groups are compiled one after another, up to one that fails. -/
def logAll (maxBatchSize : Nat) : List Group → List Log.Entry
  | [] => []
  | g :: gs =>
    g.log maxBatchSize ++
    match g.statements maxBatchSize with
    | .error _ => []
    | .ok _ => logAll maxBatchSize gs

end Group

namespace Specification

variable (s : Specification)

/-- All groups in the order in which they are compiled. -/
def groups : List Group :=
  s.nodes.map .nodes ++ s.relationships.map .relationships

/-- The statements of all groups in order, or the error of the first group that fails. -/
def compile (maxBatchSize : Nat) : Except CompileError (List Statement) :=
  (s.groups.mapM (Group.statements maxBatchSize)).map List.flatten

/-- What is said on the way, and at the end of a compilation that succeeds. -/
def compileLog (maxBatchSize : Nat) : List Log.Entry :=
  Group.logAll maxBatchSize s.groups ++
  match s.compile maxBatchSize with
  | .error _ => []
  | .ok statements => [.info <|
      s!"🧱 Compiled {statements.length} statements from {s.nodes.length} node groups and " ++
      s!"{s.relationships.length} relationship groups (batch_size={maxBatchSize})"]

end Specification
end GraphLoad
