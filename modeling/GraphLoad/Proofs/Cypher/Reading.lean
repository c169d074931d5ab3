import GraphLoad.Cypher.Statement
import GraphLoad.Proofs.Cypher.Lexeme

/-!
# What a statement says

A statement is read in three steps: its text into units, the list behind `WITH` into rows that name
parameters, and each parameter into the value that is bound to it. The clauses behind the list stay
units, since a name is one unit there whatever characters it is made of.

`list?_lexemes` says that a list is read back whatever names and parameters stand in it.
-/

namespace GraphLoad

/-- One entry of the list that a statement unwinds: what stands in front, and the named properties
in the block behind. -/
structure Row (α : Type) where
  ends : List α
  properties : List (String × α)
deriving DecidableEq, Repr

/-- What a statement says: the rows of its list and the clauses behind it. -/
structure Reading where
  rows : List (Row Json)
  clauses : List Cypher.Lexeme
deriving DecidableEq, Repr

namespace Cypher

/-! ## Reading a list -/

/-- The entries of a block, up to the brace that closes it. -/
def entries? : List Lexeme → Option (List (String × String) × List Lexeme)
  | .name n :: .char ':' :: .parameter p :: .char '}' :: rest => some ([(n, p)], rest)
  | .name n :: .char ':' :: .parameter p :: .char ',' :: .char ' ' :: rest =>
    (entries? rest).map fun (entries, rest) => ((n, p) :: entries, rest)
  | _ => none

/-- A row behind its opening bracket. -/
def row? : List Lexeme → Option (Row String × List Lexeme)
  | .parameter p :: .char ',' :: .char ' ' :: rest =>
    (row? rest).map fun (row, rest) => ({ row with ends := p :: row.ends }, rest)
  | .char '{' :: .char '}' :: .char ']' :: rest => some (⟨[], []⟩, rest)
  | .char '{' :: rest =>
    match entries? rest with
    | some (entries, .char ']' :: rest) => some (⟨[], entries⟩, rest)
    | _ => none
  | _ => none

theorem length_lt_of_entries? {ls rest : List Lexeme} {entries : List (String × String)}
    (h : entries? ls = some (entries, rest)) : rest.length < ls.length := by
  fun_induction entries? ls generalizing entries with
  | case1 n p r =>
    obtain ⟨-, rfl⟩ := by simpa using h
    simp only [List.length_cons]
    omega
  | case2 n p r ih =>
    obtain ⟨⟨es, r'⟩, hr, he⟩ := Option.map_eq_some_iff.mp h
    obtain ⟨-, rfl⟩ := by simpa using he
    have := ih hr
    simp only [List.length_cons]
    omega
  | case3 => simp at h

theorem length_lt_of_row? {ls rest : List Lexeme} {row : Row String}
    (h : row? ls = some (row, rest)) : rest.length < ls.length := by
  fun_induction row? ls generalizing row with
  | case1 p r ih =>
    obtain ⟨⟨row', r'⟩, hr, he⟩ := Option.map_eq_some_iff.mp h
    obtain ⟨-, rfl⟩ := by simpa using he
    have := ih hr
    simp only [List.length_cons]
    omega
  | case2 r =>
    obtain ⟨-, rfl⟩ := by simpa using h
    simp only [List.length_cons]
    omega
  | case3 r _ entries r' hr =>
    obtain ⟨-, rfl⟩ := by simpa using h
    have := length_lt_of_entries? hr
    simp only [List.length_cons] at this ⊢
    omega
  | case4 => simp at h
  | case5 => simp at h

/-- The rows behind the bracket that opens the first, up to the one that closes the list. -/
def rows? (ls : List Lexeme) : Option (List (Row String) × List Lexeme) :=
  match _h : row? ls with
  | some (row, .char ']' :: rest) => some ([row], rest)
  | some (row, .char ',' :: .char ' ' :: .char '[' :: rest) =>
    (rows? rest).map fun (rows, rest) => (row :: rows, rest)
  | _ => none
termination_by ls.length
decreasing_by
  have := length_lt_of_row? _h
  simp only [List.length_cons] at this
  omega

/-- The rows at the head of a statement, and what follows the list. -/
def list? (ls : List Lexeme) : Option (List (Row String) × List Lexeme) :=
  ((plain "WITH [[").isPrefixOf? ls).bind rows?

end Cypher

/-- The row with each parameter replaced by what is bound to it; none if one of them is not. -/
def Row.bind? (parameters : Fields) (row : Row String) : Option (Row Json) := do
  let ends ← row.ends.mapM (Fields.get? parameters)
  let properties ← row.properties.mapM fun (name, p) =>
    (Fields.get? parameters p).map (name, ·)
  return ⟨ends, properties⟩

namespace Statement

/-- What the statement says; none if it cannot be read or names a parameter that is not bound. -/
def reading? (s : Statement) : Option Reading := do
  let (rows, clauses) ← (Cypher.lexemes s.text.toList).bind Cypher.list?
  let rows ← rows.mapM (Row.bind? s.parameters)
  return ⟨rows, clauses⟩

/-- The parameters that the text names, in order. -/
def namedParameters (s : Statement) : List String :=
  ((Cypher.lexemes s.text.toList).getD []).filterMap fun
    | .parameter p => some p
    | _ => none

end Statement

namespace Cypher

/-! ## Writing a list -/

/-- The units of an entry of a block. -/
def entryLexemes (entry : String × String) : List Lexeme :=
  [.name entry.1, .char ':', .parameter entry.2]

/-- The units of a row behind its opening bracket. -/
def rowLexemes (row : Row String) : List Lexeme :=
  row.ends.flatMap (fun p => [.parameter p, .char ',', .char ' ']) ++ .char '{' ::
    ((plain ", ").intercalate (row.properties.map entryLexemes) ++ [.char '}', .char ']'])

/-- The units of a list of rows, with what opens and closes it. -/
def listLexemes (rows : List (Row String)) : List Lexeme :=
  plain "WITH [" ++ (plain ", ").intercalate (rows.map (.char '[' :: rowLexemes ·)) ++ [.char ']']

private theorem plain_comma : plain ", " = [.char ',', .char ' '] := by
  decide

theorem entries?_cons (entry : String × String) (ls : List Lexeme) :
    entries? (entryLexemes entry ++ (plain ", " ++ ls)) =
      (entries? ls).map fun (entries, rest) => (entry :: entries, rest) := by
  rw [plain_comma]
  rfl

theorem entries?_lexemes {entries : List (String × String)} (h : entries ≠ [])
    (rest : List Lexeme) :
    entries? ((plain ", ").intercalate (entries.map entryLexemes) ++ .char '}' :: rest) =
      some (entries, rest) := by
  induction entries with
  | nil => exact absurd rfl h
  | cons e es ih =>
    cases es with
    | nil =>
      rw [List.map_singleton, List.intercalate_singleton]
      rfl
    | cons e' es =>
      have ih := ih (List.cons_ne_nil _ _)
      simp only [List.map_cons, List.intercalate_cons_cons, List.append_assoc] at ih ⊢
      rw [entries?_cons, ih]
      rfl

theorem row?_lexemes (row : Row String) (rest : List Lexeme) :
    row? (rowLexemes row ++ rest) = some (row, rest) := by
  obtain ⟨ends, properties⟩ := row
  induction ends with
  | nil =>
    cases properties with
    | nil => rfl
    | cons e es =>
      -- the block begins with a name, so it is not the empty one
      obtain ⟨tail, htail⟩ : ∃ tail, (plain ", ").intercalate ((e :: es).map entryLexemes) =
          .name e.1 :: tail := by
        cases es <;> simp [entryLexemes, List.intercalate_cons_cons]
      have hes := entries?_lexemes (List.cons_ne_nil e es) (.char ']' :: rest)
      rw [htail, List.cons_append] at hes
      rw [rowLexemes, htail]
      simp [row?, hes]
  | cons p ends ih =>
    simp only [rowLexemes, List.flatMap_cons, List.append_assoc, List.cons_append,
      List.nil_append] at ih ⊢
    rw [row?, ih]
    rfl

theorem rows?_last (row : Row String) (rest : List Lexeme) :
    rows? (rowLexemes row ++ .char ']' :: rest) = some ([row], rest) := by
  have hrow := row?_lexemes row (.char ']' :: rest)
  rw [rows?]
  split <;> simp_all

theorem rows?_cons (row : Row String) (ls : List Lexeme) :
    rows? (rowLexemes row ++ (plain ", " ++ .char '[' :: ls)) =
      (rows? ls).map fun (rows, rest) => (row :: rows, rest) := by
  have hrow := row?_lexemes row (plain ", " ++ .char '[' :: ls)
  rw [plain_comma] at hrow ⊢
  rw [rows?]
  split <;> simp_all

private theorem rows?_lexemes {rows : List (Row String)} (h : rows ≠ []) (rest : List Lexeme) :
    ∃ ls, (plain ", ").intercalate (rows.map (.char '[' :: rowLexemes ·)) ++ .char ']' :: rest =
      .char '[' :: ls ∧ rows? ls = some (rows, rest) := by
  induction rows with
  | nil => exact absurd rfl h
  | cons row rows ih =>
    cases rows with
    | nil => exact ⟨_, by simp, rows?_last row rest⟩
    | cons row' rows =>
      obtain ⟨ls, hls, hrows⟩ := ih (List.cons_ne_nil _ _)
      refine ⟨rowLexemes row ++ (plain ", " ++ .char '[' :: ls), ?_, ?_⟩
      · rw [← hls]
        simp [List.intercalate_cons_cons]
      · rw [rows?_cons, hrows]
        rfl

theorem isPrefixOf?_append_self (ls rest : List Lexeme) :
    ls.isPrefixOf? (ls ++ rest) = some rest := by
  induction ls with
  | nil => rfl
  | cons l ls ih =>
    show (if l == l then ls.isPrefixOf? (ls ++ rest) else none) = some rest
    rw [if_pos (beq_self_eq_true l), ih]

/-- A list of rows is read back, whatever follows it. -/
theorem list?_lexemes {rows : List (Row String)} (h : rows ≠ []) (rest : List Lexeme) :
    list? (listLexemes rows ++ rest) = some (rows, rest) := by
  obtain ⟨ls, hls, hrows⟩ := rows?_lexemes h rest
  have hopen : plain "WITH [" ++ .char '[' :: ls = plain "WITH [[" ++ ls := rfl
  rw [listLexemes, List.append_assoc, List.append_assoc, List.singleton_append, hls, hopen, list?,
    isPrefixOf?_append_self, Option.bind_some, hrows]

end Cypher
end GraphLoad
