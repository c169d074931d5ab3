import GraphLoad.Cypher.Name
import GraphLoad.Text.Pieces

/-!
# The units of statement text

The text of a statement is read by one rule. A backtick opens a name; inside it a doubled backtick
stands for one and a single one closes it. Outside names a `$` and the longest run of ASCII letters,
digits and underscores behind it are a parameter. Every other character stands for itself.

`lexemes_flatMap_chars` says that the rule reads back every list of units that is written with a
character between two of them that no name or parameter could take in (`Spaced`).
-/

namespace GraphLoad.Cypher

/-- A character that the name of a parameter may hold. -/
def isWord (c : Char) : Bool :=
  c.isAlphanum || c == '_'

/-- A unit of statement text: a name without its backticks, a parameter without its `$`, or any
other character. -/
inductive Lexeme where
  | name (text : String)
  | parameter (text : String)
  | char (c : Char)
deriving DecidableEq, Repr

/-- The name behind an opening backtick, and what follows the backtick that closes it. -/
def quoted? : List Char → Option (List Char × List Char)
  | [] => none
  | c :: r =>
    if c = '\x60' then
      match r with
      | [] => some ([], [])
      | d :: s =>
        if d = '\x60' then (quoted? s).map fun (name, rest) => ('\x60' :: name, rest)
        else some ([], d :: s)
    else (quoted? r).map fun (name, rest) => (c :: name, rest)

theorem length_lt_of_quoted? {s name rest : List Char} (h : quoted? s = some (name, rest)) :
    rest.length < s.length := by
  fun_induction quoted? s generalizing name with
  | case1 => simp at h
  | case2 => simp_all
  | case3 r ih =>
    obtain ⟨⟨n, r'⟩, hq, he⟩ := Option.map_eq_some_iff.mp h
    obtain ⟨-, rfl⟩ := by simpa using he
    have := ih hq
    simp only [List.length_cons]
    omega
  | case4 => simp_all
  | case5 c r _ ih =>
    obtain ⟨⟨n, r'⟩, hq, he⟩ := Option.map_eq_some_iff.mp h
    obtain ⟨-, rfl⟩ := by simpa using he
    have := ih hq
    simp only [List.length_cons]
    omega

/-- The units of a text; none if its last name is not closed. -/
def lexemes : List Char → Option (List Lexeme)
  | [] => some []
  | c :: r =>
    if c = '\x60' then
      match _h : quoted? r with
      | none => none
      | some (name, rest) => (lexemes rest).map (.name (.ofList name) :: ·)
    else if c = '$' then
      (lexemes (r.dropWhile isWord)).map (.parameter (.ofList (r.takeWhile isWord)) :: ·)
    else (lexemes r).map (.char c :: ·)
termination_by s => s.length
decreasing_by
  · have := length_lt_of_quoted? _h
    simp only [List.length_cons]
    omega
  · have := (List.dropWhile_suffix (l := r) isWord).length_le
    simp only [List.length_cons]
    omega
  · simp

/-! ## Writing units -/

/-- The characters of a unit. -/
def Lexeme.chars : Lexeme → List Char
  | .name text => quoteChars text.toList
  | .parameter text => '$' :: text.toList
  | .char c => [c]

/-- Plain text as units. -/
def plain (text : String) : List Lexeme :=
  text.toList.map .char

@[simp]
theorem flatMap_chars_plain (text : String) : (plain text).flatMap Lexeme.chars = text.toList := by
  simp [plain, List.flatMap_map, Lexeme.chars]

/-- What follows begins with a character that ends a name and a parameter. -/
def Stops (ls : List Lexeme) : Prop :=
  ∀ l ∈ ls.head?, ∃ c, l = .char c ∧ isWord c = false

theorem Stops.nil : Stops [] := by
  simp [Stops]

theorem Stops.char {c : Char} {ls : List Lexeme} (h : isWord c = false) : Stops (.char c :: ls) := by
  simpa [Stops] using h

/-- Units that can be told apart when they are written one behind another. -/
inductive Spaced : List Lexeme → Prop
  | nil : Spaced []
  | char {c : Char} {ls : List Lexeme} : c ≠ '\x60' → c ≠ '$' → Spaced ls → Spaced (.char c :: ls)
  | name {text : String} {ls : List Lexeme} : Stops ls → Spaced ls → Spaced (.name text :: ls)
  | parameter {text : String} {ls : List Lexeme} : text.toList.all isWord → Stops ls → Spaced ls →
    Spaced (.parameter text :: ls)

theorem Spaced.plain_append {text : String} {ls : List Lexeme}
    (ht : text.toList.all fun c => c != '\x60' && c != '$') (h : Spaced ls) :
    Spaced (plain text ++ ls) := by
  unfold plain
  generalize text.toList = cs at ht ⊢
  induction cs with
  | nil => exact h
  | cons c r ih =>
    simp only [List.all_cons, Bool.and_eq_true, bne_iff_ne] at ht
    exact .char ht.1.1 ht.1.2 (ih ht.2)

/-- After a name or parameter the text goes on with a character that neither takes in. -/
theorem Spaced.head_flatMap {ls : List Lexeme} (h : Spaced ls) (hs : Stops ls) :
    ∀ c ∈ (ls.flatMap Lexeme.chars).head?, c ≠ '\x60' ∧ isWord c = false := by
  cases h with
  | nil => simp
  | char hc _ _ =>
    obtain ⟨_, he, hw⟩ := hs _ rfl
    cases he
    simpa [Lexeme.chars] using ⟨hc, hw⟩
  | name _ _ => simpa using hs _ rfl
  | parameter _ _ _ => simpa using hs _ rfl

private theorem quoted?_cons {c : Char} {r : List Char} (hc : c ≠ '\x60') :
    quoted? (c :: r) = (quoted? r).map fun (name, rest) => (c :: name, rest) := by
  rw [quoted?.eq_def]
  simp [hc]

theorem quoted?_append (name : List Char) {rest : List Char} (h : ∀ c ∈ rest.head?, c ≠ '\x60') :
    quoted? (name.flatMap quoteChar ++ '\x60' :: rest) = some (name, rest) := by
  induction name with
  | nil =>
    cases rest with
    | nil => rfl
    | cons c r => simpa [quoted?] using h c rfl
  | cons c r ih =>
    by_cases hc : c = '\x60'
    · subst hc
      simp [quoteChar, quoted?, ih]
    · simp [quoteChar, hc, quoted?_cons hc, ih]

/-- Units written one behind another are read back. -/
theorem lexemes_flatMap_chars {ls : List Lexeme} (h : Spaced ls) :
    lexemes (ls.flatMap Lexeme.chars) = some ls := by
  induction h with
  | nil => simp [lexemes]
  | char hc hd _ ih => simp [Lexeme.chars, lexemes, hc, hd, ih]
  | @name text ls hs hl ih =>
    have hq := quoted?_append text.toList fun c hc => (hl.head_flatMap hs c hc).1
    rw [List.flatMap_cons, Lexeme.chars, quoteChars, List.cons_append, List.cons_append,
      List.append_assoc, List.singleton_append, lexemes, if_pos rfl]
    split
    · simp_all
    · rename_i hq'
      obtain ⟨rfl, rfl⟩ := by simpa [hq] using hq'
      simp [ih]
  | @parameter text ls ht hs hl ih =>
    obtain ⟨htake, hdrop⟩ :=
      Text.takeWhile_dropWhile_append (List.all_eq_true.mp ht) _ fun c hc => (hl.head_flatMap hs c hc).2
    rw [List.flatMap_cons, Lexeme.chars, List.cons_append, lexemes, if_neg (by decide),
      if_pos rfl, htake, hdrop, ih]
    simp

end GraphLoad.Cypher
