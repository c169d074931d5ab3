import GraphLoad.Number.Decimal

/-!
JSON values. Integers and decimals are kept apart, so `1` and `1.0` are two values. The fields of an
object are a list with one entry for each key, in ascending order of the keys (`Fields.Sorted`);
`Fields.insert` keeps that order, and its laws hold of every list, sorted or not.
-/

namespace GraphLoad

/-- A number as JSON writes it: without or with a fraction or exponent. -/
inductive Number where
  | int (value : Int)
  | real (value : Decimal)
deriving DecidableEq, Repr

inductive Json where
  | null
  | bool (value : Bool)
  | number (value : Number)
  | string (value : String)
  | array (items : List Json)
  | object (fields : List (String × Json))
deriving Repr, Inhabited

/-- Named values: the content of an object, or the parameters of a statement. -/
abbrev Fields := List (String × Json)

namespace Json

/-- Induction over a value, an array's items and an object's values. -/
@[elab_as_elim, induction_eliminator]
theorem induct {motive : Json → Prop} (null : motive .null) (bool : ∀ b, motive (.bool b))
    (number : ∀ n, motive (.number n)) (string : ∀ s, motive (.string s))
    (array : ∀ items, (∀ v ∈ items, motive v) → motive (.array items))
    (object : ∀ fields, (∀ e ∈ fields, motive e.2) → motive (.object fields)) (j : Json) :
    motive j :=
  j.rec (motive_2 := fun items => ∀ v ∈ items, motive v)
    (motive_3 := fun fields => ∀ e ∈ fields, motive e.2) (motive_4 := fun e => motive e.2)
    null bool number string array object (by simp) (by simp +contextual) (by simp)
    (by simp +contextual) (fun _ _ h => h)

mutual

def decEq : (a b : Json) → Decidable (a = b)
  | .null, .null => isTrue rfl
  | .bool a, .bool b => decidable_of_iff (a = b) (by simp)
  | .number a, .number b => decidable_of_iff (a = b) (by simp)
  | .string a, .string b => decidable_of_iff (a = b) (by simp)
  | .array a, .array b =>
    match decEqItems a b with
    | isTrue h => isTrue (by rw [h])
    | isFalse h => isFalse (by simpa using h)
  | .object a, .object b =>
    match decEqFields a b with
    | isTrue h => isTrue (by rw [h])
    | isFalse h => isFalse (by simpa using h)
  | .null, .bool _ | .null, .number _ | .null, .string _ | .null, .array _ | .null, .object _
  | .bool _, .null | .bool _, .number _ | .bool _, .string _ | .bool _, .array _
  | .bool _, .object _ | .number _, .null | .number _, .bool _ | .number _, .string _
  | .number _, .array _ | .number _, .object _ | .string _, .null | .string _, .bool _
  | .string _, .number _ | .string _, .array _ | .string _, .object _ | .array _, .null
  | .array _, .bool _ | .array _, .number _ | .array _, .string _ | .array _, .object _
  | .object _, .null | .object _, .bool _ | .object _, .number _ | .object _, .string _
  | .object _, .array _ => isFalse nofun

def decEqItems : (a b : List Json) → Decidable (a = b)
  | [], [] => isTrue rfl
  | [], _ :: _ | _ :: _, [] => isFalse nofun
  | v :: a, w :: b =>
    match decEq v w, decEqItems a b with
    | isTrue h, isTrue h' => isTrue (by rw [h, h'])
    | isFalse h, _ => isFalse (by simp [h])
    | _, isFalse h => isFalse (by simp [h])

def decEqFields : (a b : List (String × Json)) → Decidable (a = b)
  | [], [] => isTrue rfl
  | [], _ :: _ | _ :: _, [] => isFalse nofun
  | (k, v) :: a, (l, w) :: b =>
    if hk : k = l then
      match decEq v w, decEqFields a b with
      | isTrue h, isTrue h' => isTrue (by rw [hk, h, h'])
      | isFalse h, _ => isFalse (by simp [h])
      | _, isFalse h => isFalse (by simp [h])
    else isFalse (by simp [hk])

end

instance : DecidableEq Json := decEq

def nat (n : Nat) : Json :=
  .number (.int n)

/-- A value, or `null` in its absence. -/
def orNull : Option Json → Json
  | some v => v
  | none => .null

def strings (texts : List String) : Json :=
  .array (texts.map .string)

def isNull : Json → Bool
  | .null => true
  | _ => false

def isArray : Json → Bool
  | .array _ => true
  | _ => false

end Json

namespace Fields

def get? (fields : Fields) (key : String) : Option Json :=
  fields.lookup key

def keys (fields : Fields) : List String :=
  fields.map Prod.fst

/-- The keys ascend strictly, so each stands once. -/
def Sorted (fields : Fields) : Prop :=
  fields.keys.Pairwise (· < ·)

instance (fields : Fields) : Decidable fields.Sorted :=
  inferInstanceAs (Decidable (List.Pairwise _ _))

/-- Writes the value over that of the first entry with the key. -/
def replace (key : String) (value : Json) : Fields → Fields
  | [] => []
  | e :: r => if key = e.1 then (key, value) :: r else e :: replace key value r

/-- Adds an entry before the first larger key. -/
def add (key : String) (value : Json) : Fields → Fields
  | [] => [(key, value)]
  | e :: r => if key < e.1 then (key, value) :: e :: r else e :: add key value r

/-- Writes a value under a key: over the value that is there, else as a new entry in its place. -/
def insert (key : String) (value : Json) (fields : Fields) : Fields :=
  if (get? fields key).isSome then replace key value fields else add key value fields

/-- Writes entries one after another, so the last of a key wins. -/
def insertAll (fields : Fields) (entries : List (String × Json)) : Fields :=
  entries.foldl (fun fs e => insert e.1 e.2 fs) fields

def ofList (entries : List (String × Json)) : Fields :=
  insertAll [] entries

end Fields

def Json.ofEntries (entries : List (String × Json)) : Json :=
  .object (Fields.ofList entries)

namespace Fields

@[simp]
theorem get?_nil (key : String) : get? [] key = none := rfl

theorem get?_cons (e : String × Json) (r : Fields) (key : String) :
    get? (e :: r) key = if key = e.1 then some e.2 else get? r key := by
  rw [get?, List.lookup_cons]
  by_cases h : key = e.1
  · simp [h]
  · simp [beq_eq_false_iff_ne.mpr h, h, get?]

theorem get?_replace (key k : String) (value : Json) (fields : Fields) :
    get? (replace key value fields) k =
      if k = key then (get? fields key).map fun _ => value else get? fields k := by
  induction fields with
  | nil => simp [replace]
  | cons e r ih => grind [replace, get?_cons]

theorem get?_add (key k : String) (value : Json) (fields : Fields)
    (h : get? fields key = none) :
    get? (add key value fields) k = if k = key then some value else get? fields k := by
  induction fields with
  | nil => simp [add, get?_cons]
  | cons e r ih => grind [add, get?_cons]

/-- What stands under each key after a write. -/
theorem get?_insert (key k : String) (value : Json) (fields : Fields) :
    get? (insert key value fields) k = if k = key then some value else get? fields k := by
  unfold insert
  split
  · rename_i h
    obtain ⟨v, hv⟩ := Option.isSome_iff_exists.mp h
    simp [get?_replace, hv]
  · rename_i h
    exact get?_add _ _ _ _ (by simpa using h)

theorem replace_eq_self {key : String} {value : Json} {fields : Fields}
    (h : get? fields key = some value) : replace key value fields = fields := by
  induction fields with
  | nil => simp at h
  | cons e r ih => grind [replace, get?_cons]

/-- Writing what is there changes nothing. -/
theorem insert_eq_self {key : String} {value : Json} {fields : Fields}
    (h : get? fields key = some value) : insert key value fields = fields := by
  simp [insert, h, replace_eq_self h]

theorem replace_replace (key : String) (v w : Json) (fields : Fields) :
    replace key w (replace key v fields) = replace key w fields := by
  induction fields with
  | nil => rfl
  | cons e r ih => grind [replace]

theorem replace_add (key : String) (v w : Json) (fields : Fields)
    (h : get? fields key = none) :
    replace key w (add key v fields) = add key w fields := by
  induction fields with
  | nil => simp [add, replace]
  | cons e r ih => grind [replace, add, get?_cons]

/-- Of two writes under one key the second counts. -/
theorem insert_insert (key : String) (v w : Json) (fields : Fields) :
    insert key w (insert key v fields) = insert key w fields := by
  have h : (get? (insert key v fields) key).isSome := by simp [get?_insert]
  rw [insert, if_pos h]
  unfold insert
  split
  · rw [replace_replace]
  · rename_i hn
    exact replace_add _ _ _ _ (by simpa using hn)

end Fields
end GraphLoad
