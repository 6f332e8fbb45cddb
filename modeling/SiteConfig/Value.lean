import SiteConfig.Number.Binary64

/-!
# Document values

A document, whatever its text format, is a `Value`. Objects are lists of fields: a document that
was read has each key once, in the order of the keys; a document that is about to be printed has
its fields in the order in which they are printed.

- `Fields.get?`, `Fields.insert`, `Fields.erase`: objects as maps.
- `Fields.get?_insert`, `Fields.get?_erase`, `Fields.get?_ofAssignments`: what each operation does
  to the map.
- `Value.ordered`: the same document with the keys of every object in order.
- `Shape`: the kinds of values, for messages.
-/

namespace SiteConfig

/-- A document value. Keys and texts are Unicode texts, integers have any size. -/
inductive Value
  | null
  | bool (b : Bool)
  | int (n : Int)
  | float (x : Binary64)
  | text (s : String)
  | list (items : List Value)
  | object (fields : List (String × Value))
  deriving Repr, Inhabited

/-- The fields of an object. -/
abbrev Fields := List (String × Value)

namespace Fields

/-- The value under a key. -/
def get? (fields : Fields) (key : String) : Option Value :=
  fields.lookup key

/-- The keys, in the order of the fields. -/
def keys (fields : Fields) : List String :=
  fields.map Prod.fst

/-- Sets the value under a key, in the place that the order of keys gives it. The order is that
of the characters' code points. -/
def insert (key : String) (v : Value) : Fields → Fields
  | [] => [(key, v)]
  | (k, w) :: rest =>
    if key < k then (key, v) :: (k, w) :: rest
    else if key = k then (key, v) :: rest
    else (k, w) :: insert key v rest

/-- Removes a key. -/
def erase (fields : Fields) (key : String) : Fields :=
  fields.filter fun field => field.1 ≠ key

/-- The object that a sequence of assignments leaves: of two with one key, the later counts. -/
def ofAssignments (fields : Fields) : Fields :=
  fields.foldl (fun acc field => insert field.1 field.2 acc) []

@[simp] theorem get?_nil (key : String) : get? [] key = none := rfl

theorem get?_cons (k key : String) (v : Value) (rest : Fields) :
    get? ((k, v) :: rest) key = if key = k then some v else get? rest key := by
  unfold get?
  by_cases h : key = k
  · rw [if_pos h, h, List.lookup_cons_self]
  · rw [if_neg h, List.lookup_cons, beq_false_of_ne h]

theorem get?_insert (key k : String) (v : Value) (fields : Fields) :
    get? (insert key v fields) k = if k = key then some v else get? fields k := by
  induction fields with
  | nil => rw [insert, get?_cons]
  | cons field rest ih =>
    obtain ⟨key', w⟩ := field
    rw [insert]
    by_cases hlt : key < key'
    · rw [if_pos hlt, get?_cons]
    · rw [if_neg hlt]
      by_cases heq : key = key'
      · rw [if_pos heq, get?_cons, get?_cons]
        subst heq
        by_cases hk : k = key <;> simp [hk]
      · rw [if_neg heq, get?_cons, get?_cons, ih]
        by_cases hk : k = key'
        · have : ¬ k = key := fun h => heq (h ▸ hk)
          simp [hk, Ne.symm heq]
        · simp [hk]

theorem get?_erase (key k : String) (fields : Fields) :
    get? (erase fields key) k = if k = key then none else get? fields k := by
  induction fields with
  | nil => simp [erase]
  | cons field rest ih =>
    obtain ⟨key', w⟩ := field
    by_cases h : key' = key
    · have e : erase ((key', w) :: rest) key = erase rest key := by simp [erase, h]
      rw [e, ih, get?_cons]
      by_cases hk : k = key
      · simp [hk]
      · have : ¬ k = key' := fun eq => hk (eq.trans h)
        simp [hk, this]
    · have e : erase ((key', w) :: rest) key = (key', w) :: erase rest key := by
        simp [erase, h]
      rw [e, get?_cons, get?_cons, ih]
      by_cases hk : k = key'
      · subst hk
        simp [h]
      · simp [hk]

theorem get?_append (front back : Fields) (k : String) :
    get? (front ++ back) k = (get? front k).or (get? back k) := by
  induction front with
  | nil => simp
  | cons field rest ih =>
    obtain ⟨key, v⟩ := field
    rw [List.cons_append, get?_cons, get?_cons, ih]
    by_cases h : k = key <;> simp [h]

theorem get?_foldl_insert (fields acc : Fields) (k : String) :
    get? (fields.foldl (fun acc field => insert field.1 field.2 acc) acc) k
      = (get? fields.reverse k).or (get? acc k) := by
  induction fields generalizing acc with
  | nil => simp
  | cons field rest ih =>
    obtain ⟨key, v⟩ := field
    rw [List.foldl_cons, ih, List.reverse_cons, get?_append, get?_insert, get?_cons]
    by_cases h : k = key <;> cases get? rest.reverse k <;> simp [h]

/-- Of two assignments to one key, the later counts. -/
theorem get?_ofAssignments (fields : Fields) (k : String) :
    get? (ofAssignments fields) k = get? fields.reverse k := by
  rw [ofAssignments, get?_foldl_insert]
  simp

end Fields

/-- The kinds of values. -/
inductive Shape
  | null
  | bool
  | number
  | text
  | list
  | block
  deriving DecidableEq, Repr, Inhabited

/-- The kind of a value in words, with its article. -/
def Shape.name : Shape → String
  | .null => "null"
  | .bool => "a bool"
  | .number => "a number"
  | .text => "a string"
  | .list => "a list"
  | .block => "a block"

namespace Value

/-- The kind of a value. -/
def shape : Value → Shape
  | .null => .null
  | .bool _ => .bool
  | .int _ | .float _ => .number
  | .text _ => .text
  | .list _ => .list
  | .object _ => .block

mutual

/-- The same document with every object's keys in order, each of them once. -/
def ordered : Value → Value
  | .list items => .list (orderedItems items)
  | .object fields => .object (Fields.ofAssignments (orderedFields fields))
  | v => v

/-- `ordered` on the items of a list. -/
def orderedItems : List Value → List Value
  | [] => []
  | v :: rest => ordered v :: orderedItems rest

/-- `ordered` on the values of an object's fields. -/
def orderedFields : List (String × Value) → List (String × Value)
  | [] => []
  | (k, v) :: rest => (k, ordered v) :: orderedFields rest

end

mutual

/-- Equality of values, as a decision. -/
def same : Value → Value → Bool
  | .null, .null => true
  | .bool a, .bool b => a == b
  | .int a, .int b => a == b
  | .float a, .float b => a == b
  | .text a, .text b => a == b
  | .list a, .list b => sameItems a b
  | .object a, .object b => sameFields a b
  | _, _ => false

/-- `same` on lists of values. -/
def sameItems : List Value → List Value → Bool
  | [], [] => true
  | a :: s, b :: t => same a b && sameItems s t
  | _, _ => false

/-- `same` on fields. -/
def sameFields : List (String × Value) → List (String × Value) → Bool
  | [], [] => true
  | (j, a) :: s, (k, b) :: t => j == k && same a b && sameFields s t
  | _, _ => false

end

mutual

theorem same_iff : ∀ a b : Value, same a b = true ↔ a = b
  | .null, b => by cases b <;> simp [same]
  | .bool x, b => by cases b <;> simp [same]
  | .int x, b => by cases b <;> simp [same]
  | .float x, b => by cases b <;> simp [same]
  | .text x, b => by cases b <;> simp [same]
  | .list x, b => by
    cases b with
    | list y => simp [same, sameItems_iff x y]
    | _ => simp [same]
  | .object x, b => by
    cases b with
    | object y => simp [same, sameFields_iff x y]
    | _ => simp [same]

theorem sameItems_iff : ∀ s t : List Value, sameItems s t = true ↔ s = t
  | [], t => by cases t <;> simp [sameItems]
  | a :: s, t => by
    cases t with
    | nil => simp [sameItems]
    | cons b t => simp [sameItems, same_iff a b, sameItems_iff s t]

theorem sameFields_iff : ∀ s t : List (String × Value), sameFields s t = true ↔ s = t
  | [], t => by cases t <;> simp [sameFields]
  | (j, a) :: s, t => by
    cases t with
    | nil => simp [sameFields]
    | cons f t =>
      obtain ⟨k, b⟩ := f
      simp [sameFields, same_iff a b, sameFields_iff s t, and_assoc]

end

instance : DecidableEq Value := fun a b =>
  decidable_of_iff (same a b = true) (same_iff a b)

end Value

end SiteConfig
