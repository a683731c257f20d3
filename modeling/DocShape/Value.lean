import DocShape.Entries
import DocShape.Number

/-!
Documents: JSON values whose mappings keep the order of their keys.

`Value` has decidable equality, which tells the order of keys apart; `Value.equals` is the
equality that does not. A document has no repeated key in a mapping, which is `Value.WellFormed`.
`Value.induct` and `Value.inductKinds` are induction over what is inside containers, with the
scalars together or one by one.
-/

namespace DocShape

/-- A document or a node of one. -/
inductive Value where
  | null
  | bool (b : Bool)
  | number (n : Number)
  | string (s : String)
  | array (items : List Value)
  | object (fields : List (String × Value))

namespace Value

instance : Inhabited Value := ⟨.null⟩

mutual
def decEq : (v w : Value) → Decidable (v = w)
  | .null, .null => isTrue rfl
  | .bool a, .bool b =>
    if h : a = b then isTrue (by rw [h]) else isFalse (by simpa using h)
  | .number a, .number b =>
    if h : a = b then isTrue (by rw [h]) else isFalse (by simpa using h)
  | .string a, .string b =>
    if h : a = b then isTrue (by rw [h]) else isFalse (by simpa using h)
  | .array a, .array b =>
    match decEqItems a b with
    | isTrue h => isTrue (by rw [h])
    | isFalse h => isFalse (by simpa using h)
  | .object a, .object b =>
    match decEqFields a b with
    | isTrue h => isTrue (by rw [h])
    | isFalse h => isFalse (by simpa using h)
  | .null, .bool _ | .null, .number _ | .null, .string _ | .null, .array _ | .null, .object _
  | .bool _, .null | .bool _, .number _ | .bool _, .string _ | .bool _, .array _
  | .bool _, .object _ | .number _, .null | .number _, .bool _ | .number _, .string _
  | .number _, .array _ | .number _, .object _ | .string _, .null | .string _, .bool _
  | .string _, .number _ | .string _, .array _ | .string _, .object _ | .array _, .null
  | .array _, .bool _ | .array _, .number _ | .array _, .string _ | .array _, .object _
  | .object _, .null | .object _, .bool _ | .object _, .number _ | .object _, .string _
  | .object _, .array _ => isFalse nofun
termination_by structural v => v

def decEqItems : (a b : List Value) → Decidable (a = b)
  | [], [] => isTrue rfl
  | [], _ :: _ | _ :: _, [] => isFalse nofun
  | v :: rest, w :: rest' =>
    match decEq v w, decEqItems rest rest' with
    | isTrue h, isTrue h' => isTrue (by rw [h, h'])
    | isFalse h, _ => isFalse (by simp [h])
    | _, isFalse h => isFalse (by simp [h])
termination_by structural a => a

def decEqFields : (a b : List (String × Value)) → Decidable (a = b)
  | [], [] => isTrue rfl
  | [], _ :: _ | _ :: _, [] => isFalse nofun
  | (k, v) :: rest, (k', w) :: rest' =>
    if hk : k = k' then
      match decEq v w, decEqFields rest rest' with
      | isTrue h, isTrue h' => isTrue (by rw [hk, h, h'])
      | isFalse h, _ => isFalse (by simp [h])
      | _, isFalse h => isFalse (by simp [h])
    else isFalse (by simp [hk])
termination_by structural a => a
end

instance : DecidableEq Value := decEq

mutual
/-- Equality up to the order of keys. Numbers are equal within a representation only. -/
def equals : Value → Value → Bool
  | .null, .null => true
  | .bool a, .bool b => a == b
  | .number a, .number b => a.equals b
  | .string a, .string b => a == b
  | .array a, .array b => itemsEqual a b
  | .object a, .object b => a.length == b.length && fieldsEqual a b
  | _, _ => false
termination_by structural v => v

/-- Equality item by item. -/
def itemsEqual : List Value → List Value → Bool
  | [], [] => true
  | v :: rest, w :: rest' => v.equals w && itemsEqual rest rest'
  | _, _ => false
termination_by structural a => a

/-- Whether each field of the first list has an equal one in the second. -/
def fieldsEqual : List (String × Value) → List (String × Value) → Bool
  | [], _ => true
  | (k, v) :: rest, b =>
    (match b.lookup k with
      | some w => v.equals w
      | none => false) && fieldsEqual rest b
termination_by structural a => a
end

/-- Equality in which numbers compare across representations, but only at the top. -/
def same : Value → Value → Bool
  | .number a, .number b => a.same b
  | a, b => a.equals b

mutual
/-- No mapping in the document repeats a key. -/
def WellFormed : Value → Prop
  | .array items => ItemsWellFormed items
  | .object fields => (Entries.keys fields).Nodup ∧ FieldsWellFormed fields
  | _ => True
termination_by structural v => v

def ItemsWellFormed : List Value → Prop
  | [] => True
  | v :: rest => v.WellFormed ∧ ItemsWellFormed rest
termination_by structural a => a

def FieldsWellFormed : List (String × Value) → Prop
  | [] => True
  | (_, v) :: rest => v.WellFormed ∧ FieldsWellFormed rest
termination_by structural a => a
end

theorem itemsWellFormed_iff {items : List Value} :
    ItemsWellFormed items ↔ ∀ v ∈ items, v.WellFormed := by
  induction items with
  | nil => simp [ItemsWellFormed]
  | cons v rest ih => simp [ItemsWellFormed, ih]

theorem fieldsWellFormed_iff {fields : List (String × Value)} :
    FieldsWellFormed fields ↔ ∀ e ∈ fields, e.2.WellFormed := by
  induction fields with
  | nil => simp [FieldsWellFormed]
  | cons e rest ih => simp [FieldsWellFormed, ih]

/-- What holds of each kind of scalar, and of containers where it holds of all inside, holds of
documents. -/
theorem inductKinds {p : Value → Prop} (null : p .null) (bool : ∀ b, p (.bool b))
    (number : ∀ n, p (.number n)) (string : ∀ s, p (.string s))
    (array : ∀ items, (∀ x ∈ items, p x) → p (.array items))
    (object : ∀ fields, (∀ e ∈ fields, p e.2) → p (.object fields)) (v : Value) : p v :=
  @Value.rec p (fun items => ∀ x ∈ items, p x) (fun fields => ∀ e ∈ fields, p e.2) (fun e => p e.2)
    null bool number string array object
    (List.forall_mem_nil _) (fun _ _ hv hrest => List.forall_mem_cons.mpr ⟨hv, hrest⟩)
    (List.forall_mem_nil _) (fun _ _ he hrest => List.forall_mem_cons.mpr ⟨he, hrest⟩)
    (fun _ _ hv => hv) v

/-- What holds of scalars, and of containers where it holds of all inside, holds of documents. -/
theorem induct {p : Value → Prop}
    (scalar : ∀ v, (∀ items, v ≠ .array items) → (∀ fields, v ≠ .object fields) → p v)
    (array : ∀ items, (∀ x ∈ items, p x) → p (.array items))
    (object : ∀ fields, (∀ e ∈ fields, p e.2) → p (.object fields)) (v : Value) : p v :=
  inductKinds (scalar _ nofun nofun) (fun _ => scalar _ nofun nofun) (fun _ => scalar _ nofun nofun)
    (fun _ => scalar _ nofun nofun) array object v

def isNull : Value → Bool
  | .null => true
  | _ => false

theorem isNull_iff {v : Value} : v.isNull ↔ v = .null := by
  cases v <;> simp [isNull]

end Value
end DocShape
