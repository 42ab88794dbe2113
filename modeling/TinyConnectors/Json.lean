/-
# JSON values

`serde_json::Value` as the connector code reads it.  An object is the list of
its entries in key order, each key once, which is how `serde_json::Map` keeps
them; the operations below are the `Map` methods the code calls.  A number is
one of the three forms `serde_json` distinguishes, and a finite `f64` is the
rational it denotes.
-/
import Mathlib.Data.Rat.Defs
import Mathlib.Data.String.Basic
import Mathlib.Tactic.SplitIfs

/-- `serde_json::Number`. -/
inductive JsonNumber where
  | posInt (n : ℕ)
  | negInt (n : ℤ) (neg : n < 0)
  | float (q : ℚ)
  deriving DecidableEq

/-- `serde_json::Value`. -/
inductive Json where
  | null
  | bool (b : Bool)
  | num (n : JsonNumber)
  | str (s : String)
  | arr (items : List Json)
  | obj (fields : List (String × Json))

namespace Json

/-! ## Equality -/

mutual

/-- `Value::eq`. -/
def beq : Json → Json → Bool
  | .null, .null => true
  | .bool a, .bool b => a == b
  | .num m, .num n => decide (m = n)
  | .str s, .str t => s == t
  | .arr xs, .arr ys => beqItems xs ys
  | .obj xs, .obj ys => beqFields xs ys
  | _, _ => false

/-- Item by item. -/
def beqItems : List Json → List Json → Bool
  | [], [] => true
  | x :: xs, y :: ys => beq x y && beqItems xs ys
  | _, _ => false

/-- Entry by entry, in key order. -/
def beqFields : List (String × Json) → List (String × Json) → Bool
  | [], [] => true
  | (k, x) :: xs, (l, y) :: ys => k == l && beq x y && beqFields xs ys
  | _, _ => false

end

mutual

theorem beq_iff : ∀ a b : Json, beq a b = true ↔ a = b
  | .null, b => by cases b <;> simp [beq]
  | .bool a, b => by cases b <;> simp [beq]
  | .num m, b => by cases b <;> simp [beq]
  | .str s, b => by cases b <;> simp [beq]
  | .arr xs, b => by cases b <;> simp [beq, beqItems_iff xs]
  | .obj xs, b => by cases b <;> simp [beq, beqFields_iff xs]

theorem beqItems_iff : ∀ xs ys : List Json, beqItems xs ys = true ↔ xs = ys
  | [], ys => by cases ys <;> simp [beqItems]
  | x :: xs, ys => by
    cases ys with
    | nil => simp [beqItems]
    | cons y ys => simp [beqItems, beq_iff x, beqItems_iff xs]

theorem beqFields_iff : ∀ xs ys : List (String × Json), beqFields xs ys = true ↔ xs = ys
  | [], ys => by cases ys <;> simp [beqFields]
  | (k, x) :: xs, ys => by
    cases ys with
    | nil => simp [beqFields]
    | cons y ys =>
      obtain ⟨l, y⟩ := y
      simp [beqFields, beq_iff x, beqFields_iff xs]

end

instance : DecidableEq Json := fun a b => decidable_of_iff (beq a b = true) (beq_iff a b)

/-! ## Objects -/

/-- `Map::get`. -/
def field (key : String) (fields : List (String × Json)) : Option Json :=
  fields.lookup key

/-- `Map::contains_key`. -/
def containsKey (key : String) (fields : List (String × Json)) : Bool :=
  (field key fields).isSome

/-- `Map::insert`: replace the entry of `key`, or put a new one at its place in
the key order. -/
def insert (key : String) (value : Json) : List (String × Json) → List (String × Json)
  | [] => [(key, value)]
  | (k, v) :: rest =>
    if k = key then (key, value) :: rest
    else if key < k then (key, value) :: (k, v) :: rest
    else (k, v) :: insert key value rest

theorem field_nil (key : String) : field key [] = none := rfl

theorem field_cons_self (key : String) (value : Json) (rest : List (String × Json)) :
    field key ((key, value) :: rest) = some value := by
  simp [field]

theorem field_cons_of_ne {key other : String} (h : key ≠ other) (value : Json)
    (rest : List (String × Json)) : field key ((other, value) :: rest) = field key rest := by
  rw [field, List.lookup_cons, beq_eq_false_iff_ne.mpr h]
  rfl

/-- What is inserted is there. -/
@[simp] theorem field_insert_self (key : String) (value : Json) (fields : List (String × Json)) :
    field key (insert key value fields) = some value := by
  induction fields with
  | nil => exact field_cons_self key value []
  | cons entry rest ih =>
    obtain ⟨k, v⟩ := entry
    rw [insert]
    split_ifs with hk hlt
    · exact field_cons_self key value rest
    · exact field_cons_self key value _
    · rw [field_cons_of_ne (Ne.symm hk)]
      exact ih

/-- Nothing else changes. -/
theorem field_insert_of_ne {key other : String} (h : other ≠ key) (value : Json)
    (fields : List (String × Json)) :
    field other (insert key value fields) = field other fields := by
  induction fields with
  | nil => exact field_cons_of_ne h value []
  | cons entry rest ih =>
    obtain ⟨k, v⟩ := entry
    rw [insert]
    split_ifs with hk hlt
    · rw [field_cons_of_ne h, field_cons_of_ne (hk ▸ h)]
    · exact field_cons_of_ne h value _
    · by_cases hother : other = k
      · rw [hother, field_cons_self, field_cons_self]
      · rw [field_cons_of_ne hother, field_cons_of_ne hother]
        exact ih

theorem field_insert (key other : String) (value : Json) (fields : List (String × Json)) :
    field other (insert key value fields) =
      if other = key then some value else field other fields := by
  split_ifs with h
  · rw [h, field_insert_self]
  · exact field_insert_of_ne h value fields

/-! ## Key order -/

/-- The entries stand in key order, each key once. -/
def Ordered (fields : List (String × Json)) : Prop :=
  fields.Pairwise fun a b => a.1 < b.1

theorem Ordered.nil : Ordered [] := List.Pairwise.nil

/-- A key before the first is not there. -/
theorem field_eq_none_of_lt {key : String} {fields : List (String × Json)}
    (h : ∀ entry ∈ fields, key < entry.1) : field key fields = none := by
  induction fields with
  | nil => exact field_nil key
  | cons entry rest ih =>
    obtain ⟨k, v⟩ := entry
    rw [field_cons_of_ne (h (k, v) List.mem_cons_self).ne]
    exact ih fun other hother => h other (List.mem_cons_of_mem _ hother)

theorem mem_insert {key : String} {value : Json} {fields : List (String × Json)}
    {entry : String × Json} (h : entry ∈ insert key value fields) :
    entry = (key, value) ∨ entry ∈ fields := by
  induction fields with
  | nil => exact .inl (List.mem_singleton.mp h)
  | cons head rest ih =>
    obtain ⟨k, v⟩ := head
    rw [insert] at h
    split_ifs at h with hk hlt
    · rcases List.mem_cons.mp h with h | h
      · exact .inl h
      · exact .inr (List.mem_cons_of_mem _ h)
    · rcases List.mem_cons.mp h with h | h
      · exact .inl h
      · exact .inr h
    · rcases List.mem_cons.mp h with h | h
      · exact .inr (h ▸ List.mem_cons_self)
      · exact (ih h).imp_right fun h => List.mem_cons_of_mem _ h

theorem Ordered.insert {fields : List (String × Json)} (h : Ordered fields) (key : String)
    (value : Json) : Ordered (insert key value fields) := by
  induction fields with
  | nil => exact List.pairwise_singleton _ _
  | cons head rest ih =>
    obtain ⟨k, v⟩ := head
    obtain ⟨hhead, hrest⟩ := List.pairwise_cons.mp h
    rw [Json.insert]
    split_ifs with hk hlt
    · exact List.pairwise_cons.mpr ⟨fun entry hentry => hk ▸ hhead entry hentry, hrest⟩
    · refine List.pairwise_cons.mpr ⟨fun entry hentry => ?_, h⟩
      rcases List.mem_cons.mp hentry with rfl | hentry
      · exact hlt
      · exact hlt.trans (hhead entry hentry)
    · refine List.pairwise_cons.mpr ⟨fun entry hentry => ?_, ih hrest⟩
      rcases mem_insert hentry with rfl | hentry
      · exact lt_of_le_of_ne (not_lt.mp hlt) hk
      · exact hhead entry hentry

/-- `Map::entry(key).or_insert(value)`. -/
def orInsert (key : String) (value : Json) (fields : List (String × Json)) : List (String × Json) :=
  if containsKey key fields then fields else insert key value fields

theorem Ordered.orInsert {fields : List (String × Json)} (h : Ordered fields) (key : String)
    (value : Json) : Ordered (orInsert key value fields) := by
  unfold Json.orInsert
  split_ifs
  · exact h
  · exact h.insert key value

/-- `Value::as_str`. -/
def asStr : Json → Option String
  | .str s => some s
  | _ => none

end Json
