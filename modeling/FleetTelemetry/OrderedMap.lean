/-
# Maps in insertion order

At most one value under a key; entries stand in the order in which their keys
first came. Replacing a value keeps its place. A map of devices is read from a
list of devices by inserting each under its own key.

Key definitions: `OrderedMap`, `OrderedMap.get?`, `OrderedMap.upsert`,
`OrderedMap.insert`, `OrderedMap.modify`, `OrderedMap.erase`, `Keyed`,
`OrderedMap.ofItems`.
Key theorems: `OrderedMap.get?_upsert_self`, `OrderedMap.get?_upsert_of_ne`,
`OrderedMap.keys_upsert`, `OrderedMap.get?_insert`, `OrderedMap.insert_of_get?`,
`OrderedMap.get?_erase`, `OrderedMap.lookup_map_snd`, `OrderedMap.mem_keys_iff`,
`OrderedMap.nodup_keys_upsert`, `OrderedMap.nodup_keys_erase`, `OrderedMap.mem_entries_iff`.
-/
namespace FleetTelemetry

/-- Entries in the order in which their keys first came. -/
structure OrderedMap (κ α : Type) where
  entries : List (κ × α) := []

namespace OrderedMap

variable {κ α β : Type} [DecidableEq κ]

instance : Inhabited (OrderedMap κ α) := ⟨{}⟩

/-- No entries. -/
def empty : OrderedMap κ α := ⟨[]⟩

/-- The keys in the order in which they came. -/
def keys (m : OrderedMap κ α) : List κ := m.entries.map Prod.fst

/-- The values in the order of their keys. -/
def values (m : OrderedMap κ α) : List α := m.entries.map Prod.snd

def size (m : OrderedMap κ α) : Nat := m.entries.length

def isEmpty (m : OrderedMap κ α) : Bool := m.entries.isEmpty

/-- The value under a key. -/
def get? (m : OrderedMap κ α) (k : κ) : Option α := m.entries.lookup k

def contains (m : OrderedMap κ α) (k : κ) : Bool := (m.get? k).isSome

/-- Updates the value under `k`, or appends `create`. -/
def upsertEntry (k : κ) (create : α) (update : α → α) : List (κ × α) → List (κ × α)
  | [] => [(k, create)]
  | e :: es => if e.1 = k then (e.1, update e.2) :: es else e :: upsertEntry k create update es

/-- Updates the value under a key in its place, or appends a new one. -/
def upsert (m : OrderedMap κ α) (k : κ) (create : α) (update : α → α) : OrderedMap κ α :=
  ⟨upsertEntry k create update m.entries⟩

/-- Puts a value under a key, in the place of the one that was there. -/
def insert (m : OrderedMap κ α) (k : κ) (a : α) : OrderedMap κ α :=
  m.upsert k a fun _ => a

/-- Updates the value under a key, if there is one. -/
def modify (m : OrderedMap κ α) (k : κ) (f : α → α) : OrderedMap κ α :=
  ⟨m.entries.map fun e => if e.1 = k then (e.1, f e.2) else e⟩

/-- Drops what is under a key. -/
def erase (m : OrderedMap κ α) (k : κ) : OrderedMap κ α :=
  ⟨m.entries.filter fun e => e.1 ≠ k⟩

/-- Upserts under the key of each element in turn: `apply` on what is there, or on a fresh value. -/
def upsertEach (key : β → κ) (fresh : κ → α) (apply : β → α → α) (bs : List β)
    (m : OrderedMap κ α) : OrderedMap κ α :=
  bs.foldl (fun m b => m.upsert (key b) (apply b (fresh (key b))) (apply b)) m

/-- Same size and the same value under every key; the order does not count. -/
instance [BEq α] : BEq (OrderedMap κ α) where
  beq m n := m.size == n.size && m.entries.all fun e => n.get? e.1 == some e.2

/-! ### Views of an upsert -/

omit [DecidableEq κ] in
@[simp] theorem keys_mk (es : List (κ × α)) : (OrderedMap.mk es).keys = es.map Prod.fst := rfl

theorem get?_upsert_self (m : OrderedMap κ α) (k : κ) (create : α) (update : α → α) :
    (m.upsert k create update).get? k = some (((m.get? k).map update).getD create) := by
  obtain ⟨es⟩ := m
  simp only [get?, upsert]
  induction es with
  | nil => simp [upsertEntry]
  | cons e es ih =>
    obtain ⟨k', a⟩ := e
    by_cases h : k' = k
    · subst h
      simp [upsertEntry]
    · have h' : (k == k') = false := by simpa using Ne.symm h
      simp only [upsertEntry, if_neg h, List.lookup_cons, h']
      exact ih

theorem get?_upsert_of_ne (m : OrderedMap κ α) {k k' : κ} (h : k' ≠ k) (create : α)
    (update : α → α) : (m.upsert k create update).get? k' = m.get? k' := by
  obtain ⟨es⟩ := m
  simp only [get?, upsert]
  induction es with
  | nil =>
    have h' : (k' == k) = false := by simpa using h
    simp [upsertEntry, List.lookup_cons, h']
  | cons e es ih =>
    obtain ⟨k₁, a⟩ := e
    by_cases h₁ : k₁ = k
    · subst h₁
      have h' : (k' == k₁) = false := by simpa using h
      simp [upsertEntry, List.lookup_cons, h']
    · simp only [upsertEntry, if_neg h₁, List.lookup_cons]
      rw [ih]

/-- An upsert keeps the order of the keys and appends a new one at the end. -/
theorem keys_upsert (m : OrderedMap κ α) (k : κ) (create : α) (update : α → α) :
    (m.upsert k create update).keys = if k ∈ m.keys then m.keys else m.keys ++ [k] := by
  obtain ⟨es⟩ := m
  simp only [keys, upsert]
  induction es with
  | nil => simp [upsertEntry]
  | cons e es ih =>
    obtain ⟨k', a⟩ := e
    by_cases h : k' = k
    · subst h
      simp [upsertEntry]
    · simp only [upsertEntry, if_neg h, List.map_cons, ih, List.mem_cons, Ne.symm h, false_or]
      split <;> simp_all

/-! ### Views of the other operations -/

theorem get?_insert (m : OrderedMap κ α) (k k' : κ) (a : α) :
    (m.insert k a).get? k' = if k' = k then some a else m.get? k' := by
  unfold insert
  split
  · next h =>
    subst h
    rw [get?_upsert_self]
    cases m.get? k' <;> rfl
  · next h => exact get?_upsert_of_ne m h _ _

/-- To put in place what is there changes nothing. -/
theorem insert_of_get? {m : OrderedMap κ α} {k : κ} {a : α} (h : m.get? k = some a) :
    m.insert k a = m := by
  obtain ⟨es⟩ := m
  refine congrArg OrderedMap.mk ?_
  simp only [get?] at h
  induction es with
  | nil => cases h
  | cons e es ih =>
    obtain ⟨k', b⟩ := e
    by_cases hk : k' = k
    · subst hk
      simp only [List.lookup_cons, beq_self_eq_true, Option.some.injEq] at h
      simp [upsertEntry, h]
    · have hk' : (k == k') = false := by simpa using Ne.symm hk
      rw [List.lookup_cons, hk'] at h
      rw [upsertEntry, if_neg hk, ih h]

theorem get?_erase (m : OrderedMap κ α) (k k' : κ) :
    (m.erase k).get? k' = if k' = k then none else m.get? k' := by
  obtain ⟨es⟩ := m
  simp only [get?, erase]
  induction es with
  | nil => simp
  | cons e es ih =>
    obtain ⟨k₁, a⟩ := e
    by_cases h₁ : k₁ = k
    · subst h₁
      simp only [ne_eq, not_true_eq_false, decide_false, Bool.false_eq_true, not_false_eq_true,
        List.filter_cons_of_neg, ih, List.lookup_cons]
      by_cases h : k' = k₁
      · simp [h]
      · have h' : (k' == k₁) = false := by simpa using h
        simp [h, h']
    · simp only [ne_eq, h₁, not_false_eq_true, decide_true, List.filter_cons_of_pos,
        List.lookup_cons, ih]
      by_cases h : k' = k₁
      · subst h
        simp [h₁]
      · have h' : (k' == k₁) = false := by simpa using h
        simp [h']

/-- What is found among mapped values is the image of what was found. -/
theorem lookup_map_snd (f : α → β) (entries : List (κ × α)) (k : κ) :
    (entries.map fun e => (e.1, f e.2)).lookup k = (entries.lookup k).map f := by
  induction entries with
  | nil => rfl
  | cons e entries ih =>
    obtain ⟨k', a⟩ := e
    simp only [List.map_cons, List.lookup_cons, ih]
    cases k == k' <;> rfl

theorem mem_keys_iff (m : OrderedMap κ α) (k : κ) : k ∈ m.keys ↔ (m.get? k).isSome = true := by
  obtain ⟨es⟩ := m
  simp only [keys, get?]
  induction es with
  | nil => simp
  | cons e es ih =>
    obtain ⟨k', a⟩ := e
    by_cases h : k = k'
    · subst h
      simp
    · have h' : (k == k') = false := by simpa using h
      simp only [List.map_cons, List.mem_cons, h, false_or, ih, List.lookup_cons, h']

/-! ### Distinct keys -/

theorem nodup_keys_upsert {m : OrderedMap κ α} (h : m.keys.Nodup) (k : κ) (create : α)
    (update : α → α) : (m.upsert k create update).keys.Nodup := by
  rw [keys_upsert]
  split
  · exact h
  · next hk =>
    refine List.nodup_append.mpr ⟨h, List.nodup_cons.mpr ⟨List.not_mem_nil, List.nodup_nil⟩, ?_⟩
    intro a ha b hb hab
    rw [List.mem_singleton.mp hb] at hab
    exact hk (hab ▸ ha)

theorem nodup_keys_erase {m : OrderedMap κ α} (h : m.keys.Nodup) (k : κ) :
    (m.erase k).keys.Nodup :=
  h.sublist (List.filter_sublist.map Prod.fst)

/-- Where keys are distinct, an entry is what is found under its key. -/
theorem mem_entries_iff {m : OrderedMap κ α} (h : m.keys.Nodup) {k : κ} {a : α} :
    (k, a) ∈ m.entries ↔ m.get? k = some a := by
  obtain ⟨es⟩ := m
  simp only [keys, get?] at *
  induction es with
  | nil => simp
  | cons e es ih =>
    obtain ⟨k', a'⟩ := e
    obtain ⟨hk', hes⟩ := List.nodup_cons.mp h
    by_cases hk : k = k'
    · subst hk
      have hnot : (k, a) ∉ es := fun hmem => hk' (List.mem_map.mpr ⟨_, hmem, rfl⟩)
      simp only [List.mem_cons, Prod.mk.injEq, true_and, hnot, or_false, List.lookup_cons_self,
        Option.some.injEq, eq_comm]
    · have hne : (k == k') = false := by simpa using hk
      simp only [List.mem_cons, Prod.mk.injEq, hk, false_and, false_or, ih hes,
        List.lookup_cons, hne]

end OrderedMap

/-- A thing with a name of its own among its like. -/
class Keyed (α : Type) (κ : outParam Type) where
  key : α → κ

export Keyed (key)

namespace OrderedMap

variable {κ α : Type} [DecidableEq κ] [Keyed α κ]

/-- Puts an item under its own key. -/
def insertItem (m : OrderedMap κ α) (a : α) : OrderedMap κ α := m.insert (key a) a

/-- The map of a list of items; of two with one key the later stays, in the place of the first. -/
def ofItems (items : List α) : OrderedMap κ α := items.foldl insertItem empty

end OrderedMap
end FleetTelemetry
