/-
# Maps that are built from lists

Items are put under their keys one after the other: a new key goes to the end,
and a known one keeps its place and takes the new item. So the keys of a map
that is built from a list are those of the items in the order in which they
first come, and each holds the last of its items (`OrderedMap.keys_ofItems`,
`OrderedMap.get?_ofItems`), which together tell all of its entries
(`OrderedMap.entries_ofItems`).

A JSON list is read item by item, and the first item that is refused decides
(`Wire.readEach_eq_ok_iff`, `Wire.readEach_eq_error_iff`). The values of a map
make the same map again just if every entry stands under its own key; that no
key stands twice holds of whatever operations make (`OrderedMap.nodup_keys_made`).

Key definitions: `OrderedMap.lastWith`, `OrderedMap.Change`, `OrderedMap.made`.
Key theorems: `OrderedMap.entries_ofItems`, `Wire.readEach_eq_ok_iff`,
`Wire.readEach_eq_error_iff`, `OrderedMap.nodup_keys_made`,
`OrderedMap.ofItems_exact`.
-/
import FleetTelemetry.Proofs.RoundTrip
import Mathlib.Data.List.Basic

namespace FleetTelemetry

open Json (Fault)

/-! ### Items under their keys -/

namespace OrderedMap

variable {κ α : Type} [DecidableEq κ]

theorem entries_eq_filterMap_keys {m : OrderedMap κ α} (h : m.keys.Nodup) :
    m.entries = m.keys.filterMap fun k => (m.get? k).map fun a => (k, a) := by
  have hfound : ∀ e ∈ m.entries, (m.get? e.1).map (fun a => (e.1, a)) = some e := fun e he => by
    rw [(mem_entries_iff h).mp he]
    rfl
  rw [keys, List.filterMap_map]
  exact ((List.filterMap_congr hfound).trans (List.filterMap_some ..)).symm

variable [Keyed α κ]

/-- The last item with a key. -/
def lastWith (k : κ) (items : List α) : Option α := (items.filter fun a => key a = k).getLast?

theorem lastWith_cons (k : κ) (a : α) (items : List α) :
    lastWith k (a :: items) = (lastWith k items).or (if key a = k then some a else none) := by
  unfold lastWith
  by_cases h : key a = k
  · rw [List.filter_cons_of_pos (by simpa using h), List.getLast?_cons, if_pos h]
    cases (items.filter fun a => key a = k).getLast? <;> rfl
  · rw [List.filter_cons_of_neg (by simpa using h), if_neg h, Option.or_none]

theorem get?_insertItem (m : OrderedMap κ α) (a : α) (k : κ) :
    (m.insertItem a).get? k = if key a = k then some a else m.get? k := by
  rw [insertItem, get?_insert]
  simp only [eq_comm]

theorem keys_insertItem (m : OrderedMap κ α) (a : α) :
    (m.insertItem a).keys = if key a ∈ m.keys then m.keys else m.keys ++ [key a] :=
  keys_upsert m (key a) a fun _ => a

theorem get?_foldl_insertItem (items : List α) (m : OrderedMap κ α) (k : κ) :
    (items.foldl insertItem m).get? k = (lastWith k items).or (m.get? k) := by
  induction items generalizing m with
  | nil => rfl
  | cons a items ih =>
    rw [List.foldl_cons, ih, get?_insertItem, lastWith_cons, Option.or_assoc]
    split <;> rfl

/-- Known keys keep their places, and new ones follow in the order of their first items. -/
theorem keys_foldl_insertItem (items : List α) (m : OrderedMap κ α) :
    (items.foldl insertItem m).keys = m.keys ++ firstNamed m.keys (items.map key) := by
  induction items generalizing m with
  | nil => exact (List.append_nil _).symm
  | cons a items ih =>
    rw [List.foldl_cons, ih, keys_insertItem, List.map_cons]
    split
    · next h => rw [firstNamed_cons_of_mem h]
    · next h => rw [firstNamed_cons_of_not_mem h, List.append_assoc, List.singleton_append]

theorem keys_ofItems (items : List α) : (ofItems items).keys = (items.map key).eraseDups := by
  refine (keys_foldl_insertItem items empty).trans ?_
  show firstNamed [] (items.map key) = _
  rw [firstNamed, List.filter_eq_self.mpr fun _ _ => by simp]

theorem get?_ofItems (items : List α) (k : κ) : (ofItems items).get? k = lastWith k items :=
  (get?_foldl_insertItem items empty k).trans Option.or_none

/-- **What a map that is built from a list holds.** -/
theorem entries_ofItems (items : List α) :
    (ofItems items).entries =
      (items.map key).eraseDups.filterMap fun k => (lastWith k items).map fun a => (k, a) := by
  rw [entries_eq_filterMap_keys (wellKeyed_ofItems items).nodup, keys_ofItems]
  simp only [get?_ofItems]

/-! ### Maps that operations make -/

/-- What can be done to a map of items. -/
inductive Change (κ α : Type) where
  /-- An item is put under its own key. -/
  | insert (a : α)
  /-- What is under a key is updated, or an item is put there whatever its own key. -/
  | upsert (k : κ) (create : α) (update : α → α)
  /-- What is under a key is changed, if anything is. -/
  | modify (k : κ) (f : α → α)

/-- A map after a change. -/
def change (m : OrderedMap κ α) : Change κ α → OrderedMap κ α
  | .insert a => m.insertItem a
  | .upsert k create update => m.upsert k create update
  | .modify k f => m.modify k f

/-- The map that changes make of nothing. -/
def made (changes : List (Change κ α)) : OrderedMap κ α := changes.foldl change empty

theorem nodup_keys_change {m : OrderedMap κ α} (h : m.keys.Nodup) (c : Change κ α) :
    (m.change c).keys.Nodup := by
  cases c with
  | insert a => exact nodup_keys_upsert h (key a) a _
  | upsert k create update => exact nodup_keys_upsert h k create update
  | modify k f => exact (keys_modify m k f).symm ▸ h

theorem nodup_keys_made (changes : List (Change κ α)) : (made changes).keys.Nodup := by
  suffices h : ∀ m : OrderedMap κ α, m.keys.Nodup → (changes.foldl change m).keys.Nodup from
    h empty List.nodup_nil
  induction changes with
  | nil => exact fun _ h => h
  | cons c changes ih => exact fun m h => ih _ (nodup_keys_change h c)

theorem ofItems_values_iff {m : OrderedMap κ α} : ofItems m.values = m ↔ m.WellKeyed :=
  ⟨fun h => h ▸ wellKeyed_ofItems _, ofItems_values⟩

end OrderedMap

/-! ### Lists that are read -/

namespace Wire

variable {α : Type} {read : Json → Except Fault α}

theorem readEach_eq_ok_iff {js : List Json} {as : List α} :
    readEach read js = .ok as ↔ js.map read = as.map .ok := by
  induction js generalizing as with
  | nil => cases as <;> simp [readEach]
  | cons j js ih =>
    unfold readEach
    split
    · next f hf => cases as <;> simp [hf]
    · next a ha =>
      cases hrest : readEach read js with
      | error f =>
        cases as with
        | nil => simp
        | cons b bs =>
          have hne : ¬ js.map read = bs.map .ok := fun h => by
            rw [ih.mpr h] at hrest
            cases hrest
          simp [hne]
      | ok as' =>
        cases as with
        | nil => simp
        | cons b bs =>
          rw [List.map_cons, List.map_cons, ha, List.cons.injEq, ← ih, hrest]
          simp

/-- **The first item that is refused decides.** -/
theorem readEach_eq_error_iff {js : List Json} {f : Fault} :
    readEach read js = .error f ↔
      ∃ (before : List Json) (j : Json) (after : List Json) (as : List α),
        js = before ++ j :: after ∧ before.map read = as.map .ok ∧ read j = .error f := by
  constructor
  · intro h
    induction js with
    | nil => cases h
    | cons j js ih =>
      unfold readEach at h
      split at h
      · next f' hf =>
        obtain rfl := Except.error.inj h
        exact ⟨[], j, js, [], rfl, rfl, hf⟩
      · next a ha =>
        split at h
        · next f' hrest =>
          obtain rfl := Except.error.inj h
          obtain ⟨before, j', after, as, rfl, hbefore, hj⟩ := ih hrest
          refine ⟨j :: before, j', after, a :: as, rfl, ?_, hj⟩
          rw [List.map_cons, List.map_cons, ha, hbefore]
        · cases h
  · rintro ⟨before, j, after, as, rfl, hbefore, hj⟩
    induction before generalizing as with
    | nil => simp only [List.nil_append, readEach, hj]
    | cons b before ih =>
      cases as with
      | nil => cases hbefore
      | cons a as =>
        obtain ⟨hb, hbefore⟩ := List.cons.inj hbefore
        simp only [List.cons_append, readEach, hb, ih as hbefore]

theorem readEach_eq_error_of_mem {js : List Json} {j : Json} (hj : j ∈ js) {f : Fault}
    (hf : read j = .error f) : ∃ f', readEach read js = .error f' := by
  cases h : readEach read js with
  | error f' => exact ⟨f', rfl⟩
  | ok as =>
    have hmem : read j ∈ as.map .ok := readEach_eq_ok_iff.mp h ▸ List.mem_map_of_mem hj
    obtain ⟨a, -, ha⟩ := List.mem_map.mp hmem
    rw [hf] at ha
    cases ha

variable {κ : Type} [DecidableEq κ] [Keyed α κ] [Wire α]

theorem read_arr_eq (js : List Json) :
    (Wire.read (.arr js) : Except Fault (OrderedMap κ α)) =
      (readEach Wire.read js).map OrderedMap.ofItems := rfl

end Wire

namespace OrderedMap

/-- **Maps of items are built from lists in one way.** The keys of a map that is built from a list
are the distinct keys of the items in the order in which they first come, and under each of them
stands the last item with that key. A JSON list is read as the same map if each of its items is
read, and so is the list that items without loss are written as; a list with an item that is refused
is refused as a whole, with the fault of the first such item. No key stands twice in a map that
changes make, and it is the map of its own values just if each entry stands under its own key. -/
theorem ofItems_exact {κ α : Type} [DecidableEq κ] [Keyed α κ] [Wire α] :
    (∀ items : List α,
      (ofItems items).keys = (items.map key).eraseDups ∧
      (∀ k, (ofItems items).get? k = lastWith k items) ∧
      (ofItems items).entries =
        (items.map key).eraseDups.filterMap fun k => (lastWith k items).map fun a => (k, a)) ∧
    (∀ (js : List Json) (m : OrderedMap κ α), Wire.read (.arr js) = .ok m ↔
      ∃ items : List α, js.map Wire.read = items.map .ok ∧ ofItems items = m) ∧
    (∀ [Lossless α] (items : List α), (∀ a ∈ items, Plain a) →
      Wire.read (.arr (items.map Wire.write)) = .ok (ofItems items)) ∧
    (∀ js : List Json, (∃ j ∈ js, ∃ f, (Wire.read j : Except Fault α) = .error f) →
      ∃ (before : List Json) (j : Json) (after : List Json) (read : List α) (f : Fault),
        js = before ++ j :: after ∧ before.map Wire.read = read.map .ok ∧
        (Wire.read j : Except Fault α) = .error f ∧
        (Wire.read (.arr js) : Except Fault (OrderedMap κ α)) = .error f) ∧
    ∀ changes : List (Change κ α), (made changes).keys.Nodup ∧
      (ofItems (made changes).values = made changes ↔
        ∀ e ∈ (made changes).entries, key e.2 = e.1) := by
  refine ⟨fun items => ⟨keys_ofItems items, get?_ofItems items, entries_ofItems items⟩,
    fun js m => ?_, fun items h => ?_, fun js h => ?_, fun changes => ?_⟩
  · rw [Wire.read_arr_eq]
    constructor
    · intro h
      obtain ⟨items, hitems, hm⟩ := Wire.of_map_eq_ok h
      exact ⟨items, Wire.readEach_eq_ok_iff.mp hitems, hm⟩
    · rintro ⟨items, hitems, rfl⟩
      rw [Wire.readEach_eq_ok_iff.mpr hitems]
      rfl
  · rw [Wire.read_arr_eq, Lossless.readEach_map_write h]
    rfl
  · obtain ⟨j, hj, f, hf⟩ := h
    obtain ⟨f, hrefused⟩ := Wire.readEach_eq_error_of_mem hj hf
    obtain ⟨before, j, after, read, rfl, hbefore, hj⟩ := Wire.readEach_eq_error_iff.mp hrefused
    refine ⟨before, j, after, read, f, rfl, hbefore, hj, ?_⟩
    rw [Wire.read_arr_eq, hrefused]
    rfl
  · have hnodup := nodup_keys_made changes
    exact ⟨hnodup, ofItems_values_iff.trans ⟨WellKeyed.own, fun hown => ⟨hnodup, hown⟩⟩⟩

/-- A disk that comes twice keeps its place and takes what is said of it last; a list with a null in
it is no list of disks; a disk that was put under a foreign key does not come back to it. -/
theorem ofItems_exact_repeatedDisk :
    let disk (device : String) (used : UInt64) : DiskStat := { device, used }
    let items := [disk "sda" 1, disk "sdb" 2, disk "sda" 3]
    let foreign : List (Change String DiskStat) := [.upsert "sdc" (disk "sda" 4) id]
    (ofItems items).keys = ["sda", "sdb"] ∧
      (ofItems items).get? "sda" = some (disk "sda" 3) ∧
      Wire.read (.arr (items.map Wire.write)) = .ok (ofItems items) ∧
      (∃ f, (Wire.read (.arr (items.map Wire.write ++ [.null])) :
        Except Fault (OrderedMap String DiskStat)) = .error f) ∧
      ofItems (made foreign).values ≠ made foreign := by
  intro disk items foreign
  have hplain (device : String) (used : UInt64) : Plain (disk device used) :=
    ⟨Double.isFinite_zero, Double.isFinite_zero⟩
  obtain ⟨hbuilt, -, hwritten, hrefused, hmade⟩ := ofItems_exact (κ := String) (α := DiskStat)
  refine ⟨(hbuilt items).1.trans (by decide), ((hbuilt items).2.1 "sda").trans rfl,
    hwritten items ?_, ?_, fun h => ?_⟩
  · simp only [items, List.forall_mem_cons]
    exact ⟨hplain "sda" 1, hplain "sdb" 2, hplain "sda" 3, List.forall_mem_nil _⟩
  · obtain ⟨_, _, _, _, f, _, _, _, h⟩ := hrefused (items.map Wire.write ++ [.null])
      ⟨.null, by simp, _, rfl⟩
    exact ⟨f, h⟩
  · have hown := (hmade foreign).2.mp h ("sdc", disk "sda" 4) (List.mem_singleton_self _)
    exact absurd hown (by decide)

end OrderedMap
end FleetTelemetry
