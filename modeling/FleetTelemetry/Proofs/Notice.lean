/-
# What updates say of devices

Of one device an update says something by a notice: counters, a description,
how full a disk is, the state of an interface. A notice writes some fields of
its device and leaves the others. It introduces a device that is not known,
which then starts blank; only the state of an interface does not, and goes by
unheard. Notices are heeded one after the other, and what
becomes of one device depends on the notices about it alone
(`OrderedMap.get?_heedAll`). The devices stand in the order in which they were
introduced (`OrderedMap.keys_heedAll`).

Key definitions: `latest`, `firstNamed`, `Device`, `Notice`, `Notice.about`,
`Notice.heeded`, `OrderedMap.heed`, `OrderedMap.heedAll`, `OrderedMap.Latest`.
Key theorems: `get_foldl`, `Notice.foldl_on`, `OrderedMap.get?_heedAll`,
`OrderedMap.latest_heedAll`, `OrderedMap.keys_heedAll`.
-/
import FleetTelemetry.Merge

namespace FleetTelemetry

/-! ### Last writes -/

/-- The last of some writes, or the value before them. -/
def latest {V : Type} (before : V) (writes : List V) : V := writes.getLast?.getD before

section Latest

variable {V : Type}

@[simp] theorem latest_cons (before w : V) (ws : List V) :
    latest before (w :: ws) = latest w ws := by
  rw [latest, List.getLast?_cons, Option.getD_some, latest]

/-- Writes that are made again change nothing. -/
theorem latest_again (before : V) (ws : List V) :
    latest (latest before ws) ws = latest before ws := by
  cases ws with
  | nil => rfl
  | cons w ws => rw [latest_cons, latest_cons]

/-- What is written or left by each of some steps is the last of the writes in the end. -/
theorem get_foldl {σ β : Type} {get : σ → V} {said : β → Option V} {apply : β → σ → σ}
    (h : ∀ b x, get (apply b x) = (said b).getD (get x)) (bs : List β) (x : σ) :
    get (bs.foldl (fun x b => apply b x) x) = latest (get x) (bs.filterMap said) := by
  induction bs generalizing x with
  | nil => rfl
  | cons b bs ih =>
    rw [List.foldl_cons, ih, h]
    cases hb : said b with
    | none => rw [List.filterMap_cons_none hb, Option.getD_none]
    | some v => rw [List.filterMap_cons_some hb, Option.getD_some, latest_cons]

end Latest

/-! ### First mentions -/

/-- The keys that are named and not known, in the order in which they are first named. -/
def firstNamed {κ : Type} [DecidableEq κ] (known named : List κ) : List κ :=
  (named.filter fun k => k ∉ known).eraseDups

section FirstNamed

variable {κ : Type} [DecidableEq κ]

theorem firstNamed_nil (known : List κ) : firstNamed known [] = [] := rfl

theorem firstNamed_cons_of_mem {k : κ} {known : List κ} (h : k ∈ known) (named : List κ) :
    firstNamed known (k :: named) = firstNamed known named := by
  rw [firstNamed, List.filter_cons_of_neg (by simpa using h), firstNamed]

/-- A key that is named and not known is known from then on. -/
theorem firstNamed_cons_of_not_mem {k : κ} {known : List κ} (h : k ∉ known) (named : List κ) :
    firstNamed known (k :: named) = k :: firstNamed (known ++ [k]) named := by
  have hrest : ((named.filter fun k' => k' ∉ known).filter fun k' => !k' == k) =
      named.filter fun k' => k' ∉ known ++ [k] := by
    rw [List.filter_filter]
    refine List.filter_congr fun k' _ => ?_
    by_cases hk : k' = k <;> simp [hk]
  rw [firstNamed, List.filter_cons_of_pos (by simpa using h), List.eraseDups_cons, hrest,
    firstNamed]

theorem mem_firstNamed {k : κ} {known named : List κ} :
    k ∈ firstNamed known named ↔ k ∈ named ∧ k ∉ known := by
  rw [firstNamed, List.mem_eraseDups, List.mem_filter, decide_eq_true_eq]

theorem nodup_firstNamed (known named : List κ) : (firstNamed known named).Nodup := by
  induction named generalizing known with
  | nil => exact List.nodup_nil
  | cons k named ih =>
    by_cases hk : k ∈ known
    · rw [firstNamed_cons_of_mem hk]
      exact ih known
    · rw [firstNamed_cons_of_not_mem hk]
      refine List.nodup_cons.mpr ⟨fun hmem => ?_, ih (known ++ [k])⟩
      exact (mem_firstNamed.mp hmem).2 (List.mem_append_right _ List.mem_cons_self)

end FirstNamed

/-! ### Fields and notices -/

/-- Devices of one kind, found under a key and determined by their fields, each of its own type. -/
class Device (α : Type) (κ : outParam Type) (φ : outParam (Type → Type)) where
  /-- A device of which nothing is known but its key. -/
  blank : κ → α
  get : {V : Type} → φ V → α → V
  ext : ∀ {a b : α}, (∀ {V : Type} (f : φ V), get f a = get f b) → a = b

/-- What updates say of the devices of one kind, each notice of one device. -/
class Notice (ν : Type) (κ α : outParam Type) (φ : outParam (Type → Type)) [Device α κ φ] where
  /-- The key of the device that a notice is about. -/
  device : ν → κ
  /-- Whether a notice introduces its device if it is not known. -/
  introduces : ν → Bool
  /-- What a notice does to its device. -/
  apply : ν → α → α
  /-- What a notice writes to a field, unless it leaves it. -/
  said : {V : Type} → φ V → ν → Option V
  get_apply : ∀ {V : Type} (f : φ V) (n : ν) (a : α),
    Device.get f (apply n a) = (said f n).getD (Device.get f a)

open Device (blank)
open Notice (device introduces said)

variable {ν κ α : Type} {φ : Type → Type} [Device α κ φ] [Notice ν κ α φ]

namespace Notice

/-- What a notice does to a device that may be unknown. -/
def on (x : Option α) (n : ν) : Option α :=
  if introduces n then some (Notice.apply n (x.getD (blank (device n))))
  else x.map (Notice.apply n)

/-- The notices about one device. -/
def about [DecidableEq κ] (k : κ) (ns : List ν) : List ν := ns.filter fun n => device n = k

/-- The notices that a device heeds: those that come before it is introduced go by. -/
def heeded (known : Bool) (ns : List ν) : List ν :=
  if known then ns else ns.dropWhile fun n => !introduces n

theorem about_cons [DecidableEq κ] (k : κ) (n : ν) (ns : List ν) :
    about k (n :: ns) = if device n = k then n :: about k ns else about k ns := by
  rw [about, List.filter_cons]
  simp only [decide_eq_true_eq, about]

theorem about_append [DecidableEq κ] (k : κ) (ns ns' : List ν) :
    about k (ns ++ ns') = about k ns ++ about k ns' := List.filter_append ..

theorem device_of_mem_about [DecidableEq κ] {k : κ} {ns : List ν} {n : ν} (h : n ∈ about k ns) :
    device n = k := of_decide_eq_true (List.mem_filter.mp h).2

theorem on_of_introduces {n : ν} (h : introduces n = true) (x : Option α) :
    on x n = some (Notice.apply n (x.getD (blank (device n)))) := if_pos h

theorem on_of_not_introduces {n : ν} (h : introduces n = false) (x : Option α) :
    on x n = x.map (Notice.apply n) := if_neg (by simp [h])

theorem on_some (a : α) (n : ν) : on (some a) n = some (Notice.apply n a) := by
  unfold on
  split <;> rfl

theorem foldl_on_some (ns : List ν) (a : α) :
    ns.foldl on (some a) = some (ns.foldl (fun a n => Notice.apply n a) a) := by
  induction ns generalizing a with
  | nil => rfl
  | cons n ns ih => rw [List.foldl_cons, on_some, ih, List.foldl_cons]

/-- **A device is known if it was or if a notice about it introduces it.** It then is what it was,
or a blank device, with the notices that it heeds applied in their order. -/
theorem foldl_on {k : κ} (ns : List ν) (hk : ∀ n ∈ ns, device n = k) (x : Option α) :
    ns.foldl on x =
      if x.isSome || ns.any introduces then
        some ((heeded x.isSome ns).foldl (fun a n => Notice.apply n a) (x.getD (blank k)))
      else none := by
  cases x with
  | some a => exact foldl_on_some ns a
  | none =>
    induction ns with
    | nil => rfl
    | cons n ns ih =>
      obtain ⟨hn, hns⟩ := List.forall_mem_cons.mp hk
      rw [List.foldl_cons]
      cases hi : introduces n with
      | true =>
        rw [on_of_introduces hi, foldl_on_some, hn]
        simp [heeded, hi]
      | false =>
        rw [on_of_not_introduces hi, Option.map_none, ih hns]
        simp [heeded, hi]

end Notice

/-! ### Maps that heed notices -/

namespace OrderedMap

open Notice (about heeded)

variable [DecidableEq κ]

/-- A map of devices after a notice. -/
def heed (m : OrderedMap κ α) (n : ν) : OrderedMap κ α :=
  if introduces n then m.upsert (device n) (Notice.apply n (blank (device n))) (Notice.apply n)
  else m.modify (device n) (Notice.apply n)

/-- A map of devices after notices in their order. -/
def heedAll (m : OrderedMap κ α) (ns : List ν) : OrderedMap κ α := ns.foldl heed m

theorem heedAll_cons (m : OrderedMap κ α) (n : ν) (ns : List ν) :
    m.heedAll (n :: ns) = (m.heed n).heedAll ns := rfl

theorem heedAll_append (m : OrderedMap κ α) (ns ns' : List ν) :
    m.heedAll (ns ++ ns') = (m.heedAll ns).heedAll ns' := List.foldl_append

theorem heedAll_map {β : Type} (notice : β → ν) (bs : List β) (m : OrderedMap κ α) :
    m.heedAll (bs.map notice) = bs.foldl (fun m b => m.heed (notice b)) m := List.foldl_map

theorem get?_modify (m : OrderedMap κ α) (k k' : κ) (f : α → α) :
    (m.modify k f).get? k' = if k' = k then (m.get? k').map f else m.get? k' := by
  obtain ⟨es⟩ := m
  simp only [get?, modify]
  induction es with
  | nil => simp
  | cons e es ih =>
    obtain ⟨k₁, a⟩ := e
    by_cases h : k' = k₁
    · subst h
      by_cases hk : k' = k <;> simp [hk]
    · have h' : (k' == k₁) = false := by simpa using h
      rw [List.map_cons, apply_ite (List.lookup k' <| · :: _), List.lookup_cons, List.lookup_cons,
        List.lookup_cons, h']
      simpa using ih

theorem keys_modify (m : OrderedMap κ α) (k : κ) (f : α → α) : (m.modify k f).keys = m.keys := by
  rw [keys, modify, List.map_map]
  refine List.map_congr_left fun e _ => ?_
  show (if e.1 = k then (e.1, f e.2) else e).1 = e.1
  split <;> rfl

/-- A notice concerns its own device alone. -/
theorem get?_heed (m : OrderedMap κ α) (n : ν) (k : κ) :
    (m.heed n).get? k = if device n = k then Notice.on (m.get? k) n else m.get? k := by
  unfold heed Notice.on
  split
  · split
    · next hk =>
      rw [← hk, get?_upsert_self]
      cases m.get? (device n) <;> rfl
    · next hk => exact get?_upsert_of_ne m (Ne.symm hk) _ _
  · rw [get?_modify]
    simp only [eq_comm]

/-- **What becomes of a device depends on the notices about it alone.** -/
theorem get?_heedAll (m : OrderedMap κ α) (ns : List ν) (k : κ) :
    (m.heedAll ns).get? k = (about k ns).foldl Notice.on (m.get? k) := by
  induction ns generalizing m with
  | nil => rfl
  | cons n ns ih =>
    rw [heedAll_cons, ih, get?_heed, Notice.about_cons]
    split <;> rfl

/-- What a map becomes by notices: a device is known if it was or if a notice about it introduces
it, and each of its fields holds what was written last by the notices that it heeds, or else its
value before, or that of a blank device. -/
structure Latest (ns : List ν) (m m' : OrderedMap κ α) : Prop where
  known : ∀ k, (m'.get? k).isSome = ((m.get? k).isSome || (about k ns).any introduces)
  field : ∀ k a, m'.get? k = some a → ∀ {V : Type} (f : φ V),
    Device.get f a = latest (Device.get f ((m.get? k).getD (blank k)))
      ((heeded (m.get? k).isSome (about k ns)).filterMap (said f))

theorem latest_heedAll (m : OrderedMap κ α) (ns : List ν) : Latest ns m (m.heedAll ns) := by
  have hget := fun k => (m.get?_heedAll ns k).trans
    (Notice.foldl_on (about k ns) (fun _ => Notice.device_of_mem_about) (m.get? k))
  constructor
  · intro k
    rw [hget]
    split <;> simp_all
  · intro k a ha V f
    rw [hget] at ha
    split at ha
    · rw [← Option.some.inj ha]
      exact get_foldl (Notice.get_apply f) _ _
    · cases ha

/-- A notice keeps the order of the keys and may append its own. -/
theorem keys_heed (m : OrderedMap κ α) (n : ν) :
    (m.heed n).keys =
      if introduces n = true ∧ device n ∉ m.keys then m.keys ++ [device n] else m.keys := by
  unfold heed
  split
  · next hi =>
    rw [keys_upsert]
    by_cases hk : device n ∈ m.keys <;> simp [hi, hk]
  · next hi => rw [keys_modify, if_neg fun h => hi h.1]

/-- **Notices keep the order of the keys and append those of the devices that they introduce**, in
the order in which these are first named. -/
theorem keys_heedAll (m : OrderedMap κ α) (ns : List ν) :
    (m.heedAll ns).keys =
      m.keys ++ firstNamed m.keys ((ns.filter fun n => introduces n).map device) := by
  induction ns generalizing m with
  | nil => exact (List.append_nil _).symm
  | cons n ns ih =>
    rw [heedAll_cons, ih, keys_heed]
    by_cases hi : introduces n = true
    · rw [List.filter_cons_of_pos hi, List.map_cons]
      by_cases hk : device n ∈ m.keys
      · rw [if_neg fun h => h.2 hk, firstNamed_cons_of_mem hk]
      · rw [if_pos ⟨hi, hk⟩, firstNamed_cons_of_not_mem hk, List.append_assoc,
          List.singleton_append]
    · rw [List.filter_cons_of_neg hi, if_neg fun h => hi h.1]

end OrderedMap
end FleetTelemetry
