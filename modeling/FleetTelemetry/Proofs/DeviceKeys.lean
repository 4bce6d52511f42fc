/-
# Devices stand under their own keys

A map is well keyed if no key stands twice in it and every entry stands under
its own key. A map that is read from a list is well keyed, whatever the list
repeats (`OrderedMap.wellKeyed_ofItems`). A notice leaves the key of its device,
and a device that it introduces bears the key under which it is put, so that
notices keep a map well keyed (`OrderedMap.WellKeyed.heedAll`). They leave what
is known in its place and append what they introduce
(`OrderedMap.extends_heedAll`). So every snapshot that is read, or that has
nothing in it, is well keyed after any updates (`Update.wellKeyed_applyAll`).

Key definitions: `OrderedMap.WellKeyed`, `OrderedMap.Extends`, `Field.Keeps`,
`Field.KeepsOn`, `Snapshot.WellKeyed`.
Key theorems: `OrderedMap.wellKeyed_ofItems`, `OrderedMap.WellKeyed.heedAll`,
`OrderedMap.extends_heedAll`, `Field.keeps_readObject`, `Field.keeps_readAll`,
`Snapshot.wellKeyed_of_read`, `Snapshot.WellKeyed.applyAll`,
`Update.wellKeyed_applyAll`.
-/
import FleetTelemetry.Proofs.FieldWrites
import FleetTelemetry.Wire.Snapshot

namespace FleetTelemetry

open Device (blank)
open Notice (device introduces)

namespace OrderedMap

variable {κ α : Type} [DecidableEq κ]

/-! ### Entries -/

theorem mem_upsertEntry {k : κ} {create : α} {update : α → α} {e : κ × α} :
    ∀ {es : List (κ × α)}, e ∈ upsertEntry k create update es →
      e ∈ es ∨ e = (k, create) ∨ ∃ a, (k, a) ∈ es ∧ e = (k, update a)
  | [], h => Or.inr (Or.inl (List.mem_singleton.mp h))
  | e' :: es, h => by
    unfold upsertEntry at h
    by_cases hk : e'.1 = k
    · rw [if_pos hk] at h
      rcases List.mem_cons.mp h with rfl | h
      · subst hk
        exact Or.inr (Or.inr ⟨e'.2, List.mem_cons_self, rfl⟩)
      · exact Or.inl (List.mem_cons_of_mem _ h)
    · rw [if_neg hk] at h
      rcases List.mem_cons.mp h with rfl | h
      · exact Or.inl List.mem_cons_self
      · rcases mem_upsertEntry h with h | h | ⟨a, ha, h⟩
        · exact Or.inl (List.mem_cons_of_mem _ h)
        · exact Or.inr (Or.inl h)
        · exact Or.inr (Or.inr ⟨a, List.mem_cons_of_mem _ ha, h⟩)

theorem getElem?_upsertEntry {k : κ} (create : α) (update : α → α) {e : κ × α} (he : e.1 ≠ k) :
    ∀ {es : List (κ × α)} {i : Nat}, es[i]? = some e →
      (upsertEntry k create update es)[i]? = some e
  | [], i, h => by simp at h
  | e' :: es, 0, h => by
    obtain rfl : e' = e := by simpa using h
    simp [upsertEntry, he]
  | e' :: es, i + 1, h => by
    have htail : es[i]? = some e := by simpa using h
    by_cases hk : e'.1 = k
    · simpa [upsertEntry, hk] using htail
    · simpa [upsertEntry, hk] using getElem?_upsertEntry create update he htail

/-! ### What notices leave in place -/

section Notices

variable {ν : Type} {φ : Type → Type} [Device α κ φ] [Notice ν κ α φ]

/-- A map to which the keys of a list have been added. -/
structure Extends (m : OrderedMap κ α) (named : List κ) (m' : OrderedMap κ α) : Prop where
  /-- Every key keeps its place, and those that are new follow in the order of their mention. -/
  keys : m'.keys = m.keys ++ firstNamed m.keys named
  /-- What is not named stays as it is. -/
  unnamed : ∀ (i : Nat) (e : κ × α), m.entries[i]? = some e → e.1 ∉ named →
    m'.entries[i]? = some e

theorem getElem?_heed {m : OrderedMap κ α} {n : ν} {i : Nat} {e : κ × α}
    (h : m.entries[i]? = some e) (he : e.1 ≠ device n) : (m.heed n).entries[i]? = some e := by
  unfold heed
  by_cases hi : introduces n = true
  · rw [if_pos hi]
    exact getElem?_upsertEntry _ _ he h
  · rw [if_neg hi]
    simp only [modify, List.getElem?_map, h, Option.map_some, if_neg he]

/-- **Notices that introduce their devices** append those that are not known and leave the rest. -/
theorem extends_heedAll (m : OrderedMap κ α) {ns : List ν} (h : ∀ n ∈ ns, introduces n = true) :
    m.Extends (ns.map device) (m.heedAll ns) := by
  have hall : (ns.filter fun n => introduces n) = ns := List.filter_eq_self.mpr h
  refine ⟨by rw [keys_heedAll, hall], ?_⟩
  clear h hall
  induction ns generalizing m with
  | nil => exact fun i e he _ => he
  | cons n ns ih =>
    intro i e he hnot
    rw [List.map_cons, List.mem_cons, not_or] at hnot
    exact ih (m.heed n) i e (getElem?_heed he hnot.1) hnot.2

end Notices

/-! ### Maps whose entries stand under their own keys -/

section Keyed

variable [Keyed α κ]

/-- No key stands twice, and every entry stands under its own. -/
structure WellKeyed (m : OrderedMap κ α) : Prop where
  nodup : m.keys.Nodup
  own : ∀ e ∈ m.entries, key e.2 = e.1

omit [DecidableEq κ] in
theorem wellKeyed_empty : ({} : OrderedMap κ α).WellKeyed := ⟨List.nodup_nil, nofun⟩

theorem WellKeyed.upsert {m : OrderedMap κ α} (h : m.WellKeyed) {k : κ} {create : α}
    {update : α → α} (hc : key create = k) (hu : ∀ a : α, key a = k → key (update a) = k) :
    (m.upsert k create update).WellKeyed := by
  refine ⟨nodup_keys_upsert h.nodup k create update, fun e he => ?_⟩
  rcases mem_upsertEntry he with he | rfl | ⟨a, ha, rfl⟩
  · exact h.own e he
  · exact hc
  · exact hu a (h.own _ ha)

theorem WellKeyed.modify {m : OrderedMap κ α} (h : m.WellKeyed) (k : κ) {f : α → α}
    (hf : ∀ a : α, key (f a) = key a) : (m.modify k f).WellKeyed := by
  refine ⟨by rw [keys_modify]; exact h.nodup, fun e he => ?_⟩
  obtain ⟨e', he', rfl⟩ := List.mem_map.mp he
  have hown := h.own e' he'
  by_cases hk : e'.1 = k
  · rw [if_pos hk]
    exact (hf e'.2).trans hown
  · rw [if_neg hk]
    exact hown

/-- **A map that is read from a list is well keyed.** -/
theorem wellKeyed_ofItems (items : List α) : (ofItems items).WellKeyed := by
  suffices h : ∀ m : OrderedMap κ α, m.WellKeyed → (items.foldl insertItem m).WellKeyed from
    h _ wellKeyed_empty
  induction items with
  | nil => exact fun _ h => h
  | cons a items ih => exact fun m h => ih _ (h.upsert rfl fun _ _ => rfl)

/-- **Notices keep a map well keyed** if they leave the keys of their devices and blank devices bear
the keys that they are made for. -/
theorem WellKeyed.heedAll {ν : Type} {φ : Type → Type} [Device α κ φ] [Notice ν κ α φ]
    {m : OrderedMap κ α} (h : m.WellKeyed) (hblank : ∀ k, key (blank k : α) = k)
    (happly : ∀ (n : ν) (a : α), key (Notice.apply n a) = key a) (ns : List ν) :
    (m.heedAll ns).WellKeyed := by
  induction ns generalizing m with
  | nil => exact h
  | cons n ns ih =>
    refine ih ?_
    unfold heed
    by_cases hi : introduces n = true
    · rw [if_pos hi]
      exact h.upsert ((happly n _).trans (hblank _)) fun a ha => (happly n a).trans ha
    · rw [if_neg hi]
      exact h.modify _ (happly n)

end Keyed

end OrderedMap

/-! ### What is read field by field -/

theorem Wire.of_map_eq_ok {ε β γ : Type} {f : β → γ} {x : Except ε β} {c : γ}
    (h : x.map f = .ok c) : ∃ b, x = .ok b ∧ f b = c := by
  cases x with
  | error e => cases h
  | ok b => exact ⟨b, rfl, Except.ok.inj h⟩

namespace Field

variable {σ β : Type}

/-- Whether reading a field keeps a property of the value that is being read. -/
def Keeps (P : σ → Prop) (f : Field σ) : Prop :=
  ∀ json s s', P s → f.read json s = .ok s' → P s'

theorem keeps_of [Wire β] {P : σ → Prop} (name : String) (get : σ → β) {set : β → σ → σ}
    (h : ∀ json v s, Wire.read json = .ok v → P s → P (set v s)) :
    (Field.of name get set).Keeps P := by
  intro json s s' hs hread
  obtain ⟨v, hv, rfl⟩ := Wire.of_map_eq_ok hread
  exact h json v s hv hs

/-- Whether reading a field from JSON of some kind keeps a property of the value that is being
read. -/
def KeepsOn (Q : Json → Prop) (P : σ → Prop) (f : Field σ) : Prop :=
  ∀ json s s', Q json → P s → f.read json s = .ok s' → P s'

variable {Q : Json → Prop} {P : σ → Prop}

theorem keeps_readObject {fields : List (Field σ)} :
    ∀ {members : List (Option String × Json)} {seen : List String} {s s' : σ},
      (∀ f ∈ fields, ∀ m ∈ members, m.1 = some f.name →
        ∀ s s', P s → f.read m.2 s = .ok s' → P s') →
      P s → readObject fields members seen s = .ok s' → P s'
  | [], seen, s, s', _, hs, hread => by
    unfold readObject at hread
    split at hread
    · exact Except.ok.inj hread ▸ hs
    · cases hread
  | (none, _) :: _, _, _, _, _, _, hread => by cases hread
  | (some k, json) :: rest, seen, s, s', h, hs, hread => by
    have hrest := fun f hf m hm => h f hf m (List.mem_cons_of_mem _ hm)
    unfold readObject at hread
    split at hread
    · exact keeps_readObject hrest hs hread
    · next f hf =>
      split at hread
      · cases hread
      · split at hread
        · cases hread
        · next s₁ h₁ =>
          have hname : f.name = k := by simpa using List.find?_some hf
          have hkeeps := h f (List.mem_of_find?_eq_some hf) _ List.mem_cons_self
            (congrArg some hname.symm)
          exact keeps_readObject hrest (hkeeps s s₁ hs h₁) hread

theorem keepsOn_readList : ∀ {fields : List (Field σ)} {items : List Json} {s s' : σ},
    (∀ f ∈ fields, f.KeepsOn Q P) → (∀ json ∈ items, Q json) → P s →
      readList fields items s = .ok s' → P s'
  | [], [], _, _, _, _, hs, hread => Except.ok.inj hread ▸ hs
  | [], _ :: _, _, _, _, _, _, hread => by cases hread
  | f :: fs, [], _, _, _, _, hs, hread => by
    unfold readList at hread
    split at hread
    · cases hread
    · exact Except.ok.inj hread ▸ hs
  | f :: fs, json :: rest, s, s', h, hQ, hs, hread => by
    obtain ⟨hf, hfs⟩ := List.forall_mem_cons.mp h
    obtain ⟨hjson, hrest⟩ := List.forall_mem_cons.mp hQ
    unfold readList at hread
    split at hread
    · cases hread
    · next s₁ h₁ => exact keepsOn_readList hfs hrest (hf json s s₁ hjson hs h₁) hread

/-- What every field keeps holds of all that is read, if it holds of what missing fields are. -/
theorem keeps_readAll {fields : List (Field σ)} {base : σ} (h : ∀ f ∈ fields, f.Keeps P)
    (hbase : P base) {json : Json} {s : σ} (hread : readAll fields base json = .ok s) : P s := by
  unfold readAll at hread
  split at hread
  · exact keeps_readObject (fun f hf m _ _ => h f hf m.2) hbase hread
  · exact keepsOn_readList (fun f hf json s s' _ => h f hf json s s') (fun _ _ => trivial) hbase
      hread
  · cases hread

end Field

/-! ### Snapshots -/

namespace Snapshot

/-- The devices of every kind stand under their own keys, and no key stands twice. -/
structure WellKeyed (s : Snapshot) : Prop where
  disks : s.disks.WellKeyed
  networks : s.networks.WellKeyed
  gpus : s.gpus.WellKeyed
  npus : s.npus.WellKeyed

theorem wellKeyed_blank : ({} : Snapshot).WellKeyed :=
  ⟨OrderedMap.wellKeyed_empty, OrderedMap.wellKeyed_empty, OrderedMap.wellKeyed_empty,
    OrderedMap.wellKeyed_empty⟩

theorem wellKeyed_devices {κ α : Type} [DecidableEq κ] [Keyed α κ] [Wire α] {json : Json}
    {m : OrderedMap κ α} (h : Wire.read json = .ok m) : m.WellKeyed := by
  obtain ⟨items, -, rfl⟩ := Wire.of_map_eq_ok h
  exact OrderedMap.wellKeyed_ofItems items

/-- **A snapshot that is read is well keyed.** -/
theorem wellKeyed_of_read {json : Json} {s : Snapshot} (h : Wire.read json = .ok s) :
    s.WellKeyed := by
  refine Field.keeps_readAll ?_ wellKeyed_blank h
  simp only [List.forall_mem_cons]
  refine ⟨Field.keeps_of _ _ ?timestamp, Field.keeps_of _ _ ?cpu, Field.keeps_of _ _ ?memory,
    Field.keeps_of _ _ ?disks, Field.keeps_of _ _ ?networks, Field.keeps_of _ _ ?gpus,
    Field.keeps_of _ _ ?npus, Field.keeps_of "systemInfo" systemInfo ?systemInfo,
    Field.keeps_of _ _ ?userSessions, Field.keeps_of _ _ ?loadAverage, nofun⟩
  case disks => exact fun _ _ _ hv hs => ⟨wellKeyed_devices hv, hs.networks, hs.gpus, hs.npus⟩
  case networks => exact fun _ _ _ hv hs => ⟨hs.disks, wellKeyed_devices hv, hs.gpus, hs.npus⟩
  case gpus => exact fun _ _ _ hv hs => ⟨hs.disks, hs.networks, wellKeyed_devices hv, hs.npus⟩
  case npus => exact fun _ _ _ hv hs => ⟨hs.disks, hs.networks, hs.gpus, wellKeyed_devices hv⟩
  all_goals exact fun _ _ _ _ hs => ⟨hs.disks, hs.networks, hs.gpus, hs.npus⟩

theorem WellKeyed.applyAll {s : Snapshot} (h : s.WellKeyed) (us : List Update) :
    (Update.applyAll us s).WellKeyed where
  disks := by
    rw [Update.applyAll_devices Update.apply_disks]
    exact h.disks.heedAll (fun _ => rfl) (fun n _ => by cases n <;> rfl) _
  networks := by
    rw [Update.applyAll_devices Update.apply_networks]
    exact h.networks.heedAll (fun _ => rfl) (fun n _ => by cases n <;> rfl) _
  gpus := by
    rw [Update.applyAll_devices Update.apply_gpus]
    exact h.gpus.heedAll (fun _ => rfl) (fun n _ => by cases n <;> rfl) _
  npus := by
    rw [Update.applyAll_devices Update.apply_npus]
    exact h.npus.heedAll (fun _ => rfl) (fun n _ => by cases n <;> rfl) _

end Snapshot

namespace Update

theorem extends_notices {ν κ α β : Type} {φ : Type → Type} [DecidableEq κ] [Device α κ φ]
    [Notice ν κ α φ] {notice : β → ν} {name : β → κ}
    (h : ∀ b, introduces (notice b) = true ∧ device (notice b) = name b) {bs : List β}
    {m m' : OrderedMap κ α} (hm : m' = m.heedAll (bs.map notice)) : m.Extends (bs.map name) m' := by
  have hname : (bs.map notice).map device = bs.map name := by
    rw [List.map_map]
    exact List.map_congr_left fun b _ => (h b).2
  have hall : ∀ n ∈ bs.map notice, introduces n = true := by
    intro n hn
    obtain ⟨b, -, rfl⟩ := List.mem_map.mp hn
    exact (h b).1
  rw [hm, ← hname]
  exact m.extends_heedAll hall

theorem keys_networks_periodic (u : PeriodicUpdate) (s : Snapshot) :
    (u.apply s).networks.keys = s.networks.keys := by
  have hnone : (networks (.periodic u)).filter (fun n => introduces n) = [] := by
    refine List.filter_eq_nil_iff.mpr fun n hn => ?_
    obtain ⟨state, -, rfl⟩ := List.mem_map.mp hn
    rw [InterfaceNotice.introduces_state]
    exact Bool.false_ne_true
  have hkeys := OrderedMap.keys_heedAll s.networks (networks (.periodic u))
  rw [hnone, List.map_nil, firstNamed_nil, List.append_nil] at hkeys
  exact (congrArg OrderedMap.keys (apply_networks (.periodic u) s)).trans hkeys

/-- **Devices stand under their own keys**, each key once, in every snapshot that comes of one that
was read, or of one with nothing in it, by any updates. Each update leaves the devices that are
known in their places and appends those that it names first, in that order: counters and
descriptions those of all kinds, reports of usage disks alone. -/
theorem wellKeyed_applyAll :
    (∀ s : Snapshot, (s = {} ∨ ∃ json, Wire.read json = .ok s) → ∀ us : List Update,
      (applyAll us s).WellKeyed) ∧
    (∀ (u : RealtimeUpdate) (s : Snapshot),
      s.disks.Extends (u.diskIo.map DiskIo.device) (u.apply s).disks ∧
      s.networks.Extends (u.networkIo.map NetworkIo.interface) (u.apply s).networks ∧
      s.gpus.Extends (u.gpuUsage.map GpuUsage.index) (u.apply s).gpus ∧
      s.npus.Extends (u.npuUsage.map NpuUsage.index) (u.apply s).npus) ∧
    (∀ (u : StaticUpdate) (s : Snapshot),
      s.disks.Extends (u.disks.map DiskInfo.device) (u.apply s).disks ∧
      s.networks.Extends (u.networks.map InterfaceInfo.interface) (u.apply s).networks ∧
      s.gpus.Extends (u.gpus.map GpuInfo.index) (u.apply s).gpus ∧
      s.npus.Extends (u.npus.map NpuInfo.index) (u.apply s).npus) ∧
    ∀ (u : PeriodicUpdate) (s : Snapshot),
      s.disks.Extends (u.diskUsage.map DiskUsage.device) (u.apply s).disks ∧
      (u.apply s).networks.keys = s.networks.keys ∧
      (u.apply s).gpus = s.gpus ∧ (u.apply s).npus = s.npus := by
  refine ⟨fun s hs us => ?_, fun u s => ⟨?_, ?_, ?_, ?_⟩, fun u s => ⟨?_, ?_, ?_, ?_⟩,
    fun u s => ⟨?_, keys_networks_periodic u s, rfl, rfl⟩⟩
  · rcases hs with rfl | ⟨json, hread⟩
    · exact Snapshot.wellKeyed_blank.applyAll us
    · exact (Snapshot.wellKeyed_of_read hread).applyAll us
  · exact extends_notices (fun _ => ⟨rfl, rfl⟩) (apply_disks (.realtime u) s)
  · exact extends_notices (fun _ => ⟨rfl, rfl⟩) (apply_networks (.realtime u) s)
  · exact extends_notices (fun _ => ⟨rfl, rfl⟩) (apply_gpus (.realtime u) s)
  · exact extends_notices (fun _ => ⟨rfl, rfl⟩) (apply_npus (.realtime u) s)
  · exact extends_notices (fun _ => ⟨rfl, rfl⟩) (apply_disks (.static u) s)
  · exact extends_notices (fun _ => ⟨rfl, rfl⟩) (apply_networks (.static u) s)
  · exact extends_notices (fun _ => ⟨rfl, rfl⟩) (apply_gpus (.static u) s)
  · exact extends_notices (fun _ => ⟨rfl, rfl⟩) (apply_npus (.static u) s)
  · exact extends_notices (fun _ => ⟨rfl, rfl⟩) (apply_disks (.periodic u) s)

/-- A snapshot in which a disk stands twice. -/
def repeatedDisk : Json :=
  let disk (device : String) (total : Int) : Json :=
    .ofMembers [("device", .str device), ("total", .int total)]
  .ofMembers [("disks", .arr [disk "sda" 1, disk "sdb" 2, disk "sda" 3])]

/-- A disk that stands twice is kept once, with what was said of it last; the updates name a disk
twice and an interface that nothing has introduced. -/
theorem wellKeyed_applyAll_repeatedDisk :
    let us : List Update :=
      [.realtime { diskIo := [{ device := "sdd" }, { device := "sda" }, { device := "sdc" }] },
        .periodic { diskUsage := [{ device := "sdd" }, { device := "sde" }, { device := "sde" }],
                    networkUpdates := [{ interface := "eth0", isUp := true }] }]
    ∃ s : Snapshot, Wire.read repeatedDisk = .ok s ∧
      s.disks.entries.map (fun e => (e.1, e.2.total)) = [("sda", 3), ("sdb", 2)] ∧
      (applyAll us s).WellKeyed ∧
      (applyAll us s).disks.keys = ["sda", "sdb", "sdd", "sdc", "sde"] ∧
      (applyAll us s).networks.keys = [] := by
  refine ⟨_, rfl, by decide, ?_, by decide, by decide⟩
  exact wellKeyed_applyAll.1 _ (.inr ⟨repeatedDisk, rfl⟩) _

end Update
end FleetTelemetry
