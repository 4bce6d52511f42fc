/-
# Updates that do not depend on their order of arrival

Counters and descriptions own different fields, of the snapshot and of every
device, and a device that either of them introduces starts blank. So they may
arrive in any order (`Update.realtime_comm_static`), and with them whole streams
(`Update.Interleaves.same`). Reports of usage share fields with both: the state
of an interface with its counters, the mount point, size and addresses with
descriptions; and the state of an interface counts only once something else has
introduced it. They commute with updates that name none of these devices.

In what order devices were first named is all that two orders of arrival can
differ in. So snapshots are compared field by field, and their devices as maps:
the same keys in any order, and the same under each (`Snapshot.Same`). The
equality of snapshots does so too, and tells them apart no more than it tells a
snapshot from itself, which it does where a reading is not a number
(`Snapshot.Same.beq`).

Key definitions: `OrderedMap.Same`, `Notice.Commutes`, `Snapshot.Same`,
`Snapshot.Agrees`, `Update.Interleaves`.
Key theorems: `OrderedMap.heedAll_comm`, `Snapshot.Same.apply`,
`Update.same_of_commutes`, `Update.Interleaves.same`, `Update.agrees_anyOrder`.
-/
import FleetTelemetry.Proofs.FieldWrites
import Mathlib.Data.List.Perm.Basic

namespace FleetTelemetry

open Notice (about device introduces)

theorem foldl_comm_step {σ β : Type} {f : σ → β → σ} {a : β} {l : List β}
    (h : ∀ b ∈ l, ∀ x, f (f x a) b = f (f x b) a) (x : σ) :
    l.foldl f (f x a) = f (l.foldl f x) a := by
  induction l generalizing x with
  | nil => rfl
  | cons b l ih =>
    obtain ⟨hb, hl⟩ := List.forall_mem_cons.mp h
    rw [List.foldl_cons, hb, ih hl, List.foldl_cons]

/-- Steps of one list that commute with those of another can be taken before or after them. -/
theorem foldl_comm_foldl {σ β : Type} {f : σ → β → σ} {l l' : List β}
    (h : ∀ a ∈ l, ∀ b ∈ l', ∀ x, f (f x a) b = f (f x b) a) (x : σ) :
    l'.foldl f (l.foldl f x) = l.foldl f (l'.foldl f x) := by
  induction l generalizing x with
  | nil => rfl
  | cons a l ih =>
    obtain ⟨ha, hl⟩ := List.forall_mem_cons.mp h
    rw [List.foldl_cons, List.foldl_cons, ih hl, foldl_comm_step ha]

/-! ### Maps up to the order of their keys -/

namespace OrderedMap

variable {κ α : Type} [DecidableEq κ] {m m' m'' : OrderedMap κ α}

/-- The same keys in any order, and the same value under each. -/
structure Same (m m' : OrderedMap κ α) : Prop where
  keys : m.keys.Perm m'.keys
  get? : ∀ k, m.get? k = m'.get? k

theorem Same.refl (m : OrderedMap κ α) : m.Same m := ⟨.refl _, fun _ => rfl⟩

theorem Same.symm (h : m.Same m') : m'.Same m := ⟨h.keys.symm, fun k => (h.get? k).symm⟩

theorem Same.trans (h : m.Same m') (h' : m'.Same m'') : m.Same m'' :=
  ⟨h.keys.trans h'.keys, fun k => (h.get? k).trans (h'.get? k)⟩

/-- Equality tells such maps apart no more than it tells one of them from itself. -/
theorem Same.beq [BEq α] (h : m.Same m') : (m == m') = (m == m) := by
  have hsize : m.size = m'.size := by
    have := h.keys.length_eq
    rwa [OrderedMap.keys, OrderedMap.keys, List.length_map, List.length_map] at this
  show (m.size == m'.size && m.entries.all fun e => m'.get? e.1 == some e.2) =
    (m.size == m.size && m.entries.all fun e => m.get? e.1 == some e.2)
  simp only [hsize, h.get?]

section Notices

variable {ν : Type} {φ : Type → Type} [Device α κ φ] [Notice ν κ α φ]

theorem Same.heed (h : m.Same m') (n : ν) : (m.heed n).Same (m'.heed n) := by
  constructor
  · rw [keys_heed, keys_heed]
    simp only [h.keys.mem_iff]
    split
    · exact h.keys.append_right _
    · exact h.keys
  · intro k
    rw [get?_heed, get?_heed, h.get?]

theorem Same.heedAll (h : m.Same m') (ns : List ν) : (m.heedAll ns).Same (m'.heedAll ns) := by
  induction ns generalizing m m' with
  | nil => exact h
  | cons n ns ih => exact ih (h.heed n)

/-- Where the same is found under every key after some notices, the keys are the same too. -/
theorem same_heedAll {ns ns' : List ν}
    (h : ∀ k, (m.heedAll ns).get? k = (m.heedAll ns').get? k) :
    (m.heedAll ns).Same (m.heedAll ns') := by
  refine ⟨?_, h⟩
  have hmem : ∀ k, k ∈ (m.heedAll ns).keys ↔ k ∈ (m.heedAll ns').keys := fun k => by
    rw [mem_keys_iff, mem_keys_iff, h]
  rw [keys_heedAll, keys_heedAll] at hmem ⊢
  refine List.Perm.append_left _ ((List.perm_ext_iff_of_nodup (nodup_firstNamed ..)
    (nodup_firstNamed ..)).mpr fun k => ?_)
  have hk := hmem k
  rw [List.mem_append, List.mem_append] at hk
  exact ⟨fun hm => (hk.mp (.inr hm)).resolve_left (mem_firstNamed.mp hm).2,
    fun hm => (hk.mpr (.inr hm)).resolve_left (mem_firstNamed.mp hm).2⟩

end Notices

end OrderedMap

/-! ### Notices that commute -/

section Commuting

variable {ν κ α : Type} {φ : Type → Type} [DecidableEq κ] [Device α κ φ] [Notice ν κ α φ]

/-- Two notices lead to the same in both orders, whether their device is known or not. -/
def Notice.Commutes (a b : ν) : Prop := ∀ x : Option α, on (on x a) b = on (on x b) a

omit [DecidableEq κ] in
theorem Notice.commutes_of_apply {a b : ν} (ha : introduces a = true) (hb : introduces b = true)
    (hdevice : device a = device b)
    (h : ∀ x : α, Notice.apply b (Notice.apply a x) = Notice.apply a (Notice.apply b x)) :
    Commutes a b := by
  intro x
  rw [on_of_introduces ha, on_some, on_of_introduces hb, on_some, h, hdevice]

/-- **Notices about different devices commute**, and so do lists of notices of which those about one
device commute. -/
theorem OrderedMap.heedAll_comm (m : OrderedMap κ α) {ns ns' : List ν}
    (h : ∀ a ∈ ns, ∀ b ∈ ns', device a = device b → Notice.Commutes a b) :
    ((m.heedAll ns).heedAll ns').Same ((m.heedAll ns').heedAll ns) := by
  rw [← heedAll_append, ← heedAll_append]
  refine same_heedAll fun k => ?_
  rw [get?_heedAll, get?_heedAll, Notice.about_append, Notice.about_append, List.foldl_append,
    List.foldl_append]
  refine foldl_comm_foldl (fun a ha b hb => ?_) _
  refine h a (List.mem_filter.mp ha).1 b (List.mem_filter.mp hb).1 ?_
  rw [Notice.device_of_mem_about ha, Notice.device_of_mem_about hb]

end Commuting

/-! ### Snapshots up to the order of their devices -/

namespace Snapshot

variable {s s' s'' : Snapshot}

/-- The same fields, and of each kind the same devices in any order. -/
structure Same (s s' : Snapshot) : Prop where
  field : ∀ {V : Type} (f : SnapshotField V), f.get s = f.get s'
  disks : s.disks.Same s'.disks
  networks : s.networks.Same s'.networks
  gpus : s.gpus.Same s'.gpus
  npus : s.npus.Same s'.npus

theorem Same.refl (s : Snapshot) : s.Same s := ⟨fun _ => rfl, .refl _, .refl _, .refl _, .refl _⟩

theorem Same.symm (h : s.Same s') : s'.Same s :=
  ⟨fun f => (h.field f).symm, h.disks.symm, h.networks.symm, h.gpus.symm, h.npus.symm⟩

theorem Same.trans (h : s.Same s') (h' : s'.Same s'') : s.Same s'' :=
  ⟨fun f => (h.field f).trans (h'.field f), h.disks.trans h'.disks, h.networks.trans h'.networks,
    h.gpus.trans h'.gpus, h.npus.trans h'.npus⟩

theorem Same.beq (h : s.Same s') : (s == s') = (s == s) := by
  rw [SnapshotField.ext h.field]
  obtain ⟨t, cpu, memory, disks, networks, gpus, npus, systemInfo, sessions, load⟩ := s
  show (t == t && (cpu == cpu && (memory == memory && (disks == s'.disks &&
      (networks == s'.networks && (gpus == s'.gpus && (npus == s'.npus && _))))))) = _
  rw [h.disks.beq, h.networks.beq, h.gpus.beq, h.npus.beq]
  rfl

theorem Same.apply (h : s.Same s') (u : Update) : (u.apply s).Same (u.apply s') where
  field f := by rw [f.get_apply, f.get_apply, h.field]
  disks := by
    rw [Update.apply_disks, Update.apply_disks]
    exact h.disks.heedAll _
  networks := by
    rw [Update.apply_networks, Update.apply_networks]
    exact h.networks.heedAll _
  gpus := by
    rw [Update.apply_gpus, Update.apply_gpus]
    exact h.gpus.heedAll _
  npus := by
    rw [Update.apply_npus, Update.apply_npus]
    exact h.npus.heedAll _

theorem Same.applyAll (h : s.Same s') (us : List Update) :
    (Update.applyAll us s).Same (Update.applyAll us s') := by
  induction us generalizing s s' with
  | nil => exact h
  | cons u us ih => exact ih (h.apply u)

/-- Two snapshots are the same, and are so by the equality of snapshots as far as they equal
themselves. -/
structure Agrees (s s' : Snapshot) : Prop extends Same s s' where
  beq : (s == s') = (s == s)

theorem Same.agrees (h : s.Same s') : s.Agrees s' := ⟨h, h.beq⟩

end Snapshot

/-! ### Two updates -/

namespace Update

/-- Updates of two cadences commute if their notices about one device do. -/
theorem same_of_commutes {u v : Update} (hcadence : u.cadence ≠ v.cadence)
    (hdisks : ∀ a ∈ u.disks, ∀ b ∈ v.disks, device a = device b → Notice.Commutes a b)
    (hnetworks : ∀ a ∈ u.networks, ∀ b ∈ v.networks, device a = device b → Notice.Commutes a b)
    (hgpus : ∀ a ∈ u.gpus, ∀ b ∈ v.gpus, device a = device b → Notice.Commutes a b)
    (hnpus : ∀ a ∈ u.npus, ∀ b ∈ v.npus, device a = device b → Notice.Commutes a b)
    (s : Snapshot) : (v.apply (u.apply s)).Same (u.apply (v.apply s)) where
  field f := by
    simp only [f.get_apply]
    rcases f.said_eq_none_or hcadence with h | h <;> rw [h] <;> rfl
  disks := by
    simp only [apply_disks]
    exact s.disks.heedAll_comm hdisks
  networks := by
    simp only [apply_networks]
    exact s.networks.heedAll_comm hnetworks
  gpus := by
    simp only [apply_gpus]
    exact s.gpus.heedAll_comm hgpus
  npus := by
    simp only [apply_npus]
    exact s.npus.heedAll_comm hnpus

/-- Counters and descriptions commute. -/
theorem realtime_comm_static (r : RealtimeUpdate) (t : StaticUpdate) (s : Snapshot) :
    ((static t).apply ((realtime r).apply s)).Same ((realtime r).apply ((static t).apply s)) := by
  have hcadence : (realtime r).cadence ≠ (static t).cadence := nofun
  refine same_of_commutes hcadence ?_ ?_ ?_ ?_ s
  -- of each kind of device, a counter and a description write to different fields
  all_goals
    refine List.forall_mem_map.mpr fun a _ => List.forall_mem_map.mpr fun b _ hdevice => ?_
    exact Notice.commutes_of_apply rfl rfl hdevice fun _ => rfl

theorem realtime_comm_periodic {r : RealtimeUpdate} {p : PeriodicUpdate}
    (h : ∀ io ∈ r.networkIo, ∀ state ∈ p.networkUpdates, io.interface ≠ state.interface)
    (s : Snapshot) :
    ((periodic p).apply ((realtime r).apply s)).Same
      ((realtime r).apply ((periodic p).apply s)) := by
  have hcadence : (realtime r).cadence ≠ (periodic p).cadence := nofun
  refine same_of_commutes hcadence ?_ ?_ (fun _ _ _ hb => absurd hb List.not_mem_nil)
    (fun _ _ _ hb => absurd hb List.not_mem_nil) s
  · refine List.forall_mem_map.mpr fun a _ => List.forall_mem_map.mpr fun b _ hdevice => ?_
    exact Notice.commutes_of_apply rfl rfl hdevice fun _ => rfl
  · refine List.forall_mem_map.mpr fun a ha => List.forall_mem_map.mpr fun b hb hdevice => ?_
    exact absurd hdevice (h a ha b hb)

theorem static_comm_periodic {t : StaticUpdate} {p : PeriodicUpdate}
    (hdisks : ∀ info ∈ t.disks, ∀ usage ∈ p.diskUsage, info.device ≠ usage.device)
    (hnetworks : ∀ info ∈ t.networks, ∀ state ∈ p.networkUpdates,
      info.interface ≠ state.interface) (s : Snapshot) :
    ((periodic p).apply ((static t).apply s)).Same ((static t).apply ((periodic p).apply s)) := by
  have hcadence : (static t).cadence ≠ (periodic p).cadence := nofun
  refine same_of_commutes hcadence ?_ ?_ (fun _ _ _ hb => absurd hb List.not_mem_nil)
    (fun _ _ _ hb => absurd hb List.not_mem_nil) s
  · refine List.forall_mem_map.mpr fun a ha => List.forall_mem_map.mpr fun b hb hdevice => ?_
    exact absurd hdevice (hdisks a ha b hb)
  · refine List.forall_mem_map.mpr fun a ha => List.forall_mem_map.mpr fun b hb hdevice => ?_
    exact absurd hdevice (hnetworks a ha b hb)

/-! ### Two streams -/

/-- Updates in which those of two streams come in any order, but each stream in its own. -/
inductive Interleaves : List RealtimeUpdate → List StaticUpdate → List Update → Prop where
  | nil : Interleaves [] [] []
  | realtime {rs ts us} (r : RealtimeUpdate) (h : Interleaves rs ts us) :
    Interleaves (r :: rs) ts (.realtime r :: us)
  | static {rs ts us} (t : StaticUpdate) (h : Interleaves rs ts us) :
    Interleaves rs (t :: ts) (.static t :: us)

theorem realtimes_comm_static (rs : List RealtimeUpdate) (t : StaticUpdate) (s : Snapshot) :
    (applyAll (rs.map .realtime) ((static t).apply s)).Same
      ((static t).apply (applyAll (rs.map .realtime) s)) := by
  induction rs generalizing s with
  | nil => exact .refl _
  | cons r rs ih =>
    have hswap := (realtime_comm_static r t s).symm.applyAll (rs.map .realtime)
    exact hswap.trans (ih ((realtime r).apply s))

/-- **Interleaved streams lead to what they lead to one after the other.** -/
theorem Interleaves.same {rs : List RealtimeUpdate} {ts : List StaticUpdate} {us : List Update}
    (h : Interleaves rs ts us) (s : Snapshot) :
    (applyAll us s).Same (applyAll (ts.map .static) (applyAll (rs.map .realtime) s)) := by
  induction h generalizing s with
  | nil => exact .refl s
  | realtime r h ih => exact ih (r.apply s)
  | @static rs ts us t h ih =>
    exact (ih (t.apply s)).trans ((realtimes_comm_static rs t s).applyAll (ts.map .static))

/-- **Independent updates may arrive in any order.** Counters and descriptions commute, counters and
usage do if no state is of an interface with counters, and descriptions and usage do if they name no
common disk and no common interface. Any two interleavings of a stream of counters and a stream of
descriptions lead to snapshots that agree, and that are equal if the first equals itself. -/
theorem agrees_anyOrder (s : Snapshot) :
    (∀ (r : RealtimeUpdate) (t : StaticUpdate),
      (t.apply (r.apply s)).Agrees (r.apply (t.apply s))) ∧
    (∀ (r : RealtimeUpdate) (p : PeriodicUpdate),
      (∀ io ∈ r.networkIo, ∀ state ∈ p.networkUpdates, io.interface ≠ state.interface) →
      (p.apply (r.apply s)).Agrees (r.apply (p.apply s))) ∧
    (∀ (t : StaticUpdate) (p : PeriodicUpdate),
      (∀ info ∈ t.disks, ∀ usage ∈ p.diskUsage, info.device ≠ usage.device) →
      (∀ info ∈ t.networks, ∀ state ∈ p.networkUpdates, info.interface ≠ state.interface) →
      (p.apply (t.apply s)).Agrees (t.apply (p.apply s))) ∧
    ∀ (rs : List RealtimeUpdate) (ts : List StaticUpdate) (us us' : List Update),
      Interleaves rs ts us → Interleaves rs ts us' →
      (applyAll us s).Agrees (applyAll us' s) ∧
        ((applyAll us s == applyAll us s) = true → (applyAll us s == applyAll us' s) = true) := by
  refine ⟨fun r t => ?_, fun r p h => ?_, fun t p hdisks hnetworks => ?_,
    fun rs ts us us' h h' => ?_⟩
  · exact (realtime_comm_static r t s).agrees
  · exact (realtime_comm_periodic h s).agrees
  · exact (static_comm_periodic hdisks hnetworks s).agrees
  · have hagrees := ((h.same s).trans (h'.same s).symm).agrees
    exact ⟨hagrees, fun hself => hagrees.beq.trans hself⟩

/-- Counters of a disk and an interface that nobody has described yet. -/
def newCounters : RealtimeUpdate where
  cpuUsage := 1.5
  diskIo := [{ device := "sda", readIops := 7 }]
  networkIo := [{ interface := "eth0", isUp := true }]

/-- Descriptions of another disk and that one, in this order, and of another interface. -/
def newDescriptions : StaticUpdate where
  disks := [{ device := "sdb", total := 9 }, { device := "sda", mountPoint := "/" }]
  networks := [{ interface := "eth1" }]

/-- Usage of a third disk, and the state of an interface that is not known. -/
def newUsage : PeriodicUpdate where
  diskUsage := [{ device := "sdc", used := 5 }]
  userSessions := some []
  networkUpdates := [{ interface := "wlan0", isUp := true }]

/-- In the order of their first mention the new disks differ, but the snapshots agree. -/
theorem agrees_anyOrder_newDevices :
    let r := newCounters
    let t := newDescriptions
    let p := newUsage
    let s : Snapshot := t.apply {}
    let us : List Update := [.realtime r, .static t, .realtime {}]
    let us' : List Update := [.static t, .realtime r, .realtime {}]
    ((applyAll us {}).disks.keys = ["sda", "sdb"] ∧ (applyAll us' {}).disks.keys = ["sdb", "sda"]) ∧
      (Interleaves [r, {}] [t] us ∧ Interleaves [r, {}] [t] us' ∧
        (∀ io ∈ r.networkIo, ∀ state ∈ p.networkUpdates, io.interface ≠ state.interface) ∧
        (∀ info ∈ t.disks, ∀ usage ∈ p.diskUsage, info.device ≠ usage.device) ∧
        ∀ info ∈ t.networks, ∀ state ∈ p.networkUpdates, info.interface ≠ state.interface) ∧
      ((applyAll us {}).Agrees (applyAll us' {}) ∧
        (applyAll us {} == applyAll us' {}) = true) ∧
      (t.apply (r.apply {})).Agrees (r.apply (t.apply {})) ∧
      (p.apply (r.apply s)).Agrees (r.apply (p.apply s)) ∧
      (p.apply (t.apply {})).Agrees (t.apply (p.apply {})) := by
  intro r t p s us us'
  have hus : Interleaves [r, {}] [t] us := .realtime r (.static t (.realtime {} .nil))
  have hus' : Interleaves [r, {}] [t] us' := .static t (.realtime r (.realtime {} .nil))
  have hstates : ∀ io ∈ r.networkIo, ∀ state ∈ p.networkUpdates,
      io.interface ≠ state.interface := by
    decide
  have hdisks : ∀ info ∈ t.disks, ∀ usage ∈ p.diskUsage, info.device ≠ usage.device := by decide
  have hnetworks : ∀ info ∈ t.networks, ∀ state ∈ p.networkUpdates,
      info.interface ≠ state.interface := by
    decide
  obtain ⟨hrt, -, htp, hruns⟩ := agrees_anyOrder {}
  obtain ⟨hagrees, hequal⟩ := hruns _ _ _ _ hus hus'
  refine ⟨by decide, ⟨hus, hus', hstates, hdisks, hnetworks⟩, ⟨hagrees, hequal (by decide +kernel)⟩,
    hrt r t, (agrees_anyOrder s).2.1 r p hstates, htp t p hdisks hnetworks⟩

end Update
end FleetTelemetry
