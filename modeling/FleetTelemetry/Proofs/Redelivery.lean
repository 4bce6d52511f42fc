/-
# Updates that are delivered again

Updates of one kind may be delivered twice, one or any number of them in a row:
the second time changes nothing, not even the order of the devices
(`Update.applyAll_again`). The last write to each field is the same again
(`Notice.foldl_apply_again`). And the second time every device is in its place,
so that it heeds the notices about it and nothing is appended
(`OrderedMap.heedAll_again`). Updates of several kinds are another matter: the
state of an interface counts for nothing until another update has introduced it,
and then it does.

Key definitions: `Notice.others`.
Key theorems: `Notice.foldl_apply_again`, `OrderedMap.heedAll_entry`,
`OrderedMap.heedAll_again`, `Update.applyAll_again`.
-/
import FleetTelemetry.Proofs.FieldWrites

namespace FleetTelemetry

open Device (blank)
open Notice (about device introduces)

section Notices

variable {ν κ α : Type} {φ : Type → Type} [DecidableEq κ] [Device α κ φ] [Notice ν κ α φ]

namespace Notice

/-- The notices about all devices but one. -/
def others (k : κ) (ns : List ν) : List ν := ns.filter fun n => device n ≠ k

theorem others_cons_self (n : ν) (ns : List ν) :
    others (device n) (n :: ns) = others (device n) ns :=
  List.filter_cons_of_neg (by simp)

theorem others_cons_of_ne {k : κ} {n : ν} (h : device n ≠ k) (ns : List ν) :
    others k (n :: ns) = n :: others k ns :=
  List.filter_cons_of_pos (by simpa using h)

omit [DecidableEq κ] in
theorem foldl_apply_again (ns : List ν) (a : α) :
    ns.foldl (fun a n => Notice.apply n a) (ns.foldl (fun a n => Notice.apply n a) a) =
      ns.foldl (fun a n => Notice.apply n a) a := by
  refine Device.ext fun f => ?_
  rw [get_foldl (get_apply f), get_foldl (get_apply f), latest_again]

end Notice

open Notice (others)

namespace OrderedMap

theorem heed_cons_self {n : ν} (h : introduces n = true) (a : α) (es : List (κ × α)) :
    (OrderedMap.mk ((device n, a) :: es)).heed n = ⟨(device n, Notice.apply n a) :: es⟩ := by
  rw [heed, if_pos h, upsert, upsertEntry, if_pos rfl]

theorem heed_cons_of_ne {k : κ} {n : ν} (h : introduces n = true) (hk : device n ≠ k) (a : α)
    (es : List (κ × α)) :
    (OrderedMap.mk ((k, a) :: es)).heed n = ⟨(k, a) :: ((OrderedMap.mk es).heed n).entries⟩ := by
  rw [heed, if_pos h, upsert, upsertEntry, if_neg (Ne.symm hk), heed, if_pos h, upsert]

/-- The first device of a map heeds the notices about it, the rest of the map heeds the others. -/
theorem heedAll_entry {ns : List ν} (h : ∀ n ∈ ns, introduces n = true) (k : κ) (a : α)
    (es : List (κ × α)) :
    (OrderedMap.mk ((k, a) :: es)).heedAll ns =
      ⟨(k, (about k ns).foldl (fun a n => Notice.apply n a) a) ::
        ((OrderedMap.mk es).heedAll (others k ns)).entries⟩ := by
  induction ns generalizing a es with
  | nil => rfl
  | cons n ns ih =>
    obtain ⟨hn, hns⟩ := List.forall_mem_cons.mp h
    rw [heedAll_cons, Notice.about_cons]
    by_cases hk : device n = k
    · subst hk
      rw [heed_cons_self hn, ih hns, if_pos rfl, Notice.others_cons_self, List.foldl_cons]
    · rw [heed_cons_of_ne hn hk, ih hns, if_neg hk, Notice.others_cons_of_ne hk, heedAll_cons]

theorem heedAll_first {n : ν} {ns : List ν} (h : ∀ n' ∈ n :: ns, introduces n' = true) :
    (OrderedMap.mk ([] : List (κ × α))).heedAll (n :: ns) =
      ⟨(device n, (about (device n) (n :: ns)).foldl (fun a n => Notice.apply n a)
        (blank (device n))) ::
        ((OrderedMap.mk []).heedAll (others (device n) ns)).entries⟩ := by
  obtain ⟨hn, hns⟩ := List.forall_mem_cons.mp h
  rw [heedAll_cons, heed, if_pos hn, Notice.about_cons, if_pos rfl]
  exact heedAll_entry hns (device n) _ []

theorem entries_heedAll_of_not_introduces {ns : List ν} (h : ∀ n ∈ ns, introduces n = false)
    (m : OrderedMap κ α) :
    (m.heedAll ns).entries =
      m.entries.map fun e => (e.1, (about e.1 ns).foldl (fun a n => Notice.apply n a) e.2) := by
  induction ns generalizing m with
  | nil => exact (List.map_id _).symm
  | cons n ns ih =>
    obtain ⟨hn, hns⟩ := List.forall_mem_cons.mp h
    rw [heedAll_cons, ih hns, heed, if_neg (by simp [hn]), modify, List.map_map]
    refine List.map_congr_left fun e _ => ?_
    rw [Function.comp_apply, Notice.about_cons]
    by_cases he : e.1 = device n
    · rw [if_pos he, if_pos he.symm, List.foldl_cons]
    · rw [if_neg he, if_neg (Ne.symm he)]

theorem heedAll_again_entry {k : κ} {ns ns' : List ν} (h : ∀ n ∈ ns, introduces n = true)
    (hothers : others k ns = others k ns') {a : α} {m : OrderedMap κ α}
    (hrest : (m.heedAll (others k ns')).heedAll (others k ns') = m.heedAll (others k ns')) :
    (OrderedMap.mk ((k, (about k ns).foldl (fun a n => Notice.apply n a) a) ::
        (m.heedAll (others k ns')).entries)).heedAll ns =
      ⟨(k, (about k ns).foldl (fun a n => Notice.apply n a) a) ::
        (m.heedAll (others k ns')).entries⟩ := by
  rw [heedAll_entry h, Notice.foldl_apply_again, hothers, hrest]

theorem heedAll_again_empty : ∀ ns : List ν, (∀ n ∈ ns, introduces n = true) →
    ((OrderedMap.mk ([] : List (κ × α))).heedAll ns).heedAll ns = (OrderedMap.mk []).heedAll ns
  | [], _ => rfl
  | n :: ns, h => by
    have hlt : (others (device n) ns).length < (n :: ns).length :=
      Nat.lt_succ_of_le (List.length_filter_le _ ns)
    have hothers : ∀ n' ∈ others (device n) ns, introduces n' = true := fun n' hn' =>
      h n' (List.mem_cons_of_mem n (List.mem_filter.mp hn').1)
    rw [heedAll_first h]
    exact heedAll_again_entry h (Notice.others_cons_self n ns)
      (heedAll_again_empty (others (device n) ns) hothers)
termination_by ns => ns.length
decreasing_by exact hlt

/-- **Notices that a map heeds once more change nothing**, if all introduce their devices or none
does. -/
theorem heedAll_again (m : OrderedMap κ α) {ns : List ν}
    (h : (∀ n ∈ ns, introduces n = true) ∨ ∀ n ∈ ns, introduces n = false) :
    (m.heedAll ns).heedAll ns = m.heedAll ns := by
  rcases h with h | h
  · obtain ⟨es⟩ := m
    induction es generalizing ns with
    | nil => exact heedAll_again_empty ns h
    | cons e es ih =>
      rw [heedAll_entry h]
      exact heedAll_again_entry h rfl (ih fun n hn => h n (List.mem_filter.mp hn).1)
  · refine congrArg OrderedMap.mk (?_ : _ = (m.heedAll ns).entries)
    rw [← heedAll, entries_heedAll_of_not_introduces h, entries_heedAll_of_not_introduces h,
      List.map_map]
    refine List.map_congr_left fun e _ => ?_
    rw [Function.comp_apply, Notice.foldl_apply_again]

end OrderedMap
end Notices

namespace Update

theorem devices_again {ν κ α : Type} {φ : Type → Type} [DecidableEq κ] [Device α κ φ]
    [Notice ν κ α φ] {get : Snapshot → OrderedMap κ α} {notices : Update → List ν}
    (hget : ∀ u s, get (u.apply s) = (get s).heedAll (notices u)) {us : List Update}
    (h : (∀ n ∈ us.flatMap notices, introduces n = true) ∨
      ∀ n ∈ us.flatMap notices, introduces n = false) (s : Snapshot) :
    get (applyAll us (applyAll us s)) = get (applyAll us s) := by
  rw [applyAll_devices hget, applyAll_devices hget]
  exact (get s).heedAll_again h

/-- Updates may be delivered again of which all that is said of interfaces introduces them, or
nothing does. -/
theorem applyAll_applyAll {us : List Update}
    (h : (∀ n ∈ us.flatMap networks, introduces n = true) ∨
      ∀ n ∈ us.flatMap networks, introduces n = false) (s : Snapshot) :
    applyAll us (applyAll us s) = applyAll us s := by
  have hfield : ∀ {V : Type} (f : SnapshotField V),
      f.get (applyAll us s) = f.get (applyAll us (applyAll us s)) := fun f => by
    rw [f.get_applyAll us (applyAll us s), f.get_applyAll us s, latest_again]
  rw [SnapshotField.ext hfield, devices_again apply_disks (.inl fun _ _ => rfl) s,
    devices_again apply_networks h s, devices_again apply_gpus (.inl fun _ _ => rfl) s,
    devices_again apply_npus (.inl fun _ _ => rfl) s]

/-- Updates of one kind say of interfaces what introduces them, or only their state. -/
theorem introduces_of_kind {β γ : Type} {kind : β → Update} {entries : β → List γ}
    {notice : γ → InterfaceNotice} {b : Bool}
    (hkind : ∀ u, (kind u).networks = (entries u).map notice)
    (hnotice : ∀ x, introduces (notice x) = b) (us : List β) :
    ∀ n ∈ (us.map kind).flatMap networks, introduces n = b := by
  intro n hn
  obtain ⟨u, hu, hn⟩ := List.mem_flatMap.mp hn
  obtain ⟨v, -, rfl⟩ := List.mem_map.mp hu
  rw [hkind] at hn
  obtain ⟨x, -, rfl⟩ := List.mem_map.mp hn
  exact hnotice x

/-- **Updates of one kind may be delivered again.** Any number of them, applied in their order and
then once more, lead to the very snapshot to which they led the first time; so does a single
update. -/
theorem applyAll_again (s : Snapshot) :
    (∀ rs : List RealtimeUpdate,
      applyAll (rs.map .realtime ++ rs.map .realtime) s = applyAll (rs.map .realtime) s) ∧
    (∀ ts : List StaticUpdate,
      applyAll (ts.map .static ++ ts.map .static) s = applyAll (ts.map .static) s) ∧
    (∀ ps : List PeriodicUpdate,
      applyAll (ps.map .periodic ++ ps.map .periodic) s = applyAll (ps.map .periodic) s) ∧
    ∀ u : Update, u.apply (u.apply s) = u.apply s := by
  have happend : ∀ us, applyAll (us ++ us) s = applyAll us (applyAll us s) := fun us =>
    List.foldl_append
  have hrealtime : ∀ rs : List RealtimeUpdate,
      applyAll (rs.map .realtime ++ rs.map .realtime) s = applyAll (rs.map .realtime) s :=
    fun rs => (happend _).trans <| applyAll_applyAll
      (.inl <| introduces_of_kind (fun _ => rfl) InterfaceNotice.introduces_io rs) s
  have hstatic : ∀ ts : List StaticUpdate,
      applyAll (ts.map .static ++ ts.map .static) s = applyAll (ts.map .static) s :=
    fun ts => (happend _).trans <| applyAll_applyAll
      (.inl <| introduces_of_kind (fun _ => rfl) InterfaceNotice.introduces_info ts) s
  have hperiodic : ∀ ps : List PeriodicUpdate,
      applyAll (ps.map .periodic ++ ps.map .periodic) s = applyAll (ps.map .periodic) s :=
    fun ps => (happend _).trans <| applyAll_applyAll
      (.inr <| introduces_of_kind (fun _ => rfl) InterfaceNotice.introduces_state ps) s
  refine ⟨hrealtime, hstatic, hperiodic, fun u => ?_⟩
  cases u with
  | realtime r => exact hrealtime [r]
  | static t => exact hstatic [t]
  | periodic p => exact hperiodic [p]

-- Of several kinds the second delivery can tell: the state is heard only then.
example :
    let us : List Update :=
      [.periodic { networkUpdates := [{ interface := "eth0", isUp := true }] },
        .static { networks := [{ interface := "eth0" }] }]
    (applyAll us {}).networks.values.map InterfaceStat.isUp = [false] ∧
      (applyAll us (applyAll us {})).networks.values.map InterfaceStat.isUp = [true] := by
  decide

end Update
end FleetTelemetry
