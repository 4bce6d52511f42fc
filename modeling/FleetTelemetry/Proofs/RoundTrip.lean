/-
# JSON there and back

What a snapshot, an update, a record or a summary holds comes back from its JSON
form if its numbers are finite and, in a snapshot, every device stands under its
own key; and whatever is read of JSON, with keys that come twice in a list of
devices or fields that do not come, is read the same again (`Wire.roundTrips`).
For every type it is said here which of its numbers have to be finite; all else
about it follows from its table of fields.

Key definitions: `Snapshot.Finite`, `RealtimeUpdate.Finite`,
`PeriodicUpdate.Finite`, `Record.Finite`, `Summary.Finite`, `Wire.RoundTrips`.
Key theorems: `Snapshot.member?_systemInfo`, `Snapshot.systemInfo_of_read`,
`PeriodicUpdate.member?_userSessions`, `Wire.roundTrips`.
-/
import FleetTelemetry.Proofs.Lossless
import FleetTelemetry.Wire.Record
import FleetTelemetry.Wire.Update

namespace FleetTelemetry

open FleetTelemetry.Field (keepsOn_of keepsOn_must keepsOn_omittable)

/-! ### The parts of snapshots

A type is given with the numbers in it that have to be finite, then its fields
in their order: what each asks, and that to set it keeps what the others ask. -/

structure CpuStats.Finite (s : CpuStats) : Prop where
  usagePercent : s.usagePercent.isFinite = true
  perCoreUsage : ∀ x ∈ s.perCoreUsage, x.isFinite = true
  temperature : s.temperature.isFinite = true

instance : Lossless CpuStats := .ofFields CpuStats.Finite (by decide)
  ⟨Double.isFinite_zero, nofun, Double.isFinite_zero⟩
  (by
    -- A field of which nothing is asked leaves the rest as it is; any other gets what is asked.
    repeat' refine List.forall_mem_cons.mpr ⟨keepsOn_of _ _ fun _ _ hv hs => ?_, ?_⟩
    all_goals first
      | exact { hs with } | exact { hs with usagePercent := hv }
      | exact { hs with perCoreUsage := hv } | exact { hs with temperature := hv }
      | exact List.forall_mem_nil _)
  fun _ h => .of h.usagePercent <| .of h.perCoreUsage <| .of h.temperature <| .of trivial <|
    .of trivial <| .of trivial <| .of trivial <| .of trivial <| .of trivial <| .of trivial .done

instance : Lossless MemoryStats := .free

structure DiskStat.Finite (s : DiskStat) : Prop where
  usagePercent : s.usagePercent.isFinite = true
  temperature : s.temperature.isFinite = true

instance : Lossless DiskStat := .ofFields DiskStat.Finite (by decide)
  ⟨Double.isFinite_zero, Double.isFinite_zero⟩
  (by
    repeat' refine List.forall_mem_cons.mpr ⟨keepsOn_of _ _ fun _ _ hv hs => ?_, ?_⟩
    all_goals first
      | exact { hs with } | exact { hs with usagePercent := hv }
      | exact { hs with temperature := hv } | exact List.forall_mem_nil _)
  fun _ h => .of trivial <| .of trivial <| .of trivial <| .of trivial <| .of trivial <|
    .of trivial <| .of h.usagePercent <| .of trivial <| .of trivial <| .of trivial <| .of trivial <|
    .of trivial <| .of trivial <| .of trivial <| .of h.temperature <| .of trivial .done

instance : Lossless InterfaceStat := .free

structure GpuStat.Finite (s : GpuStat) : Prop where
  usagePercent : s.usagePercent.isFinite = true
  temperature : s.temperature.isFinite = true
  encoderUsage : s.encoderUsage.isFinite = true
  decoderUsage : s.decoderUsage.isFinite = true

instance : Lossless GpuStat := .ofFields GpuStat.Finite (by decide)
  ⟨Double.isFinite_zero, Double.isFinite_zero, Double.isFinite_zero, Double.isFinite_zero⟩
  (by
    repeat' refine List.forall_mem_cons.mpr ⟨keepsOn_of _ _ fun _ _ hv hs => ?_, ?_⟩
    all_goals first
      | exact { hs with } | exact { hs with usagePercent := hv }
      | exact { hs with temperature := hv } | exact { hs with encoderUsage := hv }
      | exact { hs with decoderUsage := hv } | exact List.forall_mem_nil _)
  fun _ h => .of trivial <| .of trivial <| .of trivial <| .of h.usagePercent <| .of trivial <|
    .of trivial <| .of h.temperature <| .of trivial <| .of trivial <| .of trivial <| .of trivial <|
    .of trivial <| .of trivial <| .of trivial <| .of h.encoderUsage <| .of h.decoderUsage .done

structure NpuStat.Finite (s : NpuStat) : Prop where
  usagePercent : s.usagePercent.isFinite = true
  temperature : s.temperature.isFinite = true

instance : Lossless NpuStat := .ofFields NpuStat.Finite (by decide)
  ⟨Double.isFinite_zero, Double.isFinite_zero⟩
  (by
    repeat' refine List.forall_mem_cons.mpr ⟨keepsOn_of _ _ fun _ _ hv hs => ?_, ?_⟩
    all_goals first
      | exact { hs with } | exact { hs with usagePercent := hv }
      | exact { hs with temperature := hv } | exact List.forall_mem_nil _)
  fun _ h => .of trivial <| .of trivial <| .of trivial <| .of h.usagePercent <| .of trivial <|
    .of trivial <| .of h.temperature <| .of trivial <| .of trivial .done

instance : Lossless SystemInfo := .free
instance : Lossless UserSession := .free

instance : NeverNull SystemInfo := .ofFields _ _

/-! ### Snapshots -/

/-- The numbers in a snapshot are finite, and its time is a signed word. -/
structure Snapshot.Finite (s : Snapshot) : Prop where
  timestamp : Word.Signed64 s.timestamp
  cpu : s.cpu.Finite
  disks : ∀ d ∈ s.disks.values, d.Finite
  gpus : ∀ g ∈ s.gpus.values, g.Finite
  npus : ∀ n ∈ s.npus.values, n.Finite
  loadAverage : ∀ x ∈ s.loadAverage, x.isFinite = true

instance : Lossless Snapshot := .ofFields (fun s => s.Finite ∧ s.WellKeyed) (by decide)
  ⟨⟨Word.signed64_zero, ⟨Double.isFinite_zero, nofun, Double.isFinite_zero⟩, nofun, nofun, nofun,
    nofun⟩, Snapshot.wellKeyed_blank⟩
  (by
    simp only [List.forall_mem_cons]
    refine ⟨keepsOn_of _ _ ?timestamp, keepsOn_of _ _ ?cpu, keepsOn_of _ _ ?memory,
      keepsOn_of _ _ ?disks, keepsOn_of _ _ ?networks, keepsOn_of _ _ ?gpus, keepsOn_of _ _ ?npus,
      keepsOn_omittable _ _ ?systemInfo, keepsOn_of _ _ ?userSessions, keepsOn_of _ _ ?loadAverage,
      nofun⟩
    case timestamp => exact fun _ _ hv hs => ⟨{ hs.1 with timestamp := hv }, { hs.2 with }⟩
    case cpu => exact fun _ _ hv hs => ⟨{ hs.1 with cpu := hv }, { hs.2 with }⟩
    case disks =>
      exact fun _ _ hv hs => ⟨{ hs.1 with disks := hv.2 }, { hs.2 with disks := hv.1 }⟩
    case networks => exact fun _ _ hv hs => ⟨{ hs.1 with }, { hs.2 with networks := hv.1 }⟩
    case gpus => exact fun _ _ hv hs => ⟨{ hs.1 with gpus := hv.2 }, { hs.2 with gpus := hv.1 }⟩
    case npus => exact fun _ _ hv hs => ⟨{ hs.1 with npus := hv.2 }, { hs.2 with npus := hv.1 }⟩
    case loadAverage => exact fun _ _ hv hs => ⟨{ hs.1 with loadAverage := hv }, { hs.2 with }⟩
    all_goals exact fun _ _ _ hs => ⟨{ hs.1 with }, { hs.2 with }⟩)
  fun s h => by
    have hdisks : Plain s.disks := ⟨h.2.disks, h.1.disks⟩
    have hnetworks : Plain s.networks := ⟨h.2.networks, fun _ _ => trivial⟩
    have hgpus : Plain s.gpus := ⟨h.2.gpus, h.1.gpus⟩
    have hnpus : Plain s.npus := ⟨h.2.npus, h.1.npus⟩
    exact .of h.1.timestamp <| .of h.1.cpu <| .of trivial <| .of hdisks <| .of hnetworks <|
      .of hgpus <| .of hnpus <| .omittable (fun _ _ => trivial) rfl <|
      .of (fun _ _ => trivial) <| .of h.1.loadAverage .done

/-! ### Updates -/

instance : Lossless DiskIo := .free
instance : Lossless NetworkIo := .free

structure GpuUsage.Finite (u : GpuUsage) : Prop where
  usagePercent : u.usagePercent.isFinite = true
  temperature : u.temperature.isFinite = true
  encoderUsage : u.encoderUsage.isFinite = true
  decoderUsage : u.decoderUsage.isFinite = true

instance : Lossless GpuUsage := .ofFields GpuUsage.Finite (by decide)
  ⟨Double.isFinite_zero, Double.isFinite_zero, Double.isFinite_zero, Double.isFinite_zero⟩
  (by
    repeat' refine List.forall_mem_cons.mpr ⟨keepsOn_of _ _ fun _ _ hv hs => ?_, ?_⟩
    all_goals first
      | exact { hs with } | exact { hs with usagePercent := hv }
      | exact { hs with temperature := hv } | exact { hs with encoderUsage := hv }
      | exact { hs with decoderUsage := hv } | exact List.forall_mem_nil _)
  fun _ h => .of trivial <| .of h.usagePercent <| .of trivial <| .of h.temperature <| .of trivial <|
    .of trivial <| .of trivial <| .of h.encoderUsage <| .of h.decoderUsage .done

structure NpuUsage.Finite (u : NpuUsage) : Prop where
  usagePercent : u.usagePercent.isFinite = true
  temperature : u.temperature.isFinite = true

instance : Lossless NpuUsage := .ofFields NpuUsage.Finite (by decide)
  ⟨Double.isFinite_zero, Double.isFinite_zero⟩
  (by
    repeat' refine List.forall_mem_cons.mpr ⟨keepsOn_of _ _ fun _ _ hv hs => ?_, ?_⟩
    all_goals first
      | exact { hs with } | exact { hs with usagePercent := hv }
      | exact { hs with temperature := hv } | exact List.forall_mem_nil _)
  fun _ h => .of trivial <| .of h.usagePercent <| .of trivial <| .of h.temperature <|
    .of trivial .done

/-- The counters that are fractions are finite. -/
structure RealtimeUpdate.Finite (u : RealtimeUpdate) : Prop where
  cpuUsage : u.cpuUsage.isFinite = true
  cpuPerCore : ∀ x ∈ u.cpuPerCore, x.isFinite = true
  cpuTemperature : u.cpuTemperature.isFinite = true
  loadAverage : ∀ x ∈ u.loadAverage, x.isFinite = true
  gpuUsage : ∀ g ∈ u.gpuUsage, g.Finite
  npuUsage : ∀ n ∈ u.npuUsage, n.Finite

instance : Lossless RealtimeUpdate := .ofFields RealtimeUpdate.Finite (by decide)
  ⟨Double.isFinite_zero, nofun, Double.isFinite_zero, nofun, nofun, nofun⟩
  (by
    repeat' refine List.forall_mem_cons.mpr ⟨keepsOn_of _ _ fun _ _ hv hs => ?_, ?_⟩
    all_goals first
      | exact { hs with } | exact { hs with cpuUsage := hv } | exact { hs with cpuPerCore := hv }
      | exact { hs with cpuTemperature := hv } | exact { hs with loadAverage := hv }
      | exact { hs with gpuUsage := hv } | exact { hs with npuUsage := hv }
      | exact List.forall_mem_nil _)
  fun _ h => .of h.cpuUsage <| .of h.cpuPerCore <| .of h.cpuTemperature <| .of trivial <|
    .of trivial <| .of trivial <| .of trivial <| .of h.loadAverage <| .of (fun _ _ => trivial) <|
    .of (fun _ _ => trivial) <| .of h.gpuUsage <| .of h.npuUsage .done

instance : Lossless CpuInfo := .free
instance : Lossless MemoryInfo := .free
instance : Lossless DiskInfo := .free
instance : Lossless InterfaceInfo := .free
instance : Lossless GpuInfo := .free
instance : Lossless NpuInfo := .free

instance : NeverNull CpuInfo := .ofFields _ _
instance : NeverNull MemoryInfo := .ofFields _ _

instance : Lossless StaticUpdate := .free

structure DiskUsage.Finite (u : DiskUsage) : Prop where
  usagePercent : u.usagePercent.isFinite = true
  temperature : u.temperature.isFinite = true

instance : Lossless DiskUsage := .ofFields DiskUsage.Finite (by decide)
  ⟨Double.isFinite_zero, Double.isFinite_zero⟩
  (by
    repeat' refine List.forall_mem_cons.mpr ⟨keepsOn_of _ _ fun _ _ hv hs => ?_, ?_⟩
    all_goals first
      | exact { hs with } | exact { hs with usagePercent := hv }
      | exact { hs with temperature := hv } | exact List.forall_mem_nil _)
  fun _ h => .of trivial <| .of trivial <| .of trivial <| .of trivial <| .of trivial <|
    .of h.usagePercent <| .of h.temperature .done

instance : Lossless NetworkState := .free

/-- The disks are the only part with fractions in it. -/
structure PeriodicUpdate.Finite (u : PeriodicUpdate) : Prop where
  diskUsage : ∀ d ∈ u.diskUsage, d.Finite

instance : Lossless PeriodicUpdate := .ofFields PeriodicUpdate.Finite (by decide) ⟨nofun⟩
  (by
    simp only [List.forall_mem_cons]
    exact ⟨keepsOn_of _ _ fun _ _ hv _ => ⟨hv⟩, keepsOn_of _ _ fun _ _ _ hs => ⟨hs.diskUsage⟩,
      keepsOn_of _ _ fun _ _ _ hs => ⟨hs.diskUsage⟩, nofun⟩)
  fun _ h => .of h.diskUsage <| .of (fun _ _ _ _ => trivial) <| .of (fun _ _ => trivial) .done

/-! ### Records and summaries -/

/-- The readings of a row are finite, and its time is a signed word. -/
structure Record.Finite (r : Record Float) : Prop where
  timestamp : Word.Signed64 r.timestamp
  cpuPercent : r.cpuPercent.isFinite = true
  memPercent : r.memPercent.isFinite = true
  gpuPercent : r.gpuPercent.isFinite = true
  loadAvg1 : r.loadAvg1.isFinite = true

instance : Lossless (Record Float) := .ofFields Record.Finite (by decide)
  ⟨Word.signed64_zero, Double.isFinite_zero, Double.isFinite_zero, Double.isFinite_zero,
    Double.isFinite_zero⟩
  (by
    repeat' refine List.forall_mem_cons.mpr ⟨keepsOn_must _ _ fun _ _ hv hs => ?_, ?_⟩
    all_goals first
      | exact { hs with } | exact { hs with timestamp := hv } | exact { hs with cpuPercent := hv }
      | exact { hs with memPercent := hv } | exact { hs with gpuPercent := hv }
      | exact { hs with loadAvg1 := hv } | exact List.forall_mem_nil _)
  fun _ h => .must trivial <| .must h.timestamp <| .must h.cpuPercent <| .must h.memPercent <|
    .must trivial <| .must trivial <| .must trivial <| .must trivial <| .must h.gpuPercent <|
    .must h.loadAvg1 .done

/-- The readings of a summary are finite, and its start and its count are signed words. -/
structure Summary.Finite {span : Span} (s : Summary Float span) : Prop where
  start : Word.Signed64 s.start
  cpuAvg : s.cpuAvg.isFinite = true
  cpuMax : s.cpuMax.isFinite = true
  memAvg : s.memAvg.isFinite = true
  memMax : s.memMax.isFinite = true
  dataPoints : Word.Signed64 s.dataPoints

namespace Summary

variable (startName : String) (span : Span)

theorem keepsOn_finite :
    ∀ f ∈ fields startName span, f.KeepsOn Json.InRange Summary.Finite := by
  unfold fields
  repeat' refine List.forall_mem_cons.mpr ⟨keepsOn_must _ _ fun _ _ hv hs => ?_, ?_⟩
  all_goals first
    | exact { hs with }
    | exact { hs with start := hv }
    | exact { hs with cpuAvg := hv }
    | exact { hs with cpuMax := hv }
    | exact { hs with memAvg := hv }
    | exact { hs with memMax := hv }
    | exact { hs with dataPoints := hv }
    | exact List.forall_mem_nil _

theorem restores_finite (s : Summary Float span) (h : s.Finite) :
    Field.Restores s (fields startName span) (zeros span) :=
  .must trivial <| .must h.start <| .must h.cpuAvg <| .must h.cpuMax <| .must h.memAvg <|
    .must h.memMax <| .must trivial <| .must trivial <| .must h.dataPoints .done

theorem finite_zeros : (zeros span).Finite :=
  ⟨Word.signed64_zero, Double.isFinite_zero, Double.isFinite_zero, Double.isFinite_zero,
    Double.isFinite_zero, Word.signed64_zero⟩

end Summary

instance : Lossless (Summary Float .hour) := .ofFields Summary.Finite (by decide)
  (Summary.finite_zeros _) (Summary.keepsOn_finite _ _) (Summary.restores_finite _ _)

instance : Lossless (Summary Float .day) := .ofFields Summary.Finite (by decide)
  (Summary.finite_zeros _) (Summary.keepsOn_finite _ _) (Summary.restores_finite _ _)

/-! ### There and back -/

theorem Snapshot.member?_systemInfo (s : Snapshot) :
    (Wire.write s).member? "systemInfo" = s.systemInfo.map Wire.write := by
  refine Field.member?_writeAll ?distinct 7 rfl
  case distinct => decide

theorem PeriodicUpdate.member?_userSessions (u : PeriodicUpdate) :
    (Wire.write u).member? "userSessions" = some (Wire.write u.userSessions) := by
  refine Field.member?_writeAll ?distinct 1 rfl
  case distinct => decide

/-- A snapshot is read without an identity if no member gives one. -/
theorem Snapshot.systemInfo_of_read {members : List (Option String × Json)} {s : Snapshot}
    (habsent : ∀ m ∈ members, m.1 ≠ some "systemInfo") (h : Wire.read (.obj members) = .ok s) :
    s.systemInfo = none := by
  refine Field.keeps_readObject (P := fun s : Snapshot => s.systemInfo = none) ?_ rfl h
  simp only [List.forall_mem_cons]
  refine ⟨?_, ?_, ?_, ?_, ?_, ?_, ?_, fun m hm hname => absurd hname (habsent m hm), ?_, ?_, nofun⟩
  all_goals
    intro m _ _
    refine Field.keeps_of (P := fun s : Snapshot => s.systemInfo = none) _ _ ?_ m.2
    exact fun _ _ _ _ hs => hs

namespace Wire

/-- What a type promises of its JSON form, where `P` says which values can be written. -/
structure RoundTrips {α : Type} [Wire α] (P : α → Prop) : Prop where
  /-- A value is read back from what it is written as. -/
  written : ∀ a : α, P a → read (write a) = .ok a
  /-- What is read of any JSON is read again from what it is written as. -/
  accepted : ∀ (json : Json) (a : α), json.InRange → read json = .ok a → read (write a) = .ok a
  /-- So is what is read of any text. -/
  parsed : ∀ (text : String) (a : α), ofDocument (.ofText text) = .ok a → read (write a) = .ok a

theorem read_of_ofDocument {α : Type} [Wire α] {d : Json.Document} {a : α}
    (h : ofDocument d = .ok a) : read d.value = .ok a := by
  unfold ofDocument at h
  split at h
  · next b hb =>
    split at h
    · exact hb.trans h
    · cases h
  · cases h

theorem roundTrips_of_lossless {α : Type} [Wire α] [Lossless α] : RoundTrips (Plain (α := α)) where
  written _ h := Lossless.read_write h
  accepted _ _ hjson h := Lossless.read_write (Lossless.plain_of_read hjson h)
  parsed text _ h :=
    Lossless.read_write (Lossless.plain_of_read (Json.inRange_ofText text) (read_of_ofDocument h))

/-- **JSON gives back what was put into it.** Every value whose numbers are finite, and whose
devices stand under their own keys, is read back as it was, with everything in its order; and
whatever is read, of a list that repeats keys or of an object that leaves fields out, is read the
same again. An identity is left out if there is none and is none if it is left out; no sessions at
all and an empty list of them are written differently. -/
theorem roundTrips :
    RoundTrips (fun s : Snapshot => s.Finite ∧ s.WellKeyed) ∧
    RoundTrips RealtimeUpdate.Finite ∧
    RoundTrips (fun _ : StaticUpdate => True) ∧
    RoundTrips PeriodicUpdate.Finite ∧
    RoundTrips Record.Finite ∧
    RoundTrips (@Summary.Finite .hour) ∧
    RoundTrips (@Summary.Finite .day) ∧
    (∀ s : Snapshot, (write s).member? "systemInfo" = s.systemInfo.map write) ∧
    (∀ (members : List (Option String × Json)) (s : Snapshot),
      (∀ m ∈ members, m.1 ≠ some "systemInfo") → read (.obj members) = .ok s →
        s.systemInfo = none) ∧
    ∀ u : PeriodicUpdate,
      ((write u).member? "userSessions" = some .null ↔ u.userSessions = none) ∧
      ((write u).member? "userSessions" = some (.arr []) ↔ u.userSessions = some []) := by
  refine ⟨roundTrips_of_lossless, roundTrips_of_lossless, roundTrips_of_lossless,
    roundTrips_of_lossless, roundTrips_of_lossless, roundTrips_of_lossless, roundTrips_of_lossless,
    Snapshot.member?_systemInfo, fun _ _ => Snapshot.systemInfo_of_read, fun u => ?_⟩
  rw [PeriodicUpdate.member?_userSessions]
  cases u.userSessions with
  | none => exact ⟨iff_of_true rfl rfl, iff_of_false nofun nofun⟩
  | some sessions =>
    cases sessions with
    | nil => exact ⟨iff_of_false nofun nofun, iff_of_true rfl rfl⟩
    | cons a as => exact ⟨iff_of_false nofun nofun, iff_of_false nofun nofun⟩

/-- A snapshot in which a disk stands twice is read once for all, and an update that says that
nobody is logged in comes back so, not as one that says nothing of it. -/
theorem roundTrips_repeatedDisk :
    let u : PeriodicUpdate :=
      { diskUsage := [{ device := "sda", usagePercent := 12.5 }], userSessions := some [] }
    (∃ s : Snapshot, read Update.repeatedDisk = .ok s ∧ s.disks.keys = ["sda", "sdb"] ∧
      s.systemInfo = none ∧ read (write s) = .ok s) ∧
    read (write u) = .ok u ∧ (write u).member? "userSessions" ≠ some .null := by
  intro u
  have hdisk : ∀ (device : String) (total : Int), 0 ≤ total → total ≤ 3 →
      (Json.ofMembers [("device", .str device), ("total", .int total)]).InRange := by
    intro device total hlow hhigh
    have hbounds : Word.minSigned64 ≤ 0 ∧ (3 : Int) < Word.size64 := by decide
    refine .obj (List.forall_mem_cons.mpr ⟨.str _, List.forall_mem_cons.mpr ⟨?_, nofun⟩⟩)
    exact .int (by omega) (by omega)
  have hrange : Update.repeatedDisk.InRange := by
    refine .obj (List.forall_mem_cons.mpr ⟨.arr ?_, nofun⟩)
    simp only [List.forall_mem_cons]
    exact ⟨hdisk _ 1 (by decide) (by decide), hdisk _ 2 (by decide) (by decide),
      hdisk _ 3 (by decide) (by decide), nofun⟩
  have hu : u.Finite := by
    refine ⟨List.forall_mem_cons.mpr ⟨⟨?_, Double.isFinite_zero⟩, nofun⟩⟩
    decide +kernel
  have hsessions : u.userSessions ≠ none := nofun
  obtain ⟨s, hs, hkeys⟩ : ∃ s : Snapshot, read Update.repeatedDisk = .ok s ∧
      s.disks.keys = ["sda", "sdb"] := ⟨_, rfl, by decide⟩
  obtain ⟨hsnapshot, -, -, hperiodic, -, -, -, -, habsent, hmember⟩ := roundTrips
  refine ⟨⟨s, hs, hkeys, habsent _ s ?_ hs, hsnapshot.accepted _ s hrange hs⟩,
    hperiodic.written u hu, fun h => hsessions ((hmember u).1.mp h)⟩
  exact List.forall_mem_cons.mpr ⟨by decide, nofun⟩

end Wire
end FleetTelemetry
