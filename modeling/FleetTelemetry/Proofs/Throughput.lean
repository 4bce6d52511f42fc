/-
# Throughput that does not fit

The row of a snapshot has the exact sums of its throughput, over all devices of a
kind (`Record.totals_of_ofSnapshot?`). There is none if a sum needs more than 64
bits, and then the report that led to the snapshot has no answer: the snapshot is
in the cache, and nothing is sent (`Pipeline.answered_iff_fits`). The totals of a
fleet and those of a summary are held at the greatest counter instead
(`Word.toNat_saturatingSum`).

Nothing keeps such a report out. A counter may have any value that a reader
accepts, and the devices of a snapshot come together over any number of updates.

Key definitions: `Record.Totals`, `twoFullDisks`.
Key theorems: `Record.totals_of_ofSnapshot?`, `Pipeline.answered_iff_fits`.
-/
import FleetTelemetry.Proofs.DurableHistory
import FleetTelemetry.Wire.Snapshot

namespace FleetTelemetry

theorem Word.toNat_checkedSum? {xs : List UInt64} {total : UInt64}
    (h : Word.checkedSum? xs = some total) : total.toNat = Word.exactSum xs := by
  unfold Word.checkedSum? at h
  split at h
  · next hlt =>
    rw [← Option.some.inj h, UInt64.toNat_ofNat']
    exact Nat.mod_eq_of_lt hlt
  · cases h

namespace Record

/-- Whether the counters of a row are the exact sums over the devices of a snapshot. -/
structure Totals (s : Snapshot) (r : Record Float) : Prop where
  diskRead : r.diskReadBps.toNat = Word.exactSum (s.disks.values.map DiskStat.readBytesPerSec)
  diskWrite : r.diskWriteBps.toNat = Word.exactSum (s.disks.values.map DiskStat.writeBytesPerSec)
  netRx : r.netRxBps.toNat = Word.exactSum (s.networks.values.map InterfaceStat.rxBytesPerSec)
  netTx : r.netTxBps.toNat = Word.exactSum (s.networks.values.map InterfaceStat.txBytesPerSec)

/-- **No sum of a row is wrapped or held.** -/
theorem totals_of_ofSnapshot? {agentId : String} {s : Snapshot} {r : Record Float}
    (h : ofSnapshot? agentId s = some r) : r.Totals s := by
  simp only [ofSnapshot?, Option.bind_eq_bind, Option.pure_def, Option.bind_eq_some_iff,
    Option.some.injEq] at h
  obtain ⟨_, h₁, _, h₂, _, h₃, _, h₄, rfl⟩ := h
  exact ⟨Word.toNat_checkedSum? h₁, Word.toNat_checkedSum? h₂, Word.toNat_checkedSum? h₃,
    Word.toNat_checkedSum? h₄⟩

end Record

/-! ### A report that no service answers -/

/-- Two disks that are read from as fast as counters tell, and faster than one of them could. -/
def twoFullDisks : OrderedMap String DiskStat :=
  .ofItems [{ device := "a", readBytesPerSec := 0xffffffffffffffff },
    { device := "b", readBytesPerSec := 1 }]

theorem not_fits_of_twoFullDisks {s : Snapshot} (h : s.disks = twoFullDisks) : ¬ s.Fits := by
  rintro ⟨hread, -⟩
  rw [h] at hread
  exact absurd hread (by decide)

/-- Such disks as an agent reports them. -/
def twoFullDisksJson : Json :=
  .ofMembers [("disks", .arr [
    .ofMembers [("device", .str "a"), ("readBytesPerSec", .int 0xffffffffffffffff)],
    .ofMembers [("device", .str "b"), ("readBytesPerSec", .int 1)]])]

theorem read_twoFullDisksJson :
    Wire.read twoFullDisksJson = .ok ({ disks := twoFullDisks } : Snapshot) := rfl

namespace Pipeline

variable {config : WriterConfig}

/-- The snapshot of a report is the current one of its agent, whether the report is answered or
not. -/
theorem current_reported (config : WriterConfig) (p : Pipeline) (now : Int) (agentId : String)
    (report : Report) :
    (p.step config (.reported now agentId report)).cache.current.get? agentId =
      some (Service.cacheReport p.cache now agentId report).2 := by
  rw [cache_reported]
  exact (p.cache.current.get?_insert agentId agentId _).trans (if_pos rfl)

/-- **A report is answered exactly if the throughput of its snapshot fits.** After any run of a
service that keeps rows, the snapshot of a further report is the current one of its agent in any
case. If its four sums fit into counters, the report is answered and the row that it sends has
exactly these sums. If not, there is no answer and nothing is sent, though the reader accepted the
report; and there is a report that the reader accepts and no service answers, whatever it has seen
before. -/
theorem answered_iff_fits (config : WriterConfig) (p : Pipeline) (events : List PipelineEvent) :
    let q := p.run config events
    p.answers config events =
      (p.written config events).map (fun e => (e.1, if e.2.Fits then some e.2 else none)) ∧
    (∀ now agentId report,
      let s := (Service.cacheReport q.cache now agentId report).2
      let after := q.step config (.reported now agentId report)
      after.cache.current.get? agentId = some s ∧
      (s.Fits → (q.service.receive now agentId report).2 = some s ∧
        ∃ r, q.row? (.reported now agentId report) = some r ∧ r.Totals s) ∧
      (¬ s.Fits → (q.service.receive now agentId report).2 = none ∧
        q.row? (.reported now agentId report) = none ∧ after.writer = q.writer)) ∧
    ∃ json s, Wire.read json = .ok (s : Snapshot) ∧
      ∀ now agentId, (q.service.receive now agentId (.full s)).2 = none := by
  intro q
  refine ⟨answers_eq_map p events, fun now agentId report => ?_, ?_⟩
  · intro s after
    refine ⟨current_reported config q now agentId report, fun hfits => ?_, fun hfits => ?_⟩
    · obtain ⟨r, hr⟩ := Record.exists_ofSnapshot? hfits agentId
      refine ⟨?_, r, ?_, Record.totals_of_ofSnapshot? hr⟩
      · rw [receive_answer]
        exact congrArg (Option.map fun _ => s) hr
      · rw [row?_reported]
        exact hr
    · have hnone := Record.ofSnapshot?_eq_none hfits agentId
      have hrow : q.row? (.reported now agentId report) = none := (row?_reported ..).trans hnone
      refine ⟨?_, hrow, ?_⟩
      · rw [receive_answer]
        exact congrArg (Option.map fun _ => s) hnone
      · show (q.step config _).writer = _
        rw [writer_reported, hrow]
        rfl
  · refine ⟨_, _, read_twoFullDisksJson, fun now agentId => ?_⟩
    have hfits : ¬ (Service.cacheReport q.cache now agentId
        (.full { disks := twoFullDisks })).2.Fits := not_fits_of_twoFullDisks rfl
    rw [receive_answer]
    exact congrArg (Option.map _) (Record.ofSnapshot?_eq_none hfits agentId)

/-- Two updates, each of which reports one disk and would be answered alone. -/
def diskByDisk : List PipelineEvent :=
  [("a", 0xffffffffffffffff), ("b", 1)].map fun (device, readBytesPerSec) =>
    .reported 0 "agent" (.update (.realtime { diskIo := [{ device, readBytesPerSec }] }))

theorem answered_iff_fits_diskByDisk :
    let p : Pipeline :=
      { cache := Cache.empty 2 1, writer := { store := {}, channel := { capacity := 4 } } }
    (p.answers ⟨2, 10⟩ diskByDisk).map (fun e => e.2.isSome) = [true, false] ∧
      (p.answers ⟨2, 10⟩ diskByDisk.tail).map (fun e => e.2.isSome) = [true] := by
  intro p
  rw [(answered_iff_fits ⟨2, 10⟩ p diskByDisk).1, (answered_iff_fits ⟨2, 10⟩ p diskByDisk.tail).1]
  decide +kernel

end Pipeline
end FleetTelemetry
