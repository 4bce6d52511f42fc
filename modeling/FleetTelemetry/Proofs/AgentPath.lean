/-
# The path of an agent

An agent is named by a segment of a path, in which every octet of its identifier
may be encoded (`Percent.decode?_encode`). So there is a path for every agent
(`Resource.exists_ofPath?_agent_iff`), except for the one whose identifier is
empty: a segment that stands for it is empty itself (`Percent.eq_nil_of_decode?`),
and the last segment of a path must not be.

Key definitions: `Percent.octets`, `Percent.encode`, `Request.IsFor`.
Key theorems: `Percent.decode?_encode`, `Percent.eq_nil_of_decode?`,
`Resource.exists_ofPath?_agent_iff`.
-/
import FleetTelemetry.Http.Route
import Mathlib.Data.List.TakeWhile

namespace FleetTelemetry

/-! ### Percent encoding and back -/

namespace Percent

/-- The octets of a text. -/
def octets (chars : List Char) : List UInt8 := chars.flatMap String.utf8EncodeChar

theorem octets_append (chars chars' : List Char) :
    octets (chars ++ chars') = octets chars ++ octets chars' := List.flatMap_append

theorem toUTF8_ofList (chars : List Char) :
    (String.ofList chars).toUTF8.data.toList = octets chars := by
  rw [String.toUTF8_eq_toByteArray, String.toByteArray_ofList]
  exact List.toList_data_toByteArray

/-- The encoding of an octet. -/
def encodeOctet (o : UInt8) : List Char :=
  ['%', Nat.digitChar (o.toNat / 16), Nat.digitChar (o.toNat % 16)]

/-- An identifier with all its octets encoded. -/
def encode (id : String) : List Char := id.toUTF8.data.toList.flatMap encodeOctet

/-- A digit is one octet, and stands for its value. -/
theorem octet_digitChar : ∀ d < 16, ∃ o, String.utf8EncodeChar (Nat.digitChar d) = [o] ∧
    hexDigit? o = some d ∧ Nat.digitChar d ∉ ['/', '?', '#'] := by
  intro d hd
  refine ⟨UInt8.ofNat (Nat.digitChar d).toNat, ?_⟩
  revert d
  decide

theorem decodeOctets_encodeOctet (o : UInt8) (rest : List UInt8) :
    decodeOctets (octets (encodeOctet o) ++ rest) = o :: decodeOctets rest := by
  have hlt : o.toNat < 256 := o.toNat_lt
  obtain ⟨a, ha, hhigh, -⟩ := octet_digitChar (o.toNat / 16) (by omega)
  obtain ⟨b, hb, hlow, -⟩ := octet_digitChar (o.toNat % 16) (by omega)
  have hsign : String.utf8EncodeChar '%' = [0x25] := by decide
  have hvalue : UInt8.ofNat (o.toNat / 16 * 16 + o.toNat % 16) = o := by
    rw [Nat.div_add_mod', UInt8.ofNat_toNat]
  simp only [octets, encodeOctet, List.flatMap_cons, List.flatMap_nil, ha, hb, hsign,
    List.append_nil, List.cons_append, List.nil_append]
  rw [decodeOctets, if_pos rfl, hhigh, hlow]
  exact congrArg (· :: decodeOctets rest) hvalue

theorem decodeOctets_encode (os : List UInt8) :
    decodeOctets (octets (os.flatMap encodeOctet)) = os := by
  induction os with
  | nil => rfl
  | cons o os ih => rw [List.flatMap_cons, octets_append, decodeOctets_encodeOctet, ih]

/-- **What is encoded is decoded again.** -/
theorem decode?_encode (id : String) : decode? (encode id) = some id := by
  unfold decode? encode
  rw [toUTF8_ofList, decodeOctets_encode]
  exact dif_pos id.isValidUTF8

theorem not_mem_encode {c : Char} (h : c ∈ ['/', '?', '#']) (id : String) : c ∉ encode id := by
  intro hmem
  obtain ⟨o, -, hc⟩ := List.mem_flatMap.mp hmem
  have hlt : o.toNat < 256 := o.toNat_lt
  rcases List.mem_cons.mp hc with rfl | hc
  · exact absurd h (by decide)
  · rcases List.mem_cons.mp hc with rfl | hc
    · obtain ⟨-, -, -, hnot⟩ := octet_digitChar (o.toNat / 16) (by omega)
      exact hnot h
    · obtain rfl := List.mem_singleton.mp hc
      obtain ⟨-, -, -, hnot⟩ := octet_digitChar (o.toNat % 16) (by omega)
      exact hnot h

theorem decodeOctets_ne_nil (o : UInt8) (os : List UInt8) : decodeOctets (o :: os) ≠ [] := by
  unfold decodeOctets
  split
  · split
    · split <;> simp
    · simp
  · simp

/-- **Only an empty text stands for the empty identifier.** -/
theorem eq_nil_of_decode? {chars : List Char} (h : decode? chars = some "") : chars = [] := by
  cases chars with
  | nil => rfl
  | cons c chars =>
    unfold decode? String.fromUTF8? at h
    split at h
    · have hbytes := congrArg String.toByteArray (Option.some.inj h)
      have hnil := congrArg (fun b : ByteArray => b.data.toList) hbytes
      have hdecoded : decodeOctets (octets (c :: chars)) = [] := by
        rw [← toUTF8_ofList]
        exact hnil
      obtain ⟨o, os, ho⟩ := List.exists_cons_of_ne_nil (String.utf8EncodeChar_ne_nil (c := c))
      rw [octets, List.flatMap_cons, ho, List.cons_append] at hdecoded
      exact absurd hdecoded (decodeOctets_ne_nil _ _)
    · cases h

end Percent

/-! ### Paths -/

/-- A target without a query and a fragment is a path. -/
theorem Request.path_eq_target {r : Request} (h : ∀ c ∈ r.target.toList, c ∉ ['?', '#']) :
    r.path = r.target.toList := by
  have hwhole : ∀ sep ∈ ['?', '#'], r.target.toList.takeWhile (· ≠ sep) = r.target.toList := by
    intro sep hsep
    refine List.takeWhile_eq_self_iff.mpr fun c hc => ?_
    exact decide_eq_true fun heq => h c hc (heq ▸ hsep)
  unfold path targetParts Parts.cutAt
  rw [hwhole '#' (by simp)]
  exact hwhole '?' (by simp)

/-- Whether a request has a method and asks for a resource. -/
def Request.IsFor (r : Request) (method : Method) (resource : Resource) : Prop :=
  r.method = method ∧ Resource.ofPath? r.path = some resource

theorem Resource.ne_nil_of_ofPath?_agent {path segment : List Char}
    (h : ofPath? path = some (.agent segment)) : segment ≠ [] := by
  unfold ofPath? ofSegments? at h
  split at h
  · split at h <;> cases h
  · split at h
    · cases h
    · split at h <;> cases h
  · split at h
    · next hsegment =>
      obtain rfl := Resource.agent.inj (Option.some.inj h)
      exact hsegment.2.2
    · cases h
  · split at h
    · unfold ofAgentPart? at h
      split at h <;> cases h
    · cases h
  · cases h

theorem Resource.ofPath?_agent {segment : List Char} (hslash : '/' ∉ segment)
    (hnil : segment ≠ []) : ofPath? ("/api/agents/".toList ++ segment) = some (.agent segment) := by
  have hsplit : Parts.splitAt '/' ("/api/agents/".toList ++ segment) =
      [[], "api".toList, "agents".toList, segment] := by
    rw [show "/api/agents/".toList ++ segment =
      [] ++ '/' :: ("api".toList ++ '/' :: ("agents".toList ++ '/' :: segment)) from rfl]
    rw [Parts.splitAt_append _ (by decide), Parts.splitAt_append _ (by decide),
      Parts.splitAt_append _ (by decide), Parts.splitAt_of_not_mem hslash]
  rw [ofPath?, hsplit]
  exact if_pos ⟨rfl, rfl, hnil⟩

/-- A segment that has nothing to separate can be asked for. -/
theorem Request.exists_isFor_agent (method : Method) {segment : List Char} (hnil : segment ≠ [])
    (hplain : ∀ c ∈ ['/', '?', '#'], c ∉ segment) :
    ∃ r : Request, r.IsFor method (.agent segment) := by
  let r : Request :=
    { method, target := String.ofList ("/api/agents/".toList ++ segment), contentType := none
      body := .ofText "" }
  have htarget : r.target.toList = "/api/agents/".toList ++ segment := String.toList_ofList
  have hpath : r.path = "/api/agents/".toList ++ segment := by
    rw [← htarget]
    refine path_eq_target fun c hc hsep => ?_
    rw [htarget] at hc
    have hroute : ∀ c ∈ "/api/agents/".toList, c ∉ ['?', '#'] := by simp
    rcases List.mem_append.mp hc with hc | hc
    · exact hroute c hc hsep
    · exact hplain c (List.mem_cons_of_mem '/' hsep) hc
  refine ⟨r, rfl, ?_⟩
  rw [hpath]
  exact Resource.ofPath?_agent (hplain '/' List.mem_cons_self) hnil

/-- **There is a path for every agent but the one without a name.** -/
theorem Resource.exists_ofPath?_agent_iff (method : Method) (id : String) :
    (∃ (r : Request) (segment : List Char),
      r.IsFor method (.agent segment) ∧ Percent.decode? segment = some id) ↔ id ≠ "" := by
  constructor
  · rintro ⟨r, segment, ⟨-, hpath⟩, hid⟩ rfl
    exact ne_nil_of_ofPath?_agent hpath (Percent.eq_nil_of_decode? hid)
  · intro hne
    obtain ⟨segment, hid, hplain⟩ : ∃ segment, Percent.decode? segment = some id ∧
        ∀ c ∈ ['/', '?', '#'], c ∉ segment :=
      ⟨_, Percent.decode?_encode id, fun _ hc => Percent.not_mem_encode hc id⟩
    have hnil : segment ≠ [] := fun hnil => by
      rw [hnil] at hid
      exact hne (Option.some.inj hid).symm
    obtain ⟨r, hr⟩ := Request.exists_isFor_agent method hnil hplain
    exact ⟨r, segment, hr, hid⟩

end FleetTelemetry
