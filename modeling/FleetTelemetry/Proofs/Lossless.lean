/-
# Types without loss in JSON

A type is lossless if its plain values are read back from what they are written
as, and nothing but plain values is read of JSON whose numbers are in range
(`Lossless`); then whatever is read is read the same again. Numbers are plain if
they fit what JSON can say of them, lists and options if their parts are, and
maps of devices if also every device stands under its own key
(`OrderedMap.ofItems_values`).

A structure is lossless by its table of fields (`Lossless.ofFields`). What the
table writes is read member by member: a member finds its field, which no member
before it has named, and the field restores what it wrote, until the value is
complete (`Field.read_writeAll`). What the fields ask of a value each of them has
to keep when it is read (`Field.KeepsOn`).

Key definitions: `Lossless`, `NeverNull`, `Field.Restores`, `Field.Pending`,
`Lossless.ofFields`.
Key theorems: `OrderedMap.ofItems_values`, `Field.member?_writeAll`,
`Field.read_writeAll`, `Field.keepsOn_readAll`.
-/
import FleetTelemetry.Proofs.DeviceKeys
import FleetTelemetry.Proofs.JsonNumbers

namespace FleetTelemetry

/-- A signed word of 64 bits. -/
def Word.Signed64 (n : Int) : Prop := Word.minSigned64 ≤ n ∧ n ≤ Word.maxSigned64

theorem Word.signed64_zero : Word.Signed64 0 := ⟨by decide, by decide⟩

/-- Types whose plain values are read back as they were written, and of which nothing else is
read. -/
class Lossless (α : Type) [Wire α] where
  /-- What JSON can say. -/
  Plain : α → Prop
  read_write : ∀ {a : α}, Plain a → Wire.read (Wire.write a) = .ok a
  plain_of_read : ∀ {json : Json} {a : α}, json.InRange → Wire.read json = .ok a → Plain a

export Lossless (Plain)

/-- Types that are never written as `null`. -/
class NeverNull (α : Type) [Wire α] : Prop where
  write_ne_null : ∀ a : α, Wire.write a ≠ .null

/-! ### Maps and their items -/

namespace OrderedMap

variable {κ α : Type} [DecidableEq κ]

theorem upsertEntry_of_notMem {k : κ} (create : α) (update : α → α) :
    ∀ {es : List (κ × α)}, k ∉ es.map Prod.fst →
      upsertEntry k create update es = es ++ [(k, create)]
  | [], _ => rfl
  | e :: es, h => by
    rw [List.map_cons, List.mem_cons, not_or] at h
    obtain ⟨hk, hes⟩ := h
    rw [upsertEntry, if_neg (Ne.symm hk), upsertEntry_of_notMem create update hes]
    rfl

variable [Keyed α κ]

/-- Items come in behind what is there, if their keys are new and distinct. -/
theorem foldl_insertItem {added : List (κ × α)} (hown : ∀ e ∈ added, key e.2 = e.1) :
    ∀ es : List (κ × α), ((es ++ added).map Prod.fst).Nodup →
      ((added.map Prod.snd).foldl insertItem ⟨es⟩ : OrderedMap κ α) = ⟨es ++ added⟩ := by
  induction added with
  | nil => intro es _; rw [List.append_nil]; rfl
  | cons e added ih =>
    intro es hnodup
    obtain ⟨he, hown⟩ := List.forall_mem_cons.mp hown
    have hsplit : es ++ e :: added = es ++ [e] ++ added := by simp
    have hnew : key e.2 ∉ es.map Prod.fst := by
      rw [he]
      rw [List.map_append, List.nodup_append] at hnodup
      exact fun hmem => hnodup.2.2 _ hmem _ List.mem_cons_self rfl
    have hfirst : insertItem (⟨es⟩ : OrderedMap κ α) e.2 = ⟨es ++ [e]⟩ := by
      refine congrArg OrderedMap.mk ?_
      rw [upsertEntry_of_notMem _ _ hnew, he]
    rw [hsplit] at hnodup ⊢
    rw [List.map_cons, List.foldl_cons, hfirst]
    exact ih hown _ hnodup

/-- **A well-keyed map is that of its values.** -/
theorem ofItems_values {m : OrderedMap κ α} (h : m.WellKeyed) : ofItems m.values = m :=
  foldl_insertItem h.own [] h.nodup

theorem mem_values_ofItems {items : List α} {a : α}
    (h : a ∈ (ofItems items : OrderedMap κ α).values) : a ∈ items := by
  suffices hgen : ∀ m : OrderedMap κ α, a ∈ (items.foldl insertItem m).values →
      a ∈ m.values ∨ a ∈ items from (hgen empty h).resolve_left List.not_mem_nil
  clear h
  induction items with
  | nil => exact fun m h => .inl h
  | cons b items ih =>
    intro m h
    rcases ih (m.insertItem b) h with h | h
    · obtain ⟨e, he, rfl⟩ := List.mem_map.mp h
      rcases mem_upsertEntry he with he | rfl | ⟨_, _, rfl⟩
      · exact .inl (List.mem_map_of_mem he)
      · exact .inr List.mem_cons_self
      · exact .inr List.mem_cons_self
    · exact .inr (List.mem_cons_of_mem _ h)

end OrderedMap

namespace Lossless

/-! ### Numbers and texts -/

theorem readInt_of_mem {low high n : Int} (hlow : low ≤ n) (hhigh : n ≤ high) :
    Wire.readInt low high (.int n) = .ok n :=
  if_pos ⟨hlow, hhigh⟩

theorem map_readInt_of_mem {β : Type} {f : Int → β} {low high n : Int} (hlow : low ≤ n)
    (hhigh : n ≤ high) : (Wire.readInt low high (.int n)).map f = .ok (f n) :=
  congrArg (Except.map f) (readInt_of_mem hlow hhigh)

theorem mem_of_readInt {low high n : Int} {json : Json} (h : Wire.readInt low high json = .ok n) :
    low ≤ n ∧ n ≤ high := by
  unfold Wire.readInt at h
  split at h
  · split at h
    · next hn => exact Except.ok.inj h ▸ hn
    · cases h
  · cases h

instance : Lossless Bool where
  Plain _ := True
  read_write _ := rfl
  plain_of_read _ _ := trivial

instance : Lossless String where
  Plain _ := True
  read_write _ := rfl
  plain_of_read _ _ := trivial

instance : Lossless UInt64 where
  Plain _ := True
  read_write {n} _ := by
    have hn : (n.toNat : Int) ≤ Word.size64 - 1 :=
      Int.le_sub_one_of_lt (Int.ofNat_lt.mpr n.toNat_lt)
    exact (map_readInt_of_mem (Int.natCast_nonneg _) hn).trans (congrArg _ UInt64.ofNat_toNat)
  plain_of_read _ _ := trivial

instance : Lossless UInt32 where
  Plain _ := True
  read_write {n} _ := by
    have hn : (n.toNat : Int) ≤ Word.size32 - 1 :=
      Int.le_sub_one_of_lt (Int.ofNat_lt.mpr n.toNat_lt)
    exact (map_readInt_of_mem (Int.natCast_nonneg _) hn).trans (congrArg _ UInt32.ofNat_toNat)
  plain_of_read _ _ := trivial

instance : Lossless Int64 where
  Plain _ := True
  read_write {n} _ := by
    have hlow : Word.minSigned64 ≤ n.toInt := n.le_toInt
    have hhigh : n.toInt ≤ Word.maxSigned64 := Int.le_of_lt_add_one n.toInt_lt
    exact (map_readInt_of_mem hlow hhigh).trans (congrArg _ (Int64.ofInt_toInt n))
  plain_of_read _ _ := trivial

instance : Lossless Int where
  Plain := Word.Signed64
  read_write h := readInt_of_mem h.1 h.2
  plain_of_read _ h := mem_of_readInt h

theorem isFinite_ofInt {n : Int} (hlow : Word.minSigned64 ≤ n) (hhigh : n < Word.size64) :
    (Float.ofInt n).isFinite = true := by
  simp only [Word.minSigned64, Word.size64] at hlow hhigh
  exact Double.isFinite_ofInt (by omega)

instance : Lossless Float where
  Plain x := x.isFinite = true
  read_write {x} h := by
    show Wire.read (if x.isFinite then Json.float x else .null) = _
    rw [if_pos h]
    rfl
  plain_of_read {json x} hjson h := by
    cases hjson with
    | float hx => exact Except.ok.inj h ▸ hx
    | int hlow hhigh =>
      obtain rfl := Except.ok.inj h
      exact isFinite_ofInt hlow hhigh
    | _ => cases h

/-! ### Lists, options and maps -/

variable {α : Type} [Wire α] [Lossless α]

theorem readEach_map_write {as : List α} (h : ∀ a ∈ as, Plain a) :
    Wire.readEach Wire.read (as.map Wire.write) = .ok as := by
  induction as with
  | nil => rfl
  | cons a as ih =>
    obtain ⟨ha, has⟩ := List.forall_mem_cons.mp h
    simp only [List.map_cons, Wire.readEach, read_write ha, ih has]

theorem plain_of_readEach : ∀ {items : List Json} {as : List α}, (∀ json ∈ items, json.InRange) →
    Wire.readEach Wire.read items = .ok as → ∀ a ∈ as, Plain a
  | [], _, _, h => Except.ok.inj h ▸ nofun
  | json :: items, as, hitems, h => by
    obtain ⟨hjson, hitems⟩ := List.forall_mem_cons.mp hitems
    unfold Wire.readEach at h
    split at h
    · cases h
    · next a ha =>
      split at h
      · cases h
      · next as has =>
        obtain rfl := Except.ok.inj h
        exact List.forall_mem_cons.mpr ⟨plain_of_read hjson ha, plain_of_readEach hitems has⟩

instance : Lossless (List α) where
  Plain as := ∀ a ∈ as, Plain a
  read_write h := readEach_map_write h
  plain_of_read {json as} hjson h := by
    cases hjson with
    | arr hitems => exact plain_of_readEach hitems h
    | _ => cases h

instance : NeverNull (List α) where
  write_ne_null _ := nofun

omit [Lossless α] in
theorem read_option {json : Json} (h : json ≠ .null) :
    (Wire.read json : Except Json.Fault (Option α)) = (Wire.read json).map some := by
  cases json <;> first | rfl | exact absurd rfl h

instance [NeverNull α] : Lossless (Option α) where
  Plain o := ∀ a ∈ o, Plain a
  read_write {o} h := by
    cases o with
    | none => rfl
    | some a =>
      show Wire.read (Wire.write a) = .ok (some a)
      rw [read_option (NeverNull.write_ne_null a), read_write (h a rfl)]
      rfl
  plain_of_read {json o} hjson h := by
    by_cases hnull : json = .null
    · obtain rfl := hnull
      exact Except.ok.inj h ▸ nofun
    · rw [read_option hnull] at h
      obtain ⟨a, ha, rfl⟩ := Wire.of_map_eq_ok h
      intro a' ha'
      exact Option.some.inj ha' ▸ plain_of_read hjson ha

section Keyed

variable {κ : Type} [DecidableEq κ] [Keyed α κ]

instance : Lossless (OrderedMap κ α) where
  Plain m := m.WellKeyed ∧ ∀ a ∈ m.values, Plain a
  read_write {m} h := by
    show (Wire.read (Wire.write m.values) : Except Json.Fault (List α)).map OrderedMap.ofItems = _
    rw [read_write (α := List α) h.2]
    exact congrArg Except.ok (OrderedMap.ofItems_values h.1)
  plain_of_read {json m} hjson h := by
    obtain ⟨items, hitems, rfl⟩ := Wire.of_map_eq_ok h
    have hplain : ∀ a ∈ items, Plain a := plain_of_read (α := List α) hjson hitems
    exact ⟨OrderedMap.wellKeyed_ofItems items,
      fun a ha => hplain a (OrderedMap.mem_values_ofItems ha)⟩

end Keyed

end Lossless

/-! ### Tables of fields -/

namespace Field

variable {σ β : Type}

/-- What is written of `s` under some fields makes `s` of `t` when it is read back into it. -/
inductive Restores (s : σ) : List (Field σ) → σ → Prop where
  | done : Restores s [] s
  | written {f : Field σ} {fs : List (Field σ)} {json : Json} {t t' : σ}
      (hwrite : f.write s = some json) (hread : f.read json t = .ok t') (rest : Restores s fs t') :
      Restores s (f :: fs) t
  | omitted {f : Field σ} {fs : List (Field σ)} {t : σ} (hwrite : f.write s = none)
      (hopt : f.required = false) (rest : Restores s fs t) : Restores s (f :: fs) t

/-- The members under which some fields of a value are written. -/
def members (fields : List (Field σ)) (s : σ) : List (Option String × Json) :=
  fields.filterMap fun f => (f.write s).map fun json => (some f.name, json)

theorem writeAll_eq (fields : List (Field σ)) (s : σ) :
    writeAll fields s = .obj (members fields s) := by
  unfold writeAll Json.ofMembers members
  rw [List.map_filterMap]
  simp only [Option.map_map, Function.comp_def]

theorem find?_of_nodup {fields : List (Field σ)} (hnodup : (fields.map name).Nodup) {f : Field σ}
    (hf : f ∈ fields) : (fields.find? fun g => g.name == f.name) = some f := by
  induction fields with
  | nil => cases hf
  | cons g gs ih =>
    obtain ⟨hg, hgs⟩ := List.nodup_cons.mp hnodup
    rcases List.mem_cons.mp hf with rfl | hf
    · simp
    · have hne : g.name ≠ f.name := fun h => hg (h ▸ List.mem_map_of_mem hf)
      rw [List.find?_cons_of_neg (by simpa using hne)]
      exact ih hgs hf

theorem members_cons_none {f : Field σ} {fs : List (Field σ)} {s : σ} (h : f.write s = none) :
    members (f :: fs) s = members fs s := by
  simp [members, h]

theorem members_cons_some {f : Field σ} {fs : List (Field σ)} {s : σ} {json : Json}
    (h : f.write s = some json) : members (f :: fs) s = (some f.name, json) :: members fs s := by
  simp [members, h]

theorem exists_of_mem_members {fields : List (Field σ)} {s : σ} {m : Option String × Json}
    (h : m ∈ members fields s) : ∃ f ∈ fields, m.1 = some f.name := by
  obtain ⟨f, hf, hm⟩ := List.mem_filterMap.mp h
  obtain ⟨json, -, rfl⟩ := Option.map_eq_some_iff.mp hm
  exact ⟨f, hf, rfl⟩

/-- What stands under the name of a field is what the field writes, if it writes anything. -/
theorem member?_writeAll {fields : List (Field σ)} (hnodup : (fields.map name).Nodup) {s : σ}
    {key : String} {written : Option Json} (i : Nat)
    (h : fields[i]?.map (fun f => (f.name, f.write s)) = some (key, written)) :
    (writeAll fields s).member? key = written := by
  rw [writeAll_eq]
  show ((members fields s).find? fun m => m.1 == some key).map Prod.snd = written
  induction fields generalizing i with
  | nil => cases h
  | cons g gs ih =>
    obtain ⟨hg, hgs⟩ := List.nodup_cons.mp hnodup
    cases i with
    | zero =>
      obtain ⟨rfl, rfl⟩ := Prod.mk.inj (Option.some.inj h)
      cases hwrite : g.write s with
      | some json => rw [members_cons_some hwrite, List.find?_cons_of_pos (by simp)]; rfl
      | none =>
        have hnone : ((members gs s).find? fun m => m.1 == some g.name) = none := by
          refine List.find?_eq_none.mpr fun m hm heq => hg ?_
          obtain ⟨f, hf, hname⟩ := exists_of_mem_members hm
          rw [beq_iff_eq, hname, Option.some.injEq] at heq
          exact heq ▸ List.mem_map_of_mem hf
        rw [members_cons_none hwrite, hnone]
        rfl
    | succ i =>
      obtain ⟨f, hf, heq⟩ := Option.map_eq_some_iff.mp h
      have hf' : gs[i]? = some f := hf
      have hkey : key = f.name := (Prod.mk.inj heq).1.symm
      have hne : g.name ≠ key := fun hname =>
        hg (hname ▸ hkey ▸ List.mem_map_of_mem (List.mem_of_getElem? hf'))
      rw [← ih hgs i (by rw [hf']; exact congrArg some heq)]
      cases hwrite : g.write s with
      | some json => rw [members_cons_some hwrite, List.find?_cons_of_neg (by simpa using hne)]
      | none => rw [members_cons_none hwrite]

/-- The fields of a table that are still to be read, when some names have been seen. -/
structure Pending (fields : List (Field σ)) (seen : List String) (rest : List (Field σ)) :
    Prop where
  known : ∀ f ∈ rest, f ∈ fields
  unseen : ∀ f ∈ rest, f.name ∉ seen
  distinct : (rest.map name).Nodup
  covered : ∀ f ∈ fields, f.required = true → f.name ∈ seen ∨ f ∈ rest

namespace Pending

variable {fields rest : List (Field σ)} {seen : List String} {f : Field σ}

theorem start (hnodup : (fields.map name).Nodup) : Pending fields [] fields where
  known _ hf := hf
  unseen _ _ := List.not_mem_nil
  distinct := hnodup
  covered _ hf _ := .inr hf

theorem read (h : Pending fields seen (f :: rest)) : Pending fields (f.name :: seen) rest := by
  obtain ⟨hfresh, hdistinct⟩ := List.nodup_cons.mp h.distinct
  refine ⟨fun g hg => h.known g (List.mem_cons_of_mem _ hg), fun g hg => ?_, hdistinct,
    fun g hg hr => ?_⟩
  · rw [List.mem_cons, not_or]
    exact ⟨fun heq => hfresh (heq ▸ List.mem_map_of_mem hg), h.unseen g (List.mem_cons_of_mem _ hg)⟩
  · rcases h.covered g hg hr with hseen | hmem
    · exact .inl (List.mem_cons_of_mem _ hseen)
    · rcases List.mem_cons.mp hmem with rfl | hmem
      · exact .inl List.mem_cons_self
      · exact .inr hmem

/-- A field that is not required may be passed over. -/
theorem skip (h : Pending fields seen (f :: rest)) (hopt : f.required = false) :
    Pending fields seen rest where
  known g hg := h.known g (List.mem_cons_of_mem _ hg)
  unseen g hg := h.unseen g (List.mem_cons_of_mem _ hg)
  distinct := (List.nodup_cons.mp h.distinct).2
  covered g hg hr := (h.covered g hg hr).imp_right fun hmem =>
    (List.mem_cons.mp hmem).resolve_left fun heq => by
      rw [heq, hopt] at hr
      cases hr

theorem complete (h : Pending fields seen []) : complete fields seen = true := by
  refine List.all_eq_true.mpr fun f hf => ?_
  cases hr : f.required with
  | false => rfl
  | true =>
    have hseen := (h.covered f hf hr).resolve_right List.not_mem_nil
    simp [hseen]

end Pending

theorem readObject_members {fields : List (Field σ)} (hnodup : (fields.map name).Nodup) {s : σ}
    {rest : List (Field σ)} {t : σ} (h : Restores s rest t) :
    ∀ {seen : List String}, Pending fields seen rest →
      readObject fields (members rest s) seen t = .ok s := by
  induction h with
  | done => exact fun hpending => if_pos hpending.complete
  | @written f fs json t t' hwrite hread _ ih =>
    intro seen hpending
    have hfound := find?_of_nodup hnodup (hpending.known f List.mem_cons_self)
    have hunseen : seen.contains f.name = false := by
      simpa using hpending.unseen f List.mem_cons_self
    rw [members_cons_some hwrite, readObject, hfound]
    simp only [hunseen, Bool.false_eq_true, if_false, hread]
    exact ih hpending.read
  | omitted hwrite hopt _ ih =>
    intro seen hpending
    rw [members_cons_none hwrite]
    exact ih (hpending.skip hopt)

/-- **A value that its fields restore comes back from its JSON form.** -/
theorem read_writeAll {fields : List (Field σ)} (hnodup : (fields.map name).Nodup) {base s : σ}
    (h : Restores s fields base) : readAll fields base (writeAll fields s) = .ok s := by
  rw [writeAll_eq]
  exact readObject_members hnodup h (.start hnodup)

section Lossless

variable [Wire β] [Lossless β]

theorem read_of {get : σ → β} {set : β → σ → σ} {s t : σ} (h : Plain (get s)) :
    (Wire.read (Wire.write (get s))).map (fun b => set b t) = .ok (set (get s) t) := by
  rw [Lossless.read_write h]
  rfl

theorem Restores.of {name : String} {get : σ → β} {set : β → σ → σ} {fs : List (Field σ)} {s t : σ}
    (h : Plain (get s)) (rest : Restores s fs (set (get s) t)) :
    Restores s (Field.of name get set :: fs) t :=
  .written rfl (read_of h) rest

theorem Restores.must {name : String} {get : σ → β} {set : β → σ → σ} {fs : List (Field σ)}
    {s t : σ} (h : Plain (get s)) (rest : Restores s fs (set (get s) t)) :
    Restores s (Field.must name get set :: fs) t :=
  .written rfl (read_of h) rest

/-- A field that holds nothing is left as it is in the base, which has to hold nothing there. -/
theorem Restores.omittable [NeverNull β] {name : String} {get : σ → Option β}
    {set : Option β → σ → σ} {fs : List (Field σ)} {s t : σ} (h : Plain (get s))
    (hbase : set none t = t) (rest : Restores s fs (set (get s) t)) :
    Restores s (Field.omittable name get set :: fs) t := by
  cases hget : get s with
  | none =>
    rw [hget, hbase] at rest
    exact .omitted (congrArg (Option.map Wire.write) hget) rfl rest
  | some b =>
    have hwrite : Wire.write (get s) = Wire.write b := congrArg Wire.write hget
    exact .written (congrArg (Option.map Wire.write) hget) (hwrite ▸ read_of h) rest

theorem keepsOn_of {P : σ → Prop} (name : String) (get : σ → β) {set : β → σ → σ}
    (h : ∀ s v, Plain v → P s → P (set v s)) : (Field.of name get set).KeepsOn Json.InRange P := by
  intro json s s' hjson hs hread
  obtain ⟨v, hv, rfl⟩ := Wire.of_map_eq_ok hread
  exact h s v (Lossless.plain_of_read hjson hv) hs

theorem keepsOn_must {P : σ → Prop} (name : String) (get : σ → β) {set : β → σ → σ}
    (h : ∀ s v, Plain v → P s → P (set v s)) : (Field.must name get set).KeepsOn Json.InRange P :=
  keepsOn_of name get h

theorem keepsOn_omittable [NeverNull β] {P : σ → Prop} (name : String) (get : σ → Option β)
    {set : Option β → σ → σ} (h : ∀ s v, Plain v → P s → P (set v s)) :
    (Field.omittable name get set).KeepsOn Json.InRange P :=
  keepsOn_of name get h

/-- What every field keeps holds of all that is read. -/
theorem keepsOn_readAll {fields : List (Field σ)} {base : σ} {P : σ → Prop}
    (h : ∀ f ∈ fields, f.KeepsOn Json.InRange P) (hbase : P base) {json : Json}
    (hjson : json.InRange) {s : σ} (hread : readAll fields base json = .ok s) : P s := by
  cases hjson with
  | obj hmembers =>
    exact keeps_readObject (fun f hf m hm _ s s' => h f hf m.2 s s' (hmembers m hm)) hbase hread
  | arr hitems => exact keepsOn_readList h hitems hbase hread
  | _ => cases hread

end Lossless

theorem writeAll_ne_null (fields : List (Field σ)) (s : σ) : writeAll fields s ≠ .null := nofun

end Field

/-- Structures are written as objects. -/
theorem NeverNull.ofFields {σ : Type} (fields : List (Field σ)) (base : σ) :
    @NeverNull σ (Wire.ofFields fields base) :=
  letI := Wire.ofFields fields base
  ⟨Field.writeAll_ne_null fields⟩

namespace Lossless

variable {σ : Type} {fields : List (Field σ)} {base : σ}

/-- Structures whose fields carry what a property asks of them. -/
@[reducible] def ofFields (P : σ → Prop) (hnodup : (fields.map Field.name).Nodup) (hbase : P base)
    (hkeeps : ∀ f ∈ fields, f.KeepsOn Json.InRange P)
    (hrestores : ∀ s, P s → Field.Restores s fields base) :
    @Lossless σ (Wire.ofFields fields base) :=
  letI := Wire.ofFields fields base
  { Plain := P
    read_write := fun h => Field.read_writeAll hnodup (hrestores _ h)
    plain_of_read := fun hjson h => Field.keepsOn_readAll hkeeps hbase hjson h }

/-- Structures whose fields carry all that is in them, as it is if the parts ask nothing. -/
@[reducible] def free (hnodup : (fields.map Field.name).Nodup := by decide)
    (hrestores : ∀ s, Field.Restores s fields base := by
      intro s
      repeat' first
        | exact .done
        | refine .of trivial ?_
        | refine .of (fun _ _ => trivial) ?_) :
    @Lossless σ (Wire.ofFields fields base) :=
  ofFields (fun _ => True) hnodup trivial (fun _ _ _ _ _ _ _ _ => trivial) fun s _ => hrestores s

end Lossless
end FleetTelemetry
