/-
# How the names of months are spelled

The name of a month is one spelling of it, and no two months share a name
(`Month.name_injective`). Reading accepts more: the year and the number may bear
signs, so that the texts that are read as a month are its spellings
(`Month.ofName?_eq_some_iff`), of which all but the name bear a sign that says
nothing (`Month.eq_name_iff`).

A database may have tables with any names. The months that are found among them
are counted by their spellings (`Month.count_ofTables`); for the tables of a
store they are those that the store lists (`Store.ofTables_eq_listed`).

Key definitions: `Month.spellings`, `Month.SignedIdly`.
Key theorems: `Month.ofName?_eq_some_iff`, `Month.name_injective`,
`Month.eq_name_iff`, `Month.exists_spelling_ne_name_iff`, `Month.count_ofTables`,
`Month.listed_once_iff`, `Store.ofTables_eq_listed`, `Month.name_identifies`,
`Month.spellings_listed`.
-/
import FleetTelemetry.Proofs.Months
import FleetTelemetry.Proofs.NumberSpelling
import Mathlib.Data.List.Basic
import Mathlib.Data.List.Nodup
import Mathlib.Data.List.Pairwise

namespace FleetTelemetry

/-! ### Spellings of months -/

namespace Month

open Digits

/-- The texts that are read as a month: a year in four characters and a number in two. -/
def spellings (m : Month) : List (List Char) :=
  (intSpellings 4 m.year).flatMap fun year =>
    (natSpellings 2 m.number).map fun number => stem ++ year ++ '_' :: number

/-- Whether a spelling of a month has a sign that says nothing: a plus sign, or a minus sign before
the year zero. -/
def SignedIdly (m : Month) (t : String) : Prop :=
  '+' ∈ t.toList ∨ m.year = 0 ∧ '-' ∈ t.toList

instance (m : Month) (t : String) : Decidable (m.SignedIdly t) :=
  inferInstanceAs (Decidable (_ ∨ _))

theorem mem_spellings {m : Month} {t : List Char} :
    t ∈ m.spellings ↔ ∃ year ∈ intSpellings 4 m.year, ∃ number ∈ natSpellings 2 m.number,
      t = stem ++ year ++ '_' :: number := by
  simp only [spellings, List.mem_flatMap, List.mem_map, eq_comm]

theorem eq_append_of_dropStem : ∀ {stem text rest : List Char},
    dropStem stem text = some rest → text = stem ++ rest
  | [], _, _, h => Option.some.inj h
  | _ :: _, [], _, h => by cases h
  | s :: stem, c :: text, rest, h => by
    rw [dropStem] at h
    split at h
    · next hc => rw [hc, List.cons_append, ← eq_append_of_dropStem h]
    · cases h

theorem eq_append_of_tail? {rest number : List Char}
    (h : (rest.dropWhile (· ≠ '_')).tail? = some number) :
    rest = rest.takeWhile (· ≠ '_') ++ '_' :: number := by
  have hcut := List.takeWhile_append_dropWhile (p := (· ≠ '_')) (l := rest)
  have hhead := List.head?_dropWhile_not (· ≠ '_') rest
  cases hd : rest.dropWhile (· ≠ '_') with
  | nil => rw [hd] at h; cases h
  | cons c cs =>
    rw [hd] at h hcut hhead
    obtain rfl := Option.some.inj h
    obtain rfl : c = '_' := by simpa using hhead
    exact hcut.symm

theorem of?_eq_some_iff {year : Int} {number : Nat} {m : Month} :
    of? year number = some m ↔ m.Valid ∧ m.year = year ∧ m.number = number := by
  unfold of?
  split
  · next h =>
    rw [Option.some.injEq]
    constructor
    · rintro rfl
      exact ⟨h, rfl, rfl⟩
    · rintro ⟨-, rfl, rfl⟩
      rfl
  · next h =>
    refine iff_of_false nofun ?_
    rintro ⟨hm, rfl, rfl⟩
    exact h hm

/-- **What is read as a month is a spelling of it.** -/
theorem ofName?_eq_some_iff {t : String} {m : Month} :
    ofName? t = some m ↔ m.Valid ∧ t.toList ∈ m.spellings := by
  rw [mem_spellings]
  simp only [ofName?, ofNameChars?, Option.bind_eq_bind, Option.bind_eq_some_iff]
  constructor
  · rintro ⟨rest, hrest, number, hnumber, h⟩
    split at h
    · next hlen =>
      simp only [Option.bind_eq_some_iff] at h
      obtain ⟨y, hy, n, hn, h⟩ := h
      obtain ⟨hm, rfl, rfl⟩ := of?_eq_some_iff.mp h
      refine ⟨hm, _, hlen.1 ▸ int?_eq_some_iff.mp hy, _, hlen.2 ▸ nat?_eq_some_iff.mp hn, ?_⟩
      rw [List.append_assoc, ← eq_append_of_tail? hnumber]
      exact eq_append_of_dropStem hrest
    · cases h
  · rintro ⟨hm, year, hyear, number, hnumber, ht⟩
    have hyearLen : year.length = 4 := length_of_mem_intSpellings hyear
    have hnumberLen : number.length = 2 := (mem_natSpellings.mp hnumber).2
    have hall : ∀ c ∈ year, (decide (c ≠ '_')) = true := fun c hc => decide_eq_true fun h =>
      not_mem_intSpellings (c := '_') rfl (by decide) (by decide) hyear (h ▸ hc)
    refine ⟨year ++ '_' :: number, by rw [ht, List.append_assoc, dropStem_append], number, ?_, ?_⟩
    · rw [List.dropWhile_append_of_pos hall]
      rfl
    · have htake : (year ++ '_' :: number).takeWhile (fun c => decide (c ≠ '_')) = year := by
        rw [List.takeWhile_append_of_pos hall]
        exact List.append_nil _
      rw [htake, if_pos ⟨hyearLen, hnumberLen⟩, int?_eq_some_iff.mpr (hyearLen.symm ▸ hyear),
        nat?_eq_some_iff.mpr (hnumberLen.symm ▸ hnumber)]
      exact of?_eq_some_iff.mpr ⟨hm, rfl, rfl⟩

theorem toList_name (m : Month) :
    m.name.toList = stem ++ paddedInt 4 m.year ++ '_' :: padded 2 m.number :=
  String.toList_ofList

theorem spelling_inj {year number : List Char} (hyear : '_' ∉ year) (hnumber : '_' ∉ number)
    {year' number' : List Char} :
    stem ++ year ++ '_' :: number = stem ++ year' ++ '_' :: number' ↔
      year = year' ∧ number = number' := by
  rw [List.append_assoc, List.append_assoc, List.append_cancel_left_eq,
    List.append_cons_inj_of_notMem hyear hnumber]
  exact and_congr_right fun _ => and_iff_right rfl

theorem name_injective : Function.Injective name := by
  intro m n h
  have htext := congrArg String.toList h
  rw [toList_name, toList_name] at htext
  obtain ⟨hyear, hnumber⟩ := (spelling_inj (not_mem_paddedInt rfl (by decide) 4 m.year)
    (not_mem_padded rfl 2 m.number)).mp htext
  cases m
  cases n
  exact congrArg₂ _ (paddedInt_injective 4 hyear) (padded_injective 2 hnumber)

theorem plus_mem_spelling_iff {year number : List Char} :
    '+' ∈ stem ++ year ++ '_' :: number ↔ '+' ∈ year ∨ '+' ∈ number := by
  have hstem : '+' ∉ stem := by decide
  simp [hstem]

/-- **All spellings but the name bear a sign that says nothing.** -/
theorem eq_name_iff {t : String} {m : Month} (h : ofName? t = some m) :
    t = m.name ↔ ¬ m.SignedIdly t := by
  obtain ⟨-, ht⟩ := ofName?_eq_some_iff.mp h
  obtain ⟨year, hyear, number, hnumber, ht⟩ := mem_spellings.mp ht
  have hparts : t = m.name ↔ year = paddedInt 4 m.year ∧ number = padded 2 m.number := by
    rw [← String.toList_inj, ht, toList_name]
    exact spelling_inj (not_mem_intSpellings rfl (by decide) (by decide) hyear)
      (not_mem_natSpellings rfl (by decide) hnumber)
  have hplus : '+' ∈ t.toList ↔ '+' ∈ year ∨ '+' ∈ number := by
    rw [ht, plus_mem_spelling_iff]
  have hminus : '-' ∈ t.toList ↔ '-' ∈ year := by
    have hstem : '-' ∉ stem := by decide
    simp [ht, hstem, not_mem_natSpellings (c := '-') rfl (by decide) hnumber]
  rw [hparts, eq_paddedInt_iff hyear, eq_padded_iff hnumber, SignedIdly, hplus, hminus, ← not_or,
    or_right_comm]

theorem eq_of_ofName?_name {k m : Month} (h : ofName? k.name = some m) : m = k := by
  obtain ⟨-, ht⟩ := ofName?_eq_some_iff.mp h
  obtain ⟨year, hyear, number, hnumber, ht⟩ := mem_spellings.mp ht
  rw [toList_name, spelling_inj (not_mem_paddedInt rfl (by decide) 4 k.year)
    (not_mem_padded rfl 2 k.number)] at ht
  obtain ⟨rfl, rfl⟩ := ht
  have hy : int? (paddedInt 4 k.year) = some m.year :=
    int?_eq_some_iff.mpr ((length_of_mem_intSpellings hyear).symm ▸ hyear)
  have hn : nat? (padded 2 k.number) = some m.number :=
    nat?_eq_some_iff.mpr ((mem_natSpellings.mp hnumber).2.symm ▸ hnumber)
  rw [int?_paddedInt, Option.some.injEq] at hy
  rw [nat?_padded, Option.some.injEq] at hn
  cases k
  cases m
  exact congrArg₂ _ hy.symm hn.symm

theorem exists_intSpellings_four_iff {year : Int} :
    (∃ cs, cs ∈ intSpellings 4 year) ↔ -999 ≤ year ∧ year ≤ 9999 := by
  rw [← length_paddedInt_four, ← paddedInt_mem_intSpellings_iff]
  refine ⟨?_, fun h => ⟨_, h⟩⟩
  rintro ⟨cs, hcs⟩
  rw [paddedInt_mem_intSpellings_iff, length_paddedInt_four]
  rcases mem_intSpellings.mp hcs with ⟨hi, hcs⟩ | ⟨hi, rfl, hlen⟩
  · obtain ⟨rfl | rfl, hlen⟩ := mem_natSpellings.mp hcs
    · have := (length_padded_eq_iff 3 _).mp hlen
      omega
    · have := (length_padded_eq_iff 2 year.natAbs).mp (by simpa using hlen)
      omega
  · have := (length_padded_eq_iff 2 year.natAbs).mp (by simpa using hlen)
    omega

theorem ofName?_name_of_spelled {t : String} {m : Month} (h : ofName? t = some m) :
    ofName? m.name = some m := by
  obtain ⟨hm, ht⟩ := ofName?_eq_some_iff.mp h
  obtain ⟨year, hyear, -⟩ := mem_spellings.mp ht
  rw [ofName?_name hm, if_pos (exists_intSpellings_four_iff.mp ⟨year, hyear⟩)]

/-- **The months that have other spellings than their names**: those of the years that leave a place
for a sign, and those whose numbers do. -/
theorem exists_spelling_ne_name_iff {m : Month} :
    (∃ t, ofName? t = some m ∧ t ≠ m.name) ↔
      m.Valid ∧ (0 ≤ m.year ∧ m.year ≤ 999 ∨
        (-999 ≤ m.year ∧ m.year ≤ 9999) ∧ m.number ≤ 9) := by
  have hyears : (∃ cs ∈ intSpellings 4 m.year, '+' ∈ cs) ↔ 0 ≤ m.year ∧ m.year ≤ 999 := by
    rw [exists_plus_intSpellings_iff (k := 2)]
    omega
  have hnumbers : (∃ cs ∈ natSpellings 2 m.number, '+' ∈ cs) ↔ m.number ≤ 9 := by
    rw [exists_plus_natSpellings_iff (k := 0)]
    omega
  constructor
  · rintro ⟨t, ht, hne⟩
    have hidle : m.SignedIdly t := by_contra fun h => hne ((eq_name_iff ht).mpr h)
    obtain ⟨hm, hspelled⟩ := ofName?_eq_some_iff.mp ht
    obtain ⟨year, hyear, number, hnumber, hcut⟩ := mem_spellings.mp hspelled
    refine ⟨hm, ?_⟩
    rcases hidle with hplus | ⟨hzero, -⟩
    · rw [hcut, plus_mem_spelling_iff] at hplus
      rcases hplus with hplus | hplus
      · exact .inl (hyears.mp ⟨year, hyear, hplus⟩)
      · exact .inr ⟨exists_intSpellings_four_iff.mp ⟨year, hyear⟩,
          hnumbers.mp ⟨number, hnumber, hplus⟩⟩
    · exact .inl (by omega)
  · rintro ⟨hm, h⟩
    have hspelled : ∃ year ∈ intSpellings 4 m.year, ∃ number ∈ natSpellings 2 m.number,
        '+' ∈ year ∨ '+' ∈ number := by
      rcases h with hyear | ⟨hyear, hnumber⟩
      · obtain ⟨year, hyear, hplus⟩ := hyears.mpr hyear
        have hfits : m.number < 10 ^ 2 := by have := hm.2; omega
        exact ⟨year, hyear, _, padded_mem_natSpellings_iff.mpr hfits, .inl hplus⟩
      · obtain ⟨year, hyear⟩ := exists_intSpellings_four_iff.mpr hyear
        obtain ⟨number, hnumber, hplus⟩ := hnumbers.mpr hnumber
        exact ⟨year, hyear, number, hnumber, .inr hplus⟩
    obtain ⟨year, hyear, number, hnumber, hplus⟩ := hspelled
    have ht : ofName? (String.ofList (stem ++ year ++ '_' :: number)) = some m :=
      ofName?_eq_some_iff.mpr ⟨hm, mem_spellings.mpr
        ⟨year, hyear, number, hnumber, String.toList_ofList⟩⟩
    refine ⟨_, ht, fun hname => (eq_name_iff ht).mp hname (.inl ?_)⟩
    rw [String.toList_ofList, plus_mem_spelling_iff]
    exact hplus

/-! ### The months of tables with any names -/

theorem beginsLike_of_dropStem : ∀ {stem text rest : List Char},
    dropStem stem text = some rest → beginsLike stem text = true
  | [], _, _, _ => rfl
  | _ :: _, [], _, h => by cases h
  | s :: stem, c :: text, rest, h => by
    rw [dropStem] at h
    split at h
    · next hc => rw [beginsLike, hc, beginsLike_of_dropStem h]; simp
    · cases h

theorem ofTables_perm (names : List String) : (ofTables names).Perm (names.filterMap ofName?) := by
  refine (List.mergeSort_perm _ _).trans ?_
  rw [List.filterMap_filter]
  refine List.Perm.of_eq (List.filterMap_congr fun t _ => ?_)
  split
  · rfl
  · next hlike =>
    cases ht : ofName? t with
    | none => rfl
    | some m =>
      simp only [ofName?, ofNameChars?, Option.bind_eq_bind, Option.bind_eq_some_iff] at ht
      obtain ⟨rest, hrest, -⟩ := ht
      exact absurd (beginsLike_of_dropStem hrest) hlike

theorem mem_ofTables {names : List String} {m : Month} :
    m ∈ ofTables names ↔ ∃ t ∈ names, ofName? t = some m := by
  rw [(ofTables_perm names).mem_iff, List.mem_filterMap]

theorem count_ofTables (names : List String) (m : Month) :
    (ofTables names).count m = names.countP fun t => ofName? t == some m := by
  rw [(ofTables_perm names).count_eq, List.count_filterMap]

theorem ofTables_pairwise (names : List String) :
    (ofTables names).Pairwise fun m n => ¬ n < m := by
  have hnot : ∀ m n : Month, (!decide (n < m)) = true ↔ ¬ n < m := fun m n => by simp
  refine (List.pairwise_mergeSort (fun a b c hab hbc => ?_) (fun a b => ?_) _).imp fun h =>
    (hnot _ _).mp h
  · rw [hnot] at hab hbc ⊢
    intro hca
    rcases lt_trichotomy a b with h | rfl | h
    · exact hbc (lt_trans hca h)
    · exact hbc hca
    · exact hab h
  · rw [Bool.or_eq_true, hnot, hnot]
    by_contra h
    rw [not_or, not_not, not_not] at h
    exact lt_irrefl a (lt_trans h.2 h.1)

theorem eq_of_nodup_ofTables {names : List String} (h : (ofTables names).Nodup) {t t' : String}
    (ht : t ∈ names) (ht' : t' ∈ names) {m : Month} (hm : ofName? t = some m)
    (hm' : ofName? t' = some m) : t = t' := by
  rw [(ofTables_perm names).nodup_iff] at h
  by_contra hne
  have hapart : Std.Symm fun s s' : String => ∀ k, ofName? s = some k → ∀ k', ofName? s' = some k' →
      k ≠ k' := ⟨fun _ _ h k hk k' hk' heq => h k' hk' k hk heq.symm⟩
  exact (List.pairwise_filterMap.mp h).forall ht ht' hne m hm m hm' rfl

/-- **Tables whose names bear no idle signs are listed once each, and only they are.** -/
theorem listed_once_iff {names : List String} (hnames : names.Nodup) :
    ((ofTables names).Nodup ∧ ∀ m ∈ ofTables names, m.name ∈ names) ↔
      ∀ t ∈ names, ∀ m, ofName? t = some m → ¬ m.SignedIdly t := by
  constructor
  · rintro ⟨honce, htable⟩ t ht m hm
    have hname : m.name ∈ names := htable m (mem_ofTables.mpr ⟨t, ht, hm⟩)
    exact (eq_name_iff hm).mp
      (eq_of_nodup_ofTables honce ht hname hm (ofName?_name_of_spelled hm))
  · intro h
    have hname : ∀ t ∈ names, ∀ m, ofName? t = some m → t = m.name := fun t ht m hm =>
      (eq_name_iff hm).mpr (h t ht m hm)
    constructor
    · rw [(ofTables_perm names).nodup_iff]
      refine List.pairwise_filterMap.mpr (hnames.imp_of_mem fun {t t'} ht ht' hne m hm m' hm' => ?_)
      rintro rfl
      exact hne ((hname t ht m hm).trans (hname t' ht' m hm').symm)
    · intro m hm
      obtain ⟨t, ht, hm⟩ := mem_ofTables.mp hm
      exact hname t ht m hm ▸ ht

end Month

/-- **The months that a store lists** are those of its tables. -/
theorem Store.ofTables_eq_listed {α : Type} (s : Store α)
    (h : (s.months.keys.map Month.name).Nodup) :
    Month.ofTables (s.months.keys.map Month.name) = s.listed := by
  have hmem : ∀ m, m ∈ Month.ofTables (s.months.keys.map Month.name) ↔ m ∈ s.listed := fun m => by
    rw [Month.mem_ofTables, Store.listed, Ascending.mem_ofList, List.mem_filterMap]
    simp
  have hlisted : s.listed.Nodup := by
    refine s.listed_pairwise.imp ?_
    rintro m _ hlt rfl
    exact Month.lt_irrefl m hlt
  have honce : (Month.ofTables (s.months.keys.map Month.name)).Nodup := by
    refine ((Month.listed_once_iff h).mpr fun t ht m hm => ?_).1
    obtain ⟨k, -, rfl⟩ := List.mem_map.mp ht
    obtain rfl := Month.eq_of_ofName?_name hm
    exact (Month.eq_name_iff hm).mp rfl
  refine List.Perm.eq_of_pairwise (fun m n _ _ hmn hnm => ?_) (Month.ofTables_pairwise _)
    (s.listed_pairwise.imp fun {m n} hlt hgt => Month.lt_irrefl m (Month.lt_trans hlt hgt))
    ((List.perm_ext_iff_of_nodup honce hlisted).mpr hmem)
  rcases Month.lt_trichotomy m n with hlt | heq | hgt
  · exact absurd hlt hnm
  · exact heq
  · exact absurd hgt hmn

namespace Month

/-! ### Names and spellings -/

/-- **A name stands for one month**, and it is read as that month if its year has four characters,
and else as none. -/
theorem name_identifies :
    Function.Injective name ∧
    ∀ m : Month, m.Valid →
      (ofName? m.name = some m ↔ -999 ≤ m.year ∧ m.year ≤ 9999) ∧
      (ofName? m.name = none ↔ ¬ (-999 ≤ m.year ∧ m.year ≤ 9999)) := by
  refine ⟨name_injective, fun m hm => ?_⟩
  rw [ofName?_name hm]
  split
  · next hy => exact ⟨iff_of_true rfl hy, iff_of_false nofun (not_not.mpr hy)⟩
  · next hy => exact ⟨iff_of_false nofun hy, iff_of_true rfl hy⟩

/-- The last month before the common era that can be read, and one of a year with five digits. -/
theorem name_identifies_farYears :
    ofName? (⟨-999, 12⟩ : Month).name = some ⟨-999, 12⟩ ∧
      ofName? (⟨-1000, 12⟩ : Month).name = none ∧
      ofName? (⟨10000, 1⟩ : Month).name = none ∧
      (⟨10000, 1⟩ : Month).name ≠ (⟨1000, 1⟩ : Month).name :=
  ⟨(name_identifies.2 _ (by decide)).1.mpr (by decide),
    (name_identifies.2 _ (by decide)).2.mpr (by decide),
    (name_identifies.2 _ (by decide)).2.mpr (by decide),
    fun h => absurd (name_identifies.1 h) (by decide)⟩

/-- **The spellings of months.** A text is read as a month if it is one of the spellings of it: a
year in four characters and a number in two, either of which may bear a sign. It is the name of the
month unless it bears a sign that says nothing, and every month with a place left for a sign has
spellings other than its name. A database lists a month once for each table with a spelling of it;
so it lists no month twice, and none without its own table, if and only if no name among those of
its tables is read in spite of such a sign. -/
theorem spellings_listed (t : String) (m : Month) {names : List String} (hnames : names.Nodup) :
    (ofName? t = some m ↔ m.Valid ∧ t.toList ∈ m.spellings) ∧
    (ofName? t = some m → (t = m.name ↔ ¬ m.SignedIdly t)) ∧
    ((∃ t, ofName? t = some m ∧ t ≠ m.name) ↔
      m.Valid ∧ (0 ≤ m.year ∧ m.year ≤ 999 ∨
        (-999 ≤ m.year ∧ m.year ≤ 9999) ∧ m.number ≤ 9)) ∧
    (ofTables names).count m = (names.countP fun t => ofName? t == some m) ∧
    (((ofTables names).Nodup ∧ ∀ m ∈ ofTables names, m.name ∈ names) ↔
      ∀ t ∈ names, ∀ m, ofName? t = some m → ¬ m.SignedIdly t) :=
  ⟨ofName?_eq_some_iff, eq_name_iff, exists_spelling_ne_name_iff, count_ofTables names m,
    listed_once_iff hnames⟩

/-- A table with a plus sign in its name is taken for that of January 202: on its own it stands in
for a table that is not there, and next to that table the month is listed twice. -/
theorem spellings_listed_plusSign :
    let january : Month := ⟨202, 1⟩
    let signed := "metrics_history_+202_01"
    january.SignedIdly signed ∧ ofName? signed = some january ∧ signed ≠ january.name ∧
      (january ∈ ofTables [signed] ∧ january.name ∉ [signed]) ∧
      (ofTables [january.name, signed]).count january = 2 ∧
      ¬ (ofTables [january.name, signed]).Nodup := by
  intro january signed
  have hidle : january.SignedIdly signed := by decide
  have hread : ofName? signed = some january := by decide
  have hne : signed ≠ january.name := fun h =>
    ((spellings_listed signed january List.nodup_nil).2.1 hread).mp h hidle
  have hname : ofName? january.name = some january := by
    rw [ofName?_name (by decide), if_pos (by decide)]
  have hpair : [january.name, signed].Nodup := by simpa using hne.symm
  have htwice : (ofTables [january.name, signed]).count january = 2 := by
    rw [(spellings_listed signed january hpair).2.2.2.1]
    simp [hname, hread]
  refine ⟨hidle, hread, hne, ⟨mem_ofTables.mpr ⟨signed, List.mem_singleton_self _, hread⟩, ?_⟩,
    htwice, fun honce => ?_⟩
  · exact fun h => hne (List.mem_singleton.mp h).symm
  · have := List.nodup_iff_count_le_one.mp honce january
    omega

end Month
end FleetTelemetry
