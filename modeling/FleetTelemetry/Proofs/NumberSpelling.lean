/-
# Numbers in so many characters

A run of digits is determined by its length and its value
(`Digits.eq_padded_of_value?`). A number in so many characters is therefore its
digits with zeros in front, or with a sign in the place of one of them; what is
read as a number are these spellings of it (`Digits.nat?_eq_some_iff`,
`Digits.int?_eq_some_iff`). Of the spellings one bears no sign that says nothing
(`Digits.eq_padded_iff`, `Digits.eq_paddedInt_iff`).

Key definitions: `Digits.natSpellings`, `Digits.intSpellings`.
Key theorems: `Digits.eq_padded_of_value?`, `Digits.nat?_eq_some_iff`,
`Digits.int?_eq_some_iff`, `Digits.eq_padded_iff`, `Digits.eq_paddedInt_iff`.
-/
import FleetTelemetry.Proofs.MonthName
import Mathlib.Data.List.Induction

namespace FleetTelemetry

namespace Digits

theorem digitIn?_ten_eq_some {c : Char} {d : Nat} (h : digitIn? 10 c = some d) :
    c = digitChar d ∧ d < 10 := by
  obtain ⟨hd, hlt⟩ := Option.filter_eq_some_iff.mp h
  have hlt : d < 10 := of_decide_eq_true hlt
  refine ⟨?_, hlt⟩
  unfold digit? at hd
  split at hd
  · next hc =>
    have hlow : '0'.toNat ≤ c.toNat := Char.le_def.mp hc.1
    obtain rfl := Option.some.inj hd
    rw [digitChar, Nat.mod_eq_of_lt hlt, Nat.add_sub_cancel' hlow, Char.ofNat_toNat]
  · split at hd
    · have := Option.some.inj hd
      omega
    · split at hd
      · have := Option.some.inj hd
        omega
      · cases hd

/-- The last digit of a padded number stands behind a tenth of it. -/
theorem padded_succ {width : Nat} (hw : 1 ≤ width) (n : Nat) :
    padded (width + 1) n = padded width (n / 10) ++ [digitChar n] := by
  have hdecimal : decimal n =
      if n < 10 then [digitChar n] else decimal (n / 10) ++ [digitChar n] := by
    rw [decimal]
  by_cases hn : n < 10
  · have htenth : n / 10 = 0 := by omega
    have hzero : decimal 0 = ['0'] := by rw [decimal]; rfl
    obtain ⟨w, rfl⟩ : ∃ w, width = w + 1 := ⟨width - 1, by omega⟩
    rw [padded, padded, hdecimal, if_pos hn, htenth, hzero]
    simp [List.replicate_succ']
  · rw [padded, padded, hdecimal, if_neg hn]
    simp

/-- **A run of digits is determined by its length and its value.** -/
theorem eq_padded_of_value? {cs : List Char} {n : Nat} (h : value? 10 cs = some n) :
    cs = padded cs.length n := by
  have hne : cs ≠ [] := by rintro rfl; cases h
  have hfrom : valueFrom? 10 0 cs = some n := by
    cases cs with
    | nil => exact absurd rfl hne
    | cons c cs => exact h
  clear h
  -- From the end, where the digit of least weight stands.
  induction cs using List.reverseRecOn generalizing n with
  | nil => exact absurd rfl hne
  | append_singleton ds c ih =>
    rw [valueFrom?_append, Option.bind_eq_some_iff] at hfrom
    obtain ⟨v, hv, hc⟩ := hfrom
    simp only [valueFrom?, Option.bind_eq_some_iff, Option.some.injEq] at hc
    obtain ⟨d, hd, rfl⟩ := hc
    obtain ⟨rfl, hlt⟩ := digitIn?_ten_eq_some hd
    have hlast : digitChar (v * 10 + d) = digitChar d := by
      rw [digitChar, digitChar, Nat.mul_add_mod']
    rw [List.length_append, List.length_singleton]
    by_cases hds : ds = []
    · subst hds
      obtain rfl : 0 = v := Option.some.inj hv
      rw [Nat.zero_mul, Nat.zero_add, padded, decimal, if_pos hlt]
      rfl
    · have htenth : (v * 10 + d) / 10 = v := by omega
      rw [padded_succ (List.length_pos_iff.mpr hds), htenth, ← ih hds hv, hlast]

/-- The spellings of a number in so many characters: zeros in front, and a plus sign or none. -/
def natSpellings (width n : Nat) : List (List Char) :=
  [padded width n, '+' :: padded (width - 1) n].filter fun cs => cs.length = width

/-- The spellings of an integer in so many characters; zero may have either sign. -/
def intSpellings (width : Nat) (i : Int) : List (List Char) :=
  (if 0 ≤ i then natSpellings width i.natAbs else []) ++
    (if i ≤ 0 then ['-' :: padded (width - 1) i.natAbs] else []).filter fun cs => cs.length = width

theorem mem_natSpellings {width n : Nat} {cs : List Char} :
    cs ∈ natSpellings width n ↔
      (cs = padded width n ∨ cs = '+' :: padded (width - 1) n) ∧ cs.length = width := by
  simp [natSpellings]

theorem mem_intSpellings {width : Nat} {i : Int} {cs : List Char} :
    cs ∈ intSpellings width i ↔
      0 ≤ i ∧ cs ∈ natSpellings width i.natAbs ∨
        i ≤ 0 ∧ cs = '-' :: padded (width - 1) i.natAbs ∧ cs.length = width := by
  rw [intSpellings, List.mem_append, List.mem_filter, decide_eq_true_eq]
  refine or_congr ?_ ?_
  · split
    · next hi => simp [hi]
    · next hi => simp [hi]
  · split
    · next hi => simp [hi]
    · next hi => simp [hi]

theorem nat?_eq_some_iff {cs : List Char} {n : Nat} :
    nat? cs = some n ↔ cs ∈ natSpellings cs.length n := by
  have hplus : ∀ w, '+' ∉ padded w n := fun w => not_mem_padded rfl w n
  rw [mem_natSpellings]
  unfold nat?
  split
  · next cs =>
    rw [List.length_cons, Nat.add_sub_cancel]
    constructor
    · exact fun h => ⟨.inr (congrArg _ (eq_padded_of_value? h)), rfl⟩
    · rintro ⟨h | h, -⟩
      · exact absurd (h ▸ List.mem_cons_self) (hplus _)
      · rw [(List.cons.inj h).2]
        exact value?_padded _ n
  · next hsign =>
    constructor
    · exact fun h => ⟨.inl (eq_padded_of_value? h), rfl⟩
    · rintro ⟨h | h, -⟩
      · rw [h]
        exact value?_padded _ n
      · exact absurd h (hsign _)

theorem int?_eq_some_iff {cs : List Char} {i : Int} :
    int? cs = some i ↔ cs ∈ intSpellings cs.length i := by
  have hminus : ∀ w n, '-' ∉ padded w n := fun w n => not_mem_padded rfl w n
  rw [mem_intSpellings]
  unfold int?
  split
  · next cs =>
    rw [List.length_cons, Nat.add_sub_cancel, Option.map_eq_some_iff]
    constructor
    · rintro ⟨n, hn, rfl⟩
      refine .inr ⟨by simp, ?_, rfl⟩
      simpa using eq_padded_of_value? hn
    · rintro (⟨-, h⟩ | ⟨hi, h, -⟩)
      · rcases (mem_natSpellings.mp h).1 with h | h
        · exact absurd (h ▸ List.mem_cons_self) (hminus _ _)
        · cases h
      · refine ⟨i.natAbs, ?_, ?_⟩
        · rw [(List.cons.inj h).2]
          exact value?_padded _ _
        · show -(i.natAbs : Int) = i
          omega
  · next hsign =>
    rw [Option.map_eq_some_iff]
    constructor
    · rintro ⟨n, hn, rfl⟩
      exact .inl ⟨Int.natCast_nonneg n, nat?_eq_some_iff.mp hn⟩
    · rintro (⟨hi, h⟩ | ⟨-, h, -⟩)
      · exact ⟨i.natAbs, nat?_eq_some_iff.mpr h, Int.natAbs_of_nonneg hi⟩
      · exact absurd h (hsign _)

theorem paddedInt_eq (width : Nat) (i : Int) :
    paddedInt width i =
      if 0 ≤ i then padded width i.natAbs else '-' :: padded (width - 1) i.natAbs := by
  cases i with
  | ofNat n => rfl
  | negSucc n => rfl

theorem length_of_mem_intSpellings {width : Nat} {i : Int} {cs : List Char}
    (h : cs ∈ intSpellings width i) : cs.length = width := by
  rcases mem_intSpellings.mp h with ⟨-, h⟩ | ⟨-, -, h⟩
  · exact (mem_natSpellings.mp h).2
  · exact h

/-- A number fits so many places. -/
theorem length_padded_eq_iff (k n : Nat) :
    (padded (k + 1) n).length = k + 1 ↔ n < 10 ^ (k + 1) := by
  rw [← length_decimal_le_iff, length_padded]
  omega

theorem padded_mem_natSpellings_iff {k n : Nat} :
    padded (k + 1) n ∈ natSpellings (k + 1) n ↔ n < 10 ^ (k + 1) := by
  rw [mem_natSpellings, length_padded_eq_iff]
  exact and_iff_right (.inl rfl)

/-- A plus sign takes one of the places. -/
theorem exists_plus_natSpellings_iff {k n : Nat} :
    (∃ cs ∈ natSpellings (k + 2) n, '+' ∈ cs) ↔ n < 10 ^ (k + 1) := by
  rw [← length_padded_eq_iff]
  constructor
  · rintro ⟨cs, hcs, hplus⟩
    obtain ⟨rfl | rfl, hlen⟩ := mem_natSpellings.mp hcs
    · exact absurd hplus (not_mem_padded rfl _ n)
    · simpa using hlen
  · intro hlen
    exact ⟨_, mem_natSpellings.mpr ⟨.inr rfl, by simpa using hlen⟩, List.mem_cons_self⟩

theorem exists_plus_intSpellings_iff {k : Nat} {i : Int} :
    (∃ cs ∈ intSpellings (k + 2) i, '+' ∈ cs) ↔ 0 ≤ i ∧ i.natAbs < 10 ^ (k + 1) := by
  rw [← exists_plus_natSpellings_iff]
  constructor
  · rintro ⟨cs, hcs, hplus⟩
    rcases mem_intSpellings.mp hcs with ⟨hi, hcs⟩ | ⟨-, rfl, -⟩
    · exact ⟨hi, cs, hcs, hplus⟩
    · have hpadded : '+' ∉ padded (k + 2 - 1) i.natAbs := not_mem_padded rfl _ _
      exact absurd ((List.mem_cons.mp hplus).resolve_left (by decide)) hpadded
  · rintro ⟨hi, cs, hcs, hplus⟩
    exact ⟨cs, mem_intSpellings.mpr (.inl ⟨hi, hcs⟩), hplus⟩

theorem not_mem_natSpellings {c : Char} (hc : digitIn? 10 c = none) (hp : c ≠ '+')
    {width n : Nat} {cs : List Char} (h : cs ∈ natSpellings width n) : c ∉ cs := by
  rcases (mem_natSpellings.mp h).1 with rfl | rfl
  · exact not_mem_padded hc width n
  · simpa [hp] using not_mem_padded hc (width - 1) n

theorem not_mem_intSpellings {c : Char} (hc : digitIn? 10 c = none) (hp : c ≠ '+') (hm : c ≠ '-')
    {width : Nat} {i : Int} {cs : List Char} (h : cs ∈ intSpellings width i) : c ∉ cs := by
  rcases mem_intSpellings.mp h with ⟨-, h⟩ | ⟨-, rfl, -⟩
  · exact not_mem_natSpellings hc hp h
  · simpa [hm] using not_mem_padded hc (width - 1) i.natAbs

/-- Of the spellings of a number the padded one has no plus sign. -/
theorem eq_padded_iff {width n : Nat} {cs : List Char} (h : cs ∈ natSpellings width n) :
    cs = padded width n ↔ '+' ∉ cs := by
  constructor
  · rintro rfl
    exact not_mem_padded rfl width n
  · intro hplus
    refine (mem_natSpellings.mp h).1.resolve_right ?_
    rintro rfl
    exact hplus List.mem_cons_self

theorem paddedInt_mem_intSpellings_iff {width : Nat} {i : Int} :
    paddedInt width i ∈ intSpellings width i ↔ (paddedInt width i).length = width := by
  refine ⟨length_of_mem_intSpellings, fun h => ?_⟩
  have := int?_eq_some_iff.mp (int?_paddedInt width i)
  rwa [h] at this

/-- Of the spellings of an integer the padded one has no sign that could be left out. -/
theorem eq_paddedInt_iff {width : Nat} {i : Int} {cs : List Char} (h : cs ∈ intSpellings width i) :
    cs = paddedInt width i ↔ ¬ ('+' ∈ cs ∨ i = 0 ∧ '-' ∈ cs) := by
  have hsign : ∀ c : Char, digitIn? 10 c = none → ∀ w, c ∉ padded w i.natAbs :=
    fun c hc w => not_mem_padded hc w _
  rw [paddedInt_eq]
  rcases mem_intSpellings.mp h with ⟨hi, h⟩ | ⟨hi, rfl, -⟩
  · have hminus : '-' ∉ cs := by
      rcases (mem_natSpellings.mp h).1 with rfl | rfl
      · exact hsign '-' rfl _
      · simpa using hsign '-' rfl _
    rw [if_pos hi, eq_padded_iff h]
    simp [hminus]
  · have hplus : '+' ∉ '-' :: padded (width - 1) i.natAbs := by simpa using hsign '+' rfl _
    split
    · next hpos =>
      have hzero : i = 0 := by omega
      have hne : '-' :: padded (width - 1) i.natAbs ≠ padded width i.natAbs := fun heq =>
        hsign '-' rfl width (heq ▸ List.mem_cons_self)
      exact iff_of_false hne fun hidle => hidle (.inr ⟨hzero, List.mem_cons_self⟩)
    · next hneg =>
      have hzero : i ≠ 0 := by omega
      simp [hplus, hzero]

theorem padded_injective (width : Nat) : Function.Injective (padded width) := fun m n h =>
  Option.some.inj ((value?_padded width m).symm.trans (h ▸ value?_padded width n))

theorem paddedInt_injective (width : Nat) : Function.Injective (paddedInt width) := fun i j h =>
  Option.some.inj ((int?_paddedInt width i).symm.trans (h ▸ int?_paddedInt width j))

end Digits
end FleetTelemetry
