/-
# The numbers of a text

Whatever a text says, the integers that are read from it fit a word and its
other numbers are finite (`Json.inRange_ofText`): a literal beyond all doubles
denotes no value. Of such values more is true than of all: an integer among them
is a finite double (`Double.isFinite_ofInt`).

Key definitions: `Json.InRange`.
Key theorems: `Json.inRange_ofText`.
-/
import FleetTelemetry.Proofs.FiniteDoubles
import FleetTelemetry.Text.Json

namespace FleetTelemetry
namespace Json

/-- The integers in a value are signed or unsigned words, and its other numbers are finite. -/
inductive InRange : Json → Prop where
  | null : InRange .null
  | bool (b : Bool) : InRange (.bool b)
  | int {n : Int} (hlow : Word.minSigned64 ≤ n) (hhigh : n < Word.size64) : InRange (.int n)
  | float {x : Float} (hx : x.isFinite = true) : InRange (.float x)
  | str (s : String) : InRange (.str s)
  | arr {items : List Json} (h : ∀ json ∈ items, InRange json) : InRange (.arr items)
  | obj {members : List (Option String × Json)} (h : ∀ m ∈ members, InRange m.2) :
      InRange (.obj members)
  | unreadable : InRange .unreadable
  | torn : InRange .torn

/-! ### Tokens -/

theorem inRange_realOf (negative : Bool) (digits : List Char) (exponent : Int) :
    (realOf negative digits exponent).InRange := by
  unfold realOf
  split
  · next h => exact .float (Double.isFinite_of_toFloat? h)
  · exact .unreadable

theorem inRange_integerOf (negative : Bool) (digits : List Char) :
    (integerOf negative digits).InRange := by
  have hlow : Word.minSigned64 ≤ 0 := by decide
  have hhigh : (0 : Int) < Word.size64 := by decide
  unfold integerOf
  generalize (Digits.value? 10 digits).getD 0 = m
  simp only [Int.ofNat_eq_natCast]
  split
  · split
    · next h => exact .int h.2 (by omega)
    · exact inRange_realOf ..
  · split
    · exact .int (by omega) (by omega)
    · exact inRange_realOf ..

/-- What a token is made of decides whether it is in range. -/
theorem inRange_of_map {α : Type} {read : Option α} {f : α → Json × List Char} {json : Json}
    {rest : List Char} (hf : ∀ a, (f a).1.InRange) (h : read.map f = some (json, rest)) :
    json.InRange := by
  obtain ⟨a, -, ha⟩ := Option.map_eq_some_iff.mp h
  have hjson := hf a
  rw [ha] at hjson
  exact hjson

theorem inRange_readNumber {negative : Bool} {text : List Char} {json : Json} {rest : List Char}
    (h : readNumber negative text = some (json, rest)) : json.InRange := by
  have hsome : ∀ {json' : Json} {rest' : List Char}, json'.InRange →
      some (json', rest') = some (json, rest) → json.InRange :=
    fun hjson heq => (Prod.mk.inj (Option.some.inj heq)).1 ▸ hjson
  unfold readNumber at h
  simp only at h
  split at h
  · cases h
  split at h
  · split at h
    · cases h
    split at h
    · split at h
      · exact inRange_of_map (fun _ => inRange_realOf ..) h
      · exact hsome (inRange_realOf ..) h
    · exact hsome (inRange_realOf ..) h
  · split at h
    · exact inRange_of_map (fun _ => inRange_realOf ..) h
    · exact hsome (inRange_integerOf ..) h
  · exact hsome (inRange_integerOf ..) h

theorem inRange_token {read : Option (Json × List Char)}
    (h : ∀ json rest, read = some (json, rest) → json.InRange) : (token read).1.InRange := by
  unfold token
  split
  · exact h _ _ rfl
  · exact .torn

theorem inRange_token_map {α : Type} {read : Option α} {f : α → Json × List Char}
    (hf : ∀ a, (f a).1.InRange) : (token (read.map f)).1.InRange :=
  inRange_token fun _ _ => inRange_of_map hf

/-! ### Values -/

/-- What the three readers give with some fuel is in range. -/
structure ReadsInRange (fuel : Nat) : Prop where
  value : ∀ text, (readValue fuel text).1.InRange
  items : ∀ text, ∀ json ∈ (readItems fuel text).1, json.InRange
  members : ∀ text, ∀ m ∈ (readMembers fuel text).1, m.2.InRange

theorem readsInRange_zero : ReadsInRange 0 where
  value _ := .torn
  items _ _ h := List.mem_singleton.mp h ▸ .torn
  members _ _ h := List.mem_singleton.mp h ▸ .torn

variable {fuel : Nat}

theorem ReadsInRange.value_succ (ih : ReadsInRange fuel) (text : List Char) :
    (readValue (fuel + 1) text).1.InRange := by
  unfold readValue
  split
  · exact inRange_token_map fun _ => .null
  · exact inRange_token_map fun _ => .bool true
  · exact inRange_token_map fun _ => .bool false
  · refine inRange_token_map fun a => ?_
    dsimp only
    split
    · exact .str _
    · exact .unreadable
  · exact inRange_token fun _ _ => inRange_readNumber
  · split
    · exact .arr nofun
    · exact .arr (ih.items _)
  · split
    · exact .obj nofun
    · exact .obj (ih.members _)
  · exact inRange_token fun _ _ => inRange_readNumber

theorem ReadsInRange.items_succ (ih : ReadsInRange fuel) (text : List Char) :
    ∀ json ∈ (readItems (fuel + 1) text).1, json.InRange := by
  have hvalue := ih.value text
  have htorn : ∀ json ∈ [torn], json.InRange := fun _ h => List.mem_singleton.mp h ▸ .torn
  unfold readItems
  split
  · next heq =>
    rw [heq] at hvalue
    exact List.forall_mem_cons.mpr ⟨hvalue, htorn⟩
  · next heq =>
    rw [heq] at hvalue
    split
    · exact List.forall_mem_cons.mpr ⟨hvalue, nofun⟩
    · exact List.forall_mem_cons.mpr ⟨hvalue, ih.items _⟩
    · exact List.forall_mem_cons.mpr ⟨hvalue, htorn⟩

theorem ReadsInRange.members_succ (ih : ReadsInRange fuel) (text : List Char) :
    ∀ m ∈ (readMembers (fuel + 1) text).1, m.2.InRange := by
  have htorn : ∀ key : Option String, ∀ m ∈ [(key, torn)], m.2.InRange :=
    fun _ _ h => List.mem_singleton.mp h ▸ .torn
  unfold readMembers
  split
  · split
    · exact htorn none
    · split
      · next rest _ =>
        have hvalue := ih.value rest
        split
        · next heq =>
          rw [heq] at hvalue
          exact List.forall_mem_cons.mpr ⟨hvalue, htorn none⟩
        · next heq =>
          rw [heq] at hvalue
          split
          · exact List.forall_mem_cons.mpr ⟨hvalue, nofun⟩
          · exact List.forall_mem_cons.mpr ⟨hvalue, ih.members _⟩
          · exact List.forall_mem_cons.mpr ⟨hvalue, htorn none⟩
      · exact List.forall_mem_cons.mpr ⟨.torn, htorn none⟩
  · exact htorn none

theorem readsInRange : ∀ fuel : Nat, ReadsInRange fuel
  | 0 => readsInRange_zero
  | fuel + 1 =>
    have ih := readsInRange fuel
    ⟨ih.value_succ, ih.items_succ, ih.members_succ⟩

/-- **The value at the front of a text is in range.** -/
theorem inRange_ofText (text : String) : (Document.ofText text).value.InRange := by
  have h := (readsInRange (text.toList.length + 1)).value text.toList
  unfold Document.ofText
  simp only
  split
  · next heq =>
    rw [heq] at h
    exact h
  · next heq =>
    rw [heq] at h
    exact h

end Json
end FleetTelemetry
