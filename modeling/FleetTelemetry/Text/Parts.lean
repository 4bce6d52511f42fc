/-
# Parts of a text and percent signs

A text is cut at every occurrence of a character, or at the first one. In such a
part, a percent sign with two hexadecimal digits behind it stands for an octet;
anything else stands for itself, a lone percent sign too. The octets have to
spell a text in UTF-8.

Key definitions: `Parts.splitAt`, `Parts.cutAt`, `Percent.decodeOctets`,
`Percent.decode?`, `Percent.decodeForm?`.
Key theorems: `Parts.splitAt_of_not_mem`, `Parts.splitAt_append`.
-/
import FleetTelemetry.Text.Digits

namespace FleetTelemetry
namespace Parts

/-- The parts between the occurrences of a character; there is always one more than those. -/
def splitAt (sep : Char) : List Char → List (List Char)
  | [] => [[]]
  | c :: cs =>
    if c = sep then [] :: splitAt sep cs
    else
      match splitAt sep cs with
      | part :: parts => (c :: part) :: parts
      | [] => [[c]]

theorem splitAt_of_not_mem {sep : Char} : ∀ {part : List Char}, sep ∉ part →
    splitAt sep part = [part]
  | [], _ => rfl
  | c :: part, h => by
    rw [splitAt, if_neg (Ne.symm (List.ne_of_not_mem_cons h)),
      splitAt_of_not_mem (List.not_mem_of_not_mem_cons h)]

theorem splitAt_append {sep : Char} (rest : List Char) : ∀ {part : List Char}, sep ∉ part →
    splitAt sep (part ++ sep :: rest) = part :: splitAt sep rest
  | [], _ => by rw [List.nil_append, splitAt, if_pos rfl]
  | c :: part, h => by
    rw [List.cons_append, splitAt, if_neg (Ne.symm (List.ne_of_not_mem_cons h)),
      splitAt_append rest (List.not_mem_of_not_mem_cons h)]

/-- What stands before and behind the first occurrence of a character; all of it is before if there
is none. -/
def cutAt (sep : Char) (cs : List Char) : List Char × List Char :=
  (cs.takeWhile (· ≠ sep), (cs.dropWhile (· ≠ sep)).drop 1)

end Parts

/-! ### Percent encoding -/

namespace Percent

/-- The value of an octet that is a hexadecimal digit. -/
def hexDigit? (o : UInt8) : Option Nat := Digits.digitIn? 16 (Char.ofNat o.toNat)

/-- The octets that encoded octets stand for. -/
def decodeOctets : List UInt8 → List UInt8
  | [] => []
  | o :: rest =>
    if o = 0x25 then
      match rest with
      | a :: b :: behind =>
        match hexDigit? a, hexDigit? b with
        | some high, some low => UInt8.ofNat (high * 16 + low) :: decodeOctets behind
        | _, _ => o :: decodeOctets (a :: b :: behind)
      | rest => o :: decodeOctets rest
    else o :: decodeOctets rest

/-- The text that an encoded text stands for, if its octets spell one. -/
def decode? (chars : List Char) : Option String :=
  String.fromUTF8? ⟨(decodeOctets (String.ofList chars).toUTF8.data.toList).toArray⟩

/-- As `decode?`, where a plus sign stands for a blank. -/
def decodeForm? (chars : List Char) : Option String :=
  decode? (chars.map fun c => if c = '+' then ' ' else c)

end Percent
end FleetTelemetry
