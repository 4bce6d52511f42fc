/-
# JSON values as they stand in a text

A text is read from left to right, and the value keeps what a reader of it
could still notice: members in the order of the text with repetitions,
integers apart from other numbers, a complete token that denotes no value
(`unreadable`), and the place where the text stops being JSON (`torn`).
A list or an object that holds a tear ends with one, so whoever walks its
parts meets the tear even after skipping the part that it lies in.

Key definitions: `Json`, `Json.Fault`, `Json.fault`, `Json.Document.ofText`.
-/
import FleetTelemetry.Text.Digits
import FleetTelemetry.Word

namespace FleetTelemetry

/-- A JSON value with the order and the faults of the text it came from. -/
inductive Json where
  | null
  | bool (b : Bool)
  /-- A literal without fraction and exponent between `-2^63` and `2^64 - 1`, other than `-0`. -/
  | int (n : Int)
  /-- Any other number, rounded to the nearest double. -/
  | float (x : Float)
  | str (s : String)
  | arr (items : List Json)
  /-- Members in the order of the text; a key is missing where none can be read. -/
  | obj (members : List (Option String × Json))
  /-- A complete token without a value: a lone surrogate escape, a number beyond all doubles. -/
  | unreadable
  /-- From here on the text is not JSON. -/
  | torn
  deriving Inhabited

namespace Json

/-- Why a value is refused: its shape is wrong, or the text is no JSON. -/
inductive Fault where
  | mismatch
  | malformed
  deriving DecidableEq, Repr

/-- What a reader that wanted another kind of value reports. -/
def fault : Json → Fault
  | .unreadable => .malformed
  | .torn => .malformed
  | _ => .mismatch

/-- An object whose keys are all readable. -/
def ofMembers (members : List (String × Json)) : Json :=
  .obj (members.map fun m => (some m.1, m.2))

/-- The first member under a key. -/
def member? (key : String) : Json → Option Json
  | .obj members => (members.find? fun m => m.1 == some key).map Prod.snd
  | _ => none

/-! ### Tokens

Each reads a token from the front of the text and gives back the rest, or
nothing when the token is torn. -/

/-- Space, tab, line feed and carriage return. -/
def isBlank (c : Char) : Bool :=
  c == ' ' || c == '\t' || c == '\n' || c == '\r'

/-- The text behind a word that has to stand at its front. -/
def expect : List Char → List Char → Option (List Char)
  | [], text => some text
  | _ :: _, [] => none
  | w :: word, c :: text => if w = c then expect word text else none

/-- The character of a surrogate pair. -/
def surrogatePair (high low : Nat) : Char :=
  Char.ofNat (0x10000 + (high - 0xD800) * 0x400 + (low - 0xDC00))

/-- What has been read of a string: its characters in reverse, a high surrogate that waits for its
partner, and whether a surrogate has stood alone. -/
structure StringScan where
  chars : List Char
  high : Option Nat
  lone : Bool

namespace StringScan

/-- Nothing read yet. -/
def empty : StringScan := ⟨[], none, false⟩

/-- A plain character; a surrogate that waited stays alone. -/
def push (s : StringScan) (c : Char) : StringScan :=
  ⟨c :: s.chars, none, s.lone || s.high.isSome⟩

/-- A UTF-16 unit. -/
def unit (s : StringScan) (u : Nat) : StringScan :=
  if 0xD800 ≤ u ∧ u < 0xDC00 then { s with high := some u, lone := s.lone || s.high.isSome }
  else if 0xDC00 ≤ u ∧ u < 0xE000 then
    match s.high with
    | some h => { s with chars := surrogatePair h u :: s.chars, high := none }
    | none => { s with lone := true }
  else s.push (Char.ofNat u)

/-- The string, unless a surrogate stands alone in it. -/
def finish (s : StringScan) : Option String :=
  if s.lone || s.high.isSome then none else some (String.ofList s.chars.reverse)

end StringScan

/-- The character of a one-letter escape. -/
def escape? : Char → Option Char
  | '"' => some '"'
  | '\\' => some '\\'
  | '/' => some '/'
  | 'b' => some '\x08'
  | 'f' => some '\x0c'
  | 'n' => some '\n'
  | 'r' => some '\r'
  | 't' => some '\t'
  | _ => none

/-- A string behind its opening quote. Control characters have to be escaped. -/
def readString (scan : StringScan) : List Char → Option (Option String × List Char)
  | [] => none
  | '"' :: rest => some (scan.finish, rest)
  | '\\' :: 'u' :: a :: b :: c :: d :: rest =>
    match Digits.value? 16 [a, b, c, d] with
    | some u => readString (scan.unit u) rest
    | none => none
  | '\\' :: e :: rest =>
    match escape? e with
    | some c => readString (scan.push c) rest
    | none => none
  | c :: rest => if c.toNat < 0x20 then none else readString (scan.push c) rest

/-- The number `digits * 10 ^ exponent`, with its sign. -/
def realOf (negative : Bool) (digits : List Char) (exponent : Int) : Json :=
  match Decimal.toFloat? negative digits exponent with
  | some x => .float x
  | none => .unreadable

/-- The number that a literal without fraction and exponent denotes. -/
def integerOf (negative : Bool) (digits : List Char) : Json :=
  let m := (Digits.value? 10 digits).getD 0
  if negative then
    if m ≠ 0 ∧ Word.minSigned64 ≤ -Int.ofNat m then .int (-Int.ofNat m) else realOf true digits 0
  else
    if m < Word.size64 then .int (Int.ofNat m) else realOf false digits 0

/-- An exponent behind its `e`: its sign and digits. -/
def readExponent (text : List Char) : Option (Int × List Char) :=
  let (negative, text) := match text with
    | '-' :: rest => (true, rest)
    | '+' :: rest => (false, rest)
    | _ => (false, text)
  (Digits.value? 10 (text.takeWhile Digits.isDecimal)).map fun n =>
    (if negative then -Int.ofNat n else Int.ofNat n, text.dropWhile Digits.isDecimal)

/-- A number behind its sign. Only the number zero begins with a zero. -/
def readNumber (negative : Bool) (text : List Char) : Option (Json × List Char) :=
  let whole := text.takeWhile Digits.isDecimal
  let rest := text.dropWhile Digits.isDecimal
  if whole = [] ∨ (whole.head? = some '0' ∧ whole.length ≠ 1) then none
  else
    match rest with
    | '.' :: rest =>
      let fraction := rest.takeWhile Digits.isDecimal
      let rest := rest.dropWhile Digits.isDecimal
      if fraction = [] then none
      else
        match rest with
        | c :: behind =>
          if c = 'e' ∨ c = 'E' then
            (readExponent behind).map fun (e, rest) =>
              (realOf negative (whole ++ fraction) (e - fraction.length), rest)
          else some (realOf negative (whole ++ fraction) (-fraction.length), rest)
        | [] => some (realOf negative (whole ++ fraction) (-fraction.length), [])
    | c :: behind =>
      if c = 'e' ∨ c = 'E' then
        (readExponent behind).map fun (e, rest) => (realOf negative whole e, rest)
      else some (integerOf negative whole, rest)
    | [] => some (integerOf negative whole, [])

/-- A token, or a tear. -/
def token (read : Option (Json × List Char)) : Json × Option (List Char) :=
  match read with
  | some (value, rest) => (value, some rest)
  | none => (.torn, none)

/-! ### Values

The rest of the text is missing behind a tear. `fuel` bounds the nesting and
the number of parts; the length of the text is enough. -/

mutual

/-- A value, with blanks allowed in front. -/
def readValue : Nat → List Char → Json × Option (List Char)
  | 0, _ => (.torn, none)
  | fuel + 1, text =>
    match text.dropWhile isBlank with
    | 'n' :: rest => token ((expect ['u', 'l', 'l'] rest).map fun rest => (.null, rest))
    | 't' :: rest => token ((expect ['r', 'u', 'e'] rest).map fun rest => (.bool true, rest))
    | 'f' :: rest => token ((expect ['a', 'l', 's', 'e'] rest).map fun rest => (.bool false, rest))
    | '"' :: rest =>
      token ((readString .empty rest).map fun (s, rest) =>
        (match s with
          | some s => .str s
          | none => .unreadable, rest))
    | '-' :: rest => token (readNumber true rest)
    | '[' :: rest =>
      match rest.dropWhile isBlank with
      | ']' :: rest => (.arr [], some rest)
      | rest =>
        let (items, rest) := readItems fuel rest
        (.arr items, rest)
    | '{' :: rest =>
      match rest.dropWhile isBlank with
      | '}' :: rest => (.obj [], some rest)
      | rest =>
        let (members, rest) := readMembers fuel rest
        (.obj members, rest)
    | rest => token (readNumber false rest)

/-- The items of a list up to its bracket. -/
def readItems : Nat → List Char → List Json × Option (List Char)
  | 0, _ => ([.torn], none)
  | fuel + 1, text =>
    match readValue fuel text with
    | (value, none) => ([value, .torn], none)
    | (value, some rest) =>
      match rest.dropWhile isBlank with
      | ']' :: rest => ([value], some rest)
      | ',' :: rest =>
        let (items, rest) := readItems fuel rest
        (value :: items, rest)
      | _ => ([value, .torn], none)

/-- The members of an object up to its brace. -/
def readMembers : Nat → List Char → List (Option String × Json) × Option (List Char)
  | 0, _ => ([(none, .torn)], none)
  | fuel + 1, text =>
    match text.dropWhile isBlank with
    | '"' :: rest =>
      match readString .empty rest with
      | none => ([(none, .torn)], none)
      | some (key, rest) =>
        match rest.dropWhile isBlank with
        | ':' :: rest =>
          match readValue fuel rest with
          | (value, none) => ([(key, value), (none, .torn)], none)
          | (value, some rest) =>
            match rest.dropWhile isBlank with
            | '}' :: rest => ([(key, value)], some rest)
            | ',' :: rest =>
              let (members, rest) := readMembers fuel rest
              ((key, value) :: members, rest)
            | _ => ([(key, value), (none, .torn)], none)
        | _ => ([(key, .torn), (none, .torn)], none)
    | _ => ([(none, .torn)], none)

end

/-- A text read as JSON: the value at its front, and whether only blanks follow that. -/
structure Document where
  value : Json
  whole : Bool

/-- Reads a text. -/
def Document.ofText (text : String) : Document :=
  let chars := text.toList
  match readValue (chars.length + 1) chars with
  | (value, some rest) => ⟨value, rest.all isBlank⟩
  | (value, none) => ⟨value, false⟩

end Json
end FleetTelemetry
