/-
# Quoted texts of a settings text

Text between double quotes has escapes, text between single quotes has none.
Between three quotes of a kind it may span lines; a line break right behind the
opening quotes does not count, a backslash at the end of a line swallows the
blanks and line breaks up to the next text, and up to two quotes may stand
before the closing ones. A line break is a line feed, with or without a carriage
return before it, and stays as it is written.

Key definitions: `Settings.Quoted.read?`, `Settings.Quoted.readLine?`.
-/
import FleetTelemetry.Text.Digits

namespace FleetTelemetry
namespace Settings
namespace Quoted

/-- Control characters other than the tab cannot stand in a text. -/
def isForbidden (c : Char) : Bool := (c.toNat < 0x20 && c != '\t') || c.toNat == 0x7f

/-- The character with a code, given by a number of hexadecimal digits in front of a text. -/
def coded? (width : Nat) (text : List Char) : Option (Char × List Char) :=
  let digits := text.take width
  if digits.length ≠ width then none
  else
    (Digits.value? 16 digits).bind fun n =>
      if n.isValidChar then some (Char.ofNat n, text.drop width) else none

/-- The character of an escape behind its backslash. -/
def escape? : List Char → Option (Char × List Char)
  | 'b' :: rest => some ('\x08', rest)
  | 't' :: rest => some ('\t', rest)
  | 'n' :: rest => some ('\n', rest)
  | 'f' :: rest => some ('\x0c', rest)
  | 'r' :: rest => some ('\r', rest)
  | 'e' :: rest => some ('\x1b', rest)
  | '"' :: rest => some ('"', rest)
  | '\\' :: rest => some ('\\', rest)
  | 'x' :: rest => coded? 2 rest
  | 'u' :: rest => coded? 4 rest
  | 'U' :: rest => coded? 8 rest
  | _ => none

/-- Whether a text goes on with a line break behind blanks. -/
def endsLine (text : List Char) : Bool :=
  match text.dropWhile fun c => c == ' ' || c == '\t' with
  | '\n' :: _ => true
  | '\r' :: '\n' :: _ => true
  | _ => false

/-- Drops blanks and line breaks. A carriage return without a line feed is neither. -/
def dropBlank : List Char → List Char
  | ' ' :: rest => dropBlank rest
  | '\t' :: rest => dropBlank rest
  | '\n' :: rest => dropBlank rest
  | '\r' :: '\n' :: rest => dropBlank rest
  | text => text

/-- A text on one line up to its quote, with the characters read so far in reverse. Escapes count
only between double quotes. `fuel` is the length of the text. -/
def scanLine (quote : Char) : Nat → List Char → List Char → Option (String × List Char)
  | 0, _, _ => none
  | _, _, [] => none
  | fuel + 1, done, c :: rest =>
    if c = quote then some (String.ofList done.reverse, rest)
    else if c = '\\' ∧ quote = '"' then
      (escape? rest).bind fun (e, rest) => scanLine quote fuel (e :: done) rest
    else if isForbidden c then none
    else scanLine quote fuel (c :: done) rest

/-- A text on several lines up to its three quotes, with the characters read so far in reverse. -/
def scanLines (quote : Char) : Nat → List Char → List Char → Option (String × List Char)
  | 0, _, _ => none
  | _, _, [] => none
  | fuel + 1, done, c :: rest =>
    if c = quote then
      let run := (c :: rest).takeWhile (· == quote)
      let kept := Nat.min (run.length - 3) 2
      if run.length < 3 then scanLines quote fuel (c :: done) rest
      else
        some (String.ofList (done.reverse ++ List.replicate kept quote),
          (c :: rest).drop (kept + 3))
    else if c = '\\' ∧ quote = '"' then
      if endsLine rest then scanLines quote fuel done (dropBlank rest)
      else (escape? rest).bind fun (e, rest) => scanLines quote fuel (e :: done) rest
    else if c = '\n' then scanLines quote fuel (c :: done) rest
    else if c = '\r' ∧ rest.head? = some '\n' then scanLines quote fuel (c :: done) rest
    else if isForbidden c then none
    else scanLines quote fuel (c :: done) rest

/-- A text on one line, from its opening quote on. -/
def readLine? : List Char → Option (String × List Char)
  | c :: rest => if c = '"' ∨ c = '\'' then scanLine c rest.length [] rest else none
  | [] => none

/-- A text from its opening quotes on. -/
def read? : List Char → Option (String × List Char)
  | a :: b :: c :: rest =>
    if (a = '"' ∨ a = '\'') ∧ b = a ∧ c = a then
      let rest := match rest with
        | '\n' :: rest => rest
        | '\r' :: '\n' :: rest => rest
        | rest => rest
      scanLines a rest.length [] rest
    else readLine? (a :: b :: c :: rest)
  | text => readLine? text

end Quoted
end Settings
end FleetTelemetry
