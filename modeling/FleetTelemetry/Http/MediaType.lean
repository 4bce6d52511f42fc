/-
# Media types

A media type is a type and a subtype, with parameters behind semicolons. The
part of a subtype behind its last plus sign is its suffix. What says that it
is JSON is an application type whose subtype or suffix is `json`.

Key definitions: `MediaType`, `MediaType.ofChars?`, `MediaType.isJson`.
-/
import FleetTelemetry.Text.Parts

namespace FleetTelemetry

/-- A media type without its parameters. -/
structure MediaType where
  type : List Char
  subtype : List Char
  suffix : Option (List Char)
  deriving DecidableEq

namespace MediaType

/-- The characters of a name: letters, digits, and some punctuation. -/
def isToken (c : Char) : Bool :=
  c.isAlphanum || "!#$%&'*+-.^_`|~".toList.contains c

/-- Whether what stands behind the value of a parameter is the end or the next parameter. -/
def behindQuoted : List Char → Option (List Char)
  | [] => some []
  | ';' :: rest => some rest
  | ' ' :: rest => behindQuoted rest
  | _ => none

/-- The characters of a quoted value are those that print, in ASCII. -/
def isPrintable (c : Char) : Bool := 0x20 ≤ c.toNat && c.toNat < 0x7f

/-- The text behind a quoted value, which is never empty, from behind its opening quote on. -/
def quotedValue : List Char → Option (List Char)
  | [] => none
  | c :: rest =>
    if !isPrintable c then none
    else
      match rest.dropWhile fun c => c ≠ '"' && isPrintable c with
      | '"' :: rest => behindQuoted rest
      | _ => none

/-- Whether a text is a list of parameters. `fuel` bounds their number by the length. -/
def parameters : Nat → List Char → Bool
  | _, [] => true
  | 0, _ => false
  | fuel + 1, ' ' :: rest => parameters fuel rest
  | fuel + 1, text =>
    let name := text.takeWhile isToken
    match text.dropWhile isToken with
    | '=' :: '"' :: rest =>
      !name.isEmpty &&
        match quotedValue rest with
        | some rest => parameters fuel rest
        | none => false
    | '=' :: rest =>
      !name.isEmpty &&
        match rest.dropWhile isToken with
        | [] => true
        | ';' :: behind => !(rest.takeWhile isToken).isEmpty && parameters fuel behind
        | _ => false
    | _ => false

/-- Cuts a subtype at its last plus sign, unless it begins with that. -/
def ofParts (type subtype : List Char) : MediaType :=
  match Parts.cutAt '+' subtype.reverse with
  | (suffix, rest) =>
    if rest.isEmpty then ⟨type, subtype, none⟩
    else ⟨type, rest.reverse, some suffix.reverse⟩

/-- The media type that a text spells. -/
def ofChars? (text : List Char) : Option MediaType :=
  let type := text.takeWhile isToken
  match text.dropWhile isToken with
  | '/' :: rest =>
    if type.isEmpty then none
    else
      let subtype := rest.takeWhile isToken
      match rest.dropWhile isToken with
      | [] => some (ofParts type subtype)
      | ';' :: behind =>
        if subtype.isEmpty || !parameters behind.length behind then none
        else some (ofParts type subtype)
      | _ => none
  | _ => none

/-- Whether a media type announces JSON; the case of letters does not count. -/
def isJson (m : MediaType) : Bool :=
  let json := ['j', 's', 'o', 'n']
  m.type.map Char.toLower == "application".toList &&
    (m.subtype.map Char.toLower == json || m.suffix.map (·.map Char.toLower) == some json)

end MediaType
end FleetTelemetry
