/-
# Statements of a settings text

A settings text is a list of lines, and a line is a header, a repeated header,
or a key with its value. A value nests up to a fixed depth, and a key has no more
parts than that. Between braces or brackets, lines may end between any two words
but not within a key.

The statements are carried out in order. A header opens its table, and the pairs
behind it go into that table. A text with a statement that cannot be carried out
is no settings text.

Key definitions: `Settings.Statement`, `Settings.readKey?`,
`Settings.readValue`, `Settings.Statement.readAll?`, `Settings.Document.build`,
`Settings.ofText?`.
-/
import FleetTelemetry.Settings.Quoted
import FleetTelemetry.Settings.Scalar

namespace FleetTelemetry
namespace Settings

/-- A line of a settings text that says something. -/
inductive Statement where
  | header (path : List String)
  | element (path : List String)
  | pair (path : List String) (v : Value)

/-- Drops blanks within a line. -/
def dropBlanks (text : List Char) : List Char := text.dropWhile fun c => c == ' ' || c == '\t'

/-- Drops blanks, line breaks and comments; nothing is left if a comment holds a control
character. The flag says that the text goes on within a comment. -/
def dropFiller : Bool → List Char → Option (List Char)
  | _, [] => some []
  | _, '\n' :: rest => dropFiller false rest
  | _, '\r' :: '\n' :: rest => dropFiller false rest
  | true, c :: rest => if Quoted.isForbidden c then none else dropFiller true rest
  | false, c :: rest =>
    if c = ' ' ∨ c = '\t' then dropFiller false rest
    else if c = '#' then dropFiller true rest
    else some (c :: rest)

/-- What follows a line, behind blanks and a comment, if that is the end of the line. -/
def endLine (text : List Char) : Option (List Char) :=
  let behind := match dropBlanks text with
    | '#' :: rest => rest.dropWhile fun c => !Quoted.isForbidden c
    | rest => rest
  match behind with
  | [] => some []
  | '\n' :: rest => some rest
  | '\r' :: '\n' :: rest => some rest
  | _ => none

/-- How deep lists and tables may nest, and how many parts a key may have. -/
def maxDepth : Nat := 80

/-- Letters, digits, underscores and hyphens need no quotes in a key. -/
def isBareKeyChar (c : Char) : Bool := c.isAlphanum || c == '_' || c == '-'

/-- One part of a key. -/
def readKeyPart? (text : List Char) : Option (String × List Char) :=
  match text with
  | c :: _ =>
    if c = '"' ∨ c = '\'' then Quoted.readLine? text
    else if isBareKeyChar c then
      some (String.ofList (text.takeWhile isBareKeyChar), text.dropWhile isBareKeyChar)
    else none
  | [] => none

/-- The parts of a key, with blanks around them and dots between them, if there are at most as many
as the limit says. -/
def readKey? : Nat → List Char → Option (List String × List Char)
  | 0, _ => none
  | limit + 1, text => do
    let (part, rest) ← readKeyPart? (dropBlanks text)
    match dropBlanks rest with
    | '.' :: rest =>
      let (parts, rest) ← readKey? limit rest
      return (part :: parts, rest)
    | rest => return ([part], rest)

mutual

/-- A value, `depth` levels down. `fuel` bounds the number of steps by the length of the text. -/
def readValue : Nat → Nat → List Char → Option (Value × List Char)
  | 0, _, _ => none
  | fuel + 1, depth, text =>
    match text with
    | '[' :: rest => if maxDepth ≤ depth then none else readItems fuel (depth + 1) [] rest
    | '\x7b' :: rest => if maxDepth ≤ depth then none else readPairs fuel (depth + 1) [] rest
    | c :: rest =>
      if c = '"' ∨ c = '\'' then (Quoted.read? (c :: rest)).map fun (s, rest) => (.str s, rest)
      else Scalar.read? (c :: rest)
    | [] => none

/-- The items of a list up to its bracket, behind those that have been read, in reverse. -/
def readItems : Nat → Nat → List Value → List Char → Option (Value × List Char)
  | 0, _, _, _ => none
  | fuel + 1, depth, done, text => do
    match ← dropFiller false text with
    | ']' :: rest => return (.array done.reverse, rest)
    | text =>
      let (v, rest) ← readValue fuel depth text
      match ← dropFiller false rest with
      | ',' :: rest => readItems fuel depth (v :: done) rest
      | ']' :: rest => return (.array (v :: done).reverse, rest)
      | _ => none

/-- The pairs of a table between braces, which are put into it one by one. -/
def readPairs : Nat → Nat → Entries → List Char → Option (Value × List Char)
  | 0, _, _, _ => none
  | fuel + 1, depth, done, text => do
    match ← dropFiller false text with
    | '\x7d' :: rest => return (.table .inline done, rest)
    | text =>
      let (path, rest) ← readKey? maxDepth text
      match ← dropFiller false rest with
      | '=' :: rest =>
        let (v, rest) ← readValue fuel depth (← dropFiller false rest)
        let done ← insertPair path v .inline done
        match ← dropFiller false rest with
        | ',' :: rest => readPairs fuel depth done rest
        | '\x7d' :: rest => return (.table .inline done, rest)
        | _ => none
      | _ => none

end

namespace Statement

/-- The statement at the front of a text, up to the end of its line. -/
def read? (text : List Char) : Option (Statement × List Char) :=
  match text with
  | '[' :: '[' :: rest => do
    let (path, rest) ← readKey? maxDepth rest
    match rest with
    | ']' :: ']' :: rest => return (.element path, ← endLine rest)
    | _ => none
  | '[' :: rest => do
    let (path, rest) ← readKey? maxDepth rest
    match rest with
    | ']' :: rest => return (.header path, ← endLine rest)
    | _ => none
  | text => do
    let (path, rest) ← readKey? maxDepth text
    match rest with
    | '=' :: rest =>
      let (v, rest) ← readValue rest.length 0 (dropBlanks rest)
      return (.pair path v, ← endLine rest)
    | _ => none

/-- The statements of a text. -/
def readAll? : Nat → List Char → Option (List Statement)
  | 0, _ => none
  | fuel + 1, text => do
    match ← dropFiller false text with
    | [] => return []
    | text =>
      let (statement, rest) ← read? text
      return statement :: (← readAll? fuel rest)

end Statement
/-! ### Documents -/

/-- What the statements so far have built, and the path of the header they stand under. -/
structure Document where
  root : Entries := []
  place : List String := []

namespace Document

/-- Carries out one statement. -/
def apply (d : Document) : Statement → Option Document
  | .header path => (openTable path d.root).map fun root => { root, place := path }
  | .element path => (openElement path d.root).map fun root => { root, place := path }
  | .pair path v =>
    (updateAt false (insertPair path v) d.place .header d.root).map fun root => { d with root }

/-- Carries out statements in order. -/
def build (statements : List Statement) : Option Document := statements.foldlM apply {}

end Document

/-- The entries of a settings text. A byte order mark in front does not count. -/
def ofText? (text : String) : Option Entries :=
  let chars := match text.toList with
    | '\uFEFF' :: rest => rest
    | chars => chars
  ((Statement.readAll? (chars.length + 1) chars).bind Document.build).map Document.root

end Settings
end FleetTelemetry
