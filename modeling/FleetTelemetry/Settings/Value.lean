/-
# Settings

A settings text (TOML) is a table of values under keys. A table remembers how
it came to be, because that decides whether later statements may add to it: by
a header of its own, as a table on the way to a header, by a dotted key, or
between braces. A header or a dotted key may turn a table on the way into one
of its own, but no table is defined twice.

Key definitions: `Settings.Value`, `Settings.TableKind`, `Settings.updateAt`,
`Settings.insertPair`, `Settings.openTable`, `Settings.openElement`.
-/
namespace FleetTelemetry
namespace Settings

/-- How a table came to be. -/
inductive TableKind where
  /-- It has a header, or is the whole text. -/
  | header
  /-- It lies on the way to a header. -/
  | implied
  /-- It lies on the way of a dotted key. -/
  | dotted
  /-- It stands between braces. -/
  | inline
  deriving DecidableEq, Repr

/-- A value of a settings text. Of a date or time it is only known that it is one. -/
inductive Value where
  | str (s : String)
  | int (n : Int)
  | float (x : Float)
  | bool (b : Bool)
  | datetime
  | array (items : List Value)
  | table (kind : TableKind) (entries : List (String × Value))
  /-- Tables under one header that is repeated, oldest first. -/
  | tables (elements : List (List (String × Value)))
  deriving Inhabited

/-- Keys with their values, in the order of the text. -/
abbrev Entries := List (String × Value)

/-- Puts a value in the place of the one under a key. -/
def replaceValue (key : String) (v : Value) : Entries → Entries
  | [] => []
  | e :: es => if e.1 = key then (key, v) :: es else e :: replaceValue key v es

/-- Changes the table at the end of a path; tables that are missing on the way are created. Nothing
between braces can be changed. A dotted key passes through no table that has a header, and makes
every table on its way its own. -/
def updateAt (dotted : Bool) (change : TableKind → Entries → Option Entries) :
    List String → TableKind → Entries → Option Entries
  | [], kind, es => change kind es
  | key :: path, _, es =>
    match es.lookup key with
    | none =>
      let kind := if dotted then TableKind.dotted else TableKind.implied
      (updateAt dotted change path kind []).map fun sub => es ++ [(key, .table kind sub)]
    | some (.table kind sub) =>
      if kind = .inline ∨ (dotted ∧ kind = .header) then none
      else
        let kind := if dotted then TableKind.dotted else kind
        (updateAt dotted change path kind sub).map fun sub =>
          replaceValue key (.table kind sub) es
    | some (.tables elements) =>
      match elements.getLast? with
      | none => none
      | some last =>
        (updateAt dotted change path .header last).map fun last =>
          replaceValue key (.tables (elements.dropLast ++ [last])) es
    | some _ => none

/-- Puts a value under a key that may have dots. The key must be new, and a key with dots adds only
to a table of dotted keys. -/
def insertPair (path : List String) (v : Value) (kind : TableKind) (es : Entries) :
    Option Entries :=
  match path.getLast? with
  | none => none
  | some key =>
    let change (kind : TableKind) (es : Entries) : Option Entries :=
      if (kind == .dotted) == path.dropLast.isEmpty || (es.lookup key).isSome then none
      else some (es ++ [(key, v)])
    updateAt true change path.dropLast kind es

/-- Opens the table of a header. -/
def openTable (path : List String) (root : Entries) : Option Entries :=
  match path.getLast? with
  | none => none
  | some key =>
    let change (_ : TableKind) (es : Entries) : Option Entries :=
      match es.lookup key with
      | none => some (es ++ [(key, .table .header [])])
      | some (.table .implied sub) => some (replaceValue key (.table .header sub) es)
      | some _ => none
    updateAt false change path.dropLast .header root

/-- Opens one more table under a repeated header. -/
def openElement (path : List String) (root : Entries) : Option Entries :=
  match path.getLast? with
  | none => none
  | some key =>
    let change (_ : TableKind) (es : Entries) : Option Entries :=
      match es.lookup key with
      | none => some (es ++ [(key, .tables [[]])])
      | some (.tables elements) => some (replaceValue key (.tables (elements ++ [[]])) es)
      | some _ => none
    updateAt false change path.dropLast .header root

end Settings
end FleetTelemetry
