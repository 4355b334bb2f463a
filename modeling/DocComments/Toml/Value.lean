set_option autoImplicit false

/-!
# Values and tables of settings files

A table is made by a header, by the way to a header, by a dotted key, or in place between braces. How
it was made decides who may add to it: a header may complete a table that only lies on the way to
others, a dotted key may add to a table made by dotted keys, and nobody adds to a table made in place.

## Main definitions

* `Value`, `Origin` — the values, and how a table was made.
* `assign` — a table with a value added under a dotted key.
* `openTable`, `openItem` — a table with a table added for a header.
* `descend` — a table changed at the end of a path of headers.
-/

namespace DocComments.Toml

/-- The name of a value in a table. -/
abbrev Key := List Char

/-- How a table was made. -/
inductive Origin where
  /-- In place, between braces. -/
  | inPlace
  /-- By a header of its own. -/
  | header
  /-- On the way to another header. -/
  | onTheWay
  /-- By a dotted key. -/
  | dotted
  deriving Repr, DecidableEq

/-- A value. -/
inductive Value where
  | text (chars : List Char)
  | boolean (value : Bool)
  /-- A number or a date; no setting is one. -/
  | scalar
  | array (items : List Value)
  /-- The tables of a repeated header; the last of them can still be added to. -/
  | tables (earlier : List (List (Key × Value))) (last : List (Key × Value))
  | table (origin : Origin) (entries : List (Key × Value))

/-- The values of a table with their names. -/
abbrev Entries := List (Key × Value)

namespace Entries

/-- The value with a given name. -/
def get? (entries : Entries) (key : Key) : Option Value :=
  (entries.find? fun e => e.1 == key).map (·.2)

/-- Changes the value with a given name. -/
def set (entries : Entries) (key : Key) (value : Value) : Entries :=
  entries.map fun e => if e.1 == key then (key, value) else e

/-- Adds a value, unless there is one of the same name. -/
def add? (entries : Entries) (key : Key) (value : Value) : Option Entries :=
  match entries.get? key with
  | none => some (entries ++ [(key, value)])
  | some _ => none

end Entries

/-- Adds a value under a dotted key, given the names before the last one. The last of the tables on
the way has to be made by dotted keys. -/
def assign (key : Key) (value : Value) : List Key → Entries → Option Entries
  | [], entries => entries.add? key value
  | k :: path, entries =>
    match entries.get? k with
    | none =>
      (assign key value path []).map fun inner => entries ++ [(k, .table .dotted inner)]
    | some (.table .dotted inner) =>
      (assign key value path inner).map fun inner => entries.set k (.table .dotted inner)
    | some (.table .onTheWay inner) =>
      if path.isEmpty then none
      else (assign key value path inner).map fun inner => entries.set k (.table .onTheWay inner)
    | some (.tables earlier last) =>
      if path.isEmpty then none
      else (assign key value path last).map fun last => entries.set k (.tables earlier last)
    | some _ => none

/-- Makes the table of a header, or completes one that lies on the way to others. -/
def openTable (key : Key) (entries : Entries) : Option Entries :=
  match entries.get? key with
  | none => some (entries ++ [(key, .table .header [])])
  | some (.table .onTheWay inner) => some (entries.set key (.table .header inner))
  | some _ => none

/-- Makes one more table of a repeated header. -/
def openItem (key : Key) (entries : Entries) : Option Entries :=
  match entries.get? key with
  | none => some (entries ++ [(key, .tables [] [])])
  | some (.tables earlier last) => some (entries.set key (.tables (earlier ++ [last]) []))
  | some _ => none

/-- Changes the table at the end of a path; tables that are missing on the way are made. -/
def descend (change : Entries → Option Entries) : List Key → Entries → Option Entries
  | [], entries => change entries
  | k :: path, entries =>
    match entries.get? k with
    | none =>
      (descend change path []).map fun inner => entries ++ [(k, .table .onTheWay inner)]
    | some (.table origin inner) =>
      if origin = .inPlace then none
      else (descend change path inner).map fun inner => entries.set k (.table origin inner)
    | some (.tables earlier last) =>
      (descend change path last).map fun last => entries.set k (.tables earlier last)
    | some _ => none

end DocComments.Toml
