import Dictation.Text.Basic
/-!
# TOML tables

What the keys of a TOML document stand for. A table is made by a header, on the way to one, or by
dotted keys; how it was made decides whether more may be put into it. No key is given twice.
-/
namespace Dictation.Toml

inductive Origin where
  /-- Named by a header of its own. -/
  | header
  /-- Passed on the way to the table of a header. -/
  | passed
  /-- Made by a dotted key. -/
  | dotted
  deriving DecidableEq, Repr

inductive Item where
  | string (t : Text)
  | boolean (b : Bool)
  | integer (n : Int)
  /-- A floating-point number as it is written. -/
  | float (t : Text)
  /-- A date, a time or both, as it is written. -/
  | moment (t : Text)
  | array (items : List Item)
  /-- A table that is written as a value, which nothing can be added to. -/
  | inline (entries : List (Text × Item))
  | table (origin : Origin) (entries : List (Text × Item))
  /-- Tables of one name, of which the last is added to. -/
  | tables (elements : List (List (Text × Item)))
  deriving Repr, Inhabited

abbrev Entries := List (Text × Item)

namespace Entries

/-- Entries with an item for a key, in place of the one that it had. -/
def put (key : Text) (item : Item) : Entries → Entries
  | [] => [(key, item)]
  | e :: rest => if e.1 = key then (key, item) :: rest else e :: put key item rest

/-- Entries with an item for a key that had none. -/
def insert? (key : Text) (item : Item) (es : Entries) : Option Entries :=
  if (es.lookup key).isSome then none else some (es ++ [(key, item)])

/-- Changes the table at the end of a path. Tables that are missing are made; a table that has a
header of its own is closed to dotted keys. -/
def change? (dotted : Bool) (act : Origin → Entries → Option Entries) :
    List Text → Origin → Entries → Option Entries
  | [], origin, es => act origin es
  | key :: keys, _, es =>
    let made := if dotted then .dotted else .passed
    match es.lookup key with
    | none => (change? dotted act keys made []).map fun sub => put key (.table made sub) es
    | some (.table origin sub) =>
      if dotted && origin = .header then none
      else (change? dotted act keys origin sub).map fun sub => put key (.table origin sub) es
    | some (.tables elements) => do
      let last ← change? dotted act keys .header (← elements.getLast?)
      return put key (.tables (elements.dropLast ++ [last])) es
    | some _ => none

/-- Adds an item under a dotted key. All but the last part lead to the table that gets the item. -/
def add? (path : List Text) (key : Text) (item : Item) (es : Entries) : Option Entries :=
  if path.isEmpty then insert? key item es
  else
    change? true (fun origin sub => if origin = .dotted then insert? key item sub else none)
      path .header es

def open? (key : Text) (es : Entries) : Option Entries :=
  match es.lookup key with
  | none => some (put key (.table .header []) es)
  | some (.table .passed sub) => some (put key (.table .header sub) es)
  | some _ => none

def openNext? (key : Text) (es : Entries) : Option Entries :=
  match es.lookup key with
  | none => some (put key (.tables [[]]) es)
  | some (.tables elements) => some (put key (.tables (elements ++ [[]])) es)
  | some _ => none

end Entries

/-- The entries read so far, and the path of the table that keys belong to. -/
structure Document where
  entries : Entries
  current : List Text

namespace Document

def empty : Document := ⟨[], []⟩

/-- Adds an item under a dotted key to the current table. -/
def add? (d : Document) (path : List Text) (key : Text) (item : Item) : Option Document := do
  let act := fun _ es => Entries.add? path key item es
  return { d with entries := ← Entries.change? false act d.current .header d.entries }

/-- Goes on with the table of a header, or with one more table of its name. -/
def begin? (d : Document) (isNext : Bool) (path : List Text) (key : Text) : Option Document := do
  let act := fun _ es => if isNext then Entries.openNext? key es else Entries.open? key es
  return ⟨← Entries.change? false act path .header d.entries, path ++ [key]⟩

end Document

end Dictation.Toml
