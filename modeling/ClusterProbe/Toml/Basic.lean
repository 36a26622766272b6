import ClusterProbe.Number.Real

/-!
# Settings documents

The tables of a TOML document in the order of their entries, each with the stretch of text it was
read from. Only what the reader of settings can tell apart is kept of a value: what lists and inline
tables hold is checked when they are read, and then forgotten.
-/

namespace ClusterProbe.Toml

/-- A stretch of a text in octets: where it starts, and where what follows it starts. -/
structure Span where
  start : Nat
  stop : Nat
deriving DecidableEq

/-- A value. -/
inductive Value where
  | string (s : String)
  | integer (i : Int)
  | real (x : Real)
  | bool (b : Bool)
  | datetime
  | list
  | inlineTable
deriving DecidableEq

/-- How a table came to be: written under a header of its own, made for a table inside it, or made
for a dotted key. -/
inductive Origin where
  | header | implicit | dotted
deriving DecidableEq

/-- One part of a key. -/
structure Key where
  name : String
  span : Span

/-- What an entry holds: a value, a table, or the tables of repeated headers. -/
inductive Item where
  | value (v : Value) (span : Span)
  | table (origin : Origin) (span : Option Span) (entries : List (Key × Item))
  | tables (elements : List (Option Span × List (Key × Item)))

/-- The entries of a table. -/
abbrev Entries := List (Key × Item)

/-- The entry of a name. -/
def find? (name : String) : Entries → Option Item
  | [] => none
  | (k, v) :: rest => if k.name = name then some v else find? name rest

/-- The entries with another item for a name that they have. -/
def replace (name : String) (item : Item) (entries : Entries) : Entries :=
  entries.map fun e ↦ if e.1.name = name then (e.1, item) else e

/-- The entries without a name. -/
def remove (name : String) (entries : Entries) : Entries :=
  entries.filter fun e ↦ e.1.name ≠ name

/-- The stretch of an entry: that of its item, or of its key if the item has none of its own. -/
def spanOf (key : Key) : Item → Span
  | .value _ s => s
  | .table _ s _ => s.getD key.span
  | .tables elements =>
    match elements.head?.bind Prod.fst, elements.getLast?.bind Prod.fst with
    | some first, some last => ⟨first.start, last.stop⟩
    | _, _ => key.span

/-- Changes the entries of the table that a path leads to. Tables that are not there are made. A
dotted key does not lead into a table with a header, except through the last of repeated ones. The
change is told how the table came to be. -/
def modifyAt (dotted : Bool) (change : Origin → Entries → Option Entries) :
    List Key → Origin → Entries → Option Entries
  | [], origin, entries => change origin entries
  | k :: path, _, entries =>
    let fresh : Origin := if dotted then .dotted else .implicit
    match find? k.name entries with
    | none => do
      let inner ← modifyAt dotted change path fresh []
      some (entries ++ [(k, .table fresh none inner)])
    | some (.value ..) => none
    | some (.table origin span inner) =>
      if dotted && origin = .header then none
      else do
        let inner ← modifyAt dotted change path origin inner
        some (replace k.name (.table origin span inner) entries)
    | some (.tables elements) => do
      let (span, inner) ← elements.getLast?
      let inner ← modifyAt dotted change path .header inner
      some (replace k.name (.tables (elements.dropLast ++ [(span, inner)])) entries)

/-- Adds an entry with a dotted key to a table; none if it is there or its table must not be
extended. -/
def addEntry (path : List Key) (key : Key) (item : Item) (entries : Entries) : Option Entries :=
  modifyAt true
    (fun origin inner ↦
      if decide (origin = .dotted) = path.isEmpty then none
      else if (find? key.name inner).isSome then none
      else some (inner ++ [(key, item)]))
    path .header entries

end ClusterProbe.Toml
