import ClusterProbe.Text.Utf8
import ClusterProbe.Toml.Lexical

/-!
# Reading a settings document

A document is a sequence of lines: entries, headers that open a table, and headers that add a table
to a list of tables. The entries of a table are gathered before the table is put into its place.
-/

namespace ClusterProbe.Toml

/-- How deep lists and inline tables may be nested, and how many parts a key may have. -/
def nestingLimit : Nat := 79

/-- A character of a key without quotes. -/
def isKeyChar (c : Char) : Bool := c.isAlphanum || c = '-' || c = '_'

/-- The place of a rest of a text of `total` octets. -/
def placeOf (total : Nat) (rest : List Char) : Nat := total - Text.octets rest

/-- One part of a key. -/
def keyPart? (total : Nat) (cs : List Char) : Option (Key × List Char) := do
  let (name, r) ← match cs with
    | '\"' :: r => basicString (cs.length + 1) [] r
    | '\'' :: r => literalString r
    | _ =>
      let (name, r) := cs.span isKeyChar
      if name.isEmpty then none else some (String.ofList name, r)
  some (⟨name, placeOf total cs, placeOf total r⟩, r)

/-- The parts of a dotted key; blanks may stand around the points. -/
def dottedKey? (total : Nat) : Nat → List Key → List Char → Option (List Key × List Char)
  | 0, _, _ => none
  | fuel + 1, acc, cs => do
    let (key, r) ← keyPart? total (skipGaps cs)
    let acc := acc ++ [key]
    match skipGaps r with
    | '.' :: r => dottedKey? total fuel acc r
    | r => if acc.length ≤ nestingLimit then some (acc, r) else none

/-- The path in front of the last part of a key, and that part. -/
def splitKey? (keys : List Key) : Option (List Key × Key) :=
  keys.getLast?.map fun last ↦ (keys.dropLast, last)

mutual

/-- A value inside at most `depth` lists and inline tables. -/
def value? (total : Nat) : Nat → Nat → List Char → Option (Value × List Char)
  | 0, _, _ => none
  | fuel + 1, depth, cs =>
    match cs with
    | '\"' :: _ | '\'' :: _ => (string? cs).map fun (s, r) ↦ (.string s, r)
    | 't' :: 'r' :: 'u' :: 'e' :: r => some (.bool true, r)
    | 'f' :: 'a' :: 'l' :: 's' :: 'e' :: r => some (.bool false, r)
    | '[' :: r =>
      match depth with
      | 0 => none
      | depth + 1 => (listItems? total fuel depth r).map (.list, ·)
    | '{' :: r =>
      match depth with
      | 0 => none
      | depth + 1 =>
        match skipGaps r with
        | '}' :: r => some (.inlineTable, r)
        | r => (inlineEntries? total fuel depth [] r).map (.inlineTable, ·)
    | _ =>
      if startsDate cs then (datetime? cs).map (.datetime, ·)
      else match real? cs with
        | some (x, r) => some (.real x, r)
        | none => (integer? cs).map fun (i, r) ↦ (.integer i, r)

/-- The items of a list up to its bracket; the last one may have a comma behind it. -/
def listItems? (total : Nat) : Nat → Nat → List Char → Option (List Char)
  | 0, _, _ => none
  | fuel + 1, depth, cs =>
    match skipLines cs.length cs with
    | ']' :: r => some r
    | r => do
      let (_, r) ← value? total fuel depth r
      match skipLines r.length r with
      | ']' :: r => some r
      | ',' :: r => listItems? total fuel depth r
      | _ => none

/-- The entries of an inline table up to its brace, behind those in `acc`. -/
def inlineEntries? (total : Nat) : Nat → Nat → Entries → List Char → Option (List Char)
  | 0, _, _, _ => none
  | fuel + 1, depth, acc, cs => do
    let (keys, r) ← dottedKey? total (cs.length + 1) [] cs
    let (path, key) ← splitKey? keys
    match skipGaps r with
    | '=' :: r =>
      let (v, r) ← value? total fuel depth (skipGaps r)
      let acc ← addEntry path key (.value v ⟨0, 0⟩) acc
      match skipGaps r with
      | '}' :: r => some r
      | ',' :: r => inlineEntries? total fuel depth acc (skipGaps r)
      | _ => none
    | _ => none

end

/-- The table that entries are being added to: where it belongs, whether it is one of a list, and
what it holds. The root has no path. -/
structure OpenTable where
  path : List Key
  listed : Bool
  span : Option Span
  entries : Entries

/-- What has been read: the tables that are complete, and the one that is open. -/
structure Draft where
  root : Entries
  table : OpenTable

/-- Puts the open table into its place. -/
def Draft.close (d : Draft) : Option Entries :=
  let t := d.table
  match splitKey? t.path with
  | none => some t.entries
  | some (path, key) =>
    modifyAt false
      (fun _ outer ↦
        if t.listed then
          match find? key.name outer with
          | some (.tables elements) =>
            some (replace key.name (.tables (elements ++ [(t.span, t.entries)])) outer)
          | some _ => none
          | none => some (outer ++ [(key, .tables [(t.span, t.entries)])])
        else
          match find? key.name outer with
          | some (.table .header _ _) | some (.value ..) | some (.tables _) => none
          | some (.table ..) =>
            some (replace key.name (.table .header t.span t.entries) outer)
          | none => some (outer ++ [(key, .table .header t.span t.entries)]))
      path .header d.root

/-- Opens the table of a header. A table that was made for a table inside it is taken out of its
place, to be put back when it is closed. -/
def Draft.openTable (d : Draft) (keys : List Key) (span : Span) : Option Draft := do
  let root ← d.close
  let (path, key) ← splitKey? keys
  let found ← taken path key root
  let root ← modifyAt false (fun _ outer ↦ some (remove key.name outer)) path .header root
  some ⟨root, keys, false, some span, found⟩
where
  /-- The entries that the table has already. -/
  taken : List Key → Key → Entries → Option Entries
    | [], key, outer =>
      match find? key.name outer with
      | none => some []
      | some (.table .implicit _ inner) => some inner
      | some _ => none
    | k :: path, key, outer =>
      match find? k.name outer with
      | none => some []
      | some (.value ..) => none
      | some (.table _ _ inner) => taken path key inner
      | some (.tables elements) => do
        let (_, inner) ← elements.getLast?
        taken path key inner

/-- Opens one more table of a list. -/
def Draft.openListed (d : Draft) (keys : List Key) (span : Span) : Option Draft := do
  let root ← d.close
  let (path, key) ← splitKey? keys
  let root ← modifyAt false
    (fun _ outer ↦
      match find? key.name outer with
      | none => some (outer ++ [(key, .tables [])])
      | some (.tables _) => some outer
      | some _ => none)
    path .header root
  some ⟨root, keys, true, some span, []⟩

/-- Adds an entry to the open table, whose stretch then reaches to the end of the value. -/
def Draft.add (d : Draft) (keys : List Key) (v : Value) (span : Span) : Option Draft := do
  let (path, key) ← splitKey? keys
  let entries ← addEntry path key (.value v span) d.table.entries
  some { d with
    table := { d.table with
      entries := entries
      span := d.table.span.map fun s ↦ ⟨s.start, span.stop⟩ } }

/-- The lines of a document, one after the other. -/
def lines? (total : Nat) : Nat → Draft → List Char → Option Draft
  | 0, _, _ => none
  | fuel + 1, d, cs =>
    let size := cs.length + 1
    match skipGaps cs with
    | [] => some d
    | '[' :: '[' :: r => do
      let (keys, after) ← dottedKey? total size [] r
      match after with
      | ']' :: ']' :: after =>
        let d ← d.openListed keys ⟨placeOf total ('[' :: '[' :: r), placeOf total after⟩
        lines? total fuel d (← lineEnd? after)
      | _ => none
    | '[' :: r => do
      let (keys, after) ← dottedKey? total size [] r
      match after with
      | ']' :: after =>
        let d ← d.openTable keys ⟨placeOf total ('[' :: r), placeOf total after⟩
        lines? total fuel d (← lineEnd? after)
      | _ => none
    | c :: r =>
      if c = '#' || c = '\n' || c = '\r' then do
        lines? total fuel d (← lineEnd? (c :: r))
      else do
        let (keys, after) ← dottedKey? total size [] (c :: r)
        match skipGaps after with
        | '=' :: after =>
          let start := skipGaps after
          let (v, after) ← value? total size nestingLimit start
          let d ← d.add keys v ⟨placeOf total start, placeOf total after⟩
          lines? total fuel d (← lineEnd? after)
        | _ => none

/-- The entries of a document; none if it is malformed. -/
def ofText? (s : String) : Option Entries := do
  let cs := s.toList
  let total := Text.octets cs
  let body := match cs with
    | c :: r => if c = '\uFEFF' then r else c :: r
    | [] => []
  let d ← lines? total (body.length + 2) ⟨[], [], false, none, []⟩ body
  d.close

end ClusterProbe.Toml
