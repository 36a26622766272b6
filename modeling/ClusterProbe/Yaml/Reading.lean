import ClusterProbe.Found
import ClusterProbe.Json.Basic
import ClusterProbe.Yaml.Node
import ClusterProbe.Yaml.Scalar

/-!
# Reading values from a document

Readers turn nodes into values. A node of the wrong kind is a fault, told with the path of keys and
indices that leads to the node and its line and column; the innermost reader that knows a place
gives it. Nesting is limited, and so is the number of aliases that may be followed.
-/

namespace ClusterProbe.Yaml

/-- One step from a node into the document. -/
inductive Step where
  | item (index : Nat)
  | entry (key : String)
  /-- An entry whose key is no scalar. -/
  | unnamed

/-- The steps that lead to a node, the last one first. -/
abbrev Place := List Step

/-- The path to a node; the root is a point. -/
def Place.text : Place → String
  | [] => "."
  | .item i :: outer => Place.text outer ++ "[" ++ toString i ++ "]"
  | .entry k :: outer => lead outer ++ k
  | .unnamed :: outer => lead outer ++ "?"
where
  /-- The path in front of a key. -/
  lead : Place → String
    | [] => ""
    | outer => Place.text outer ++ "."

/-- What a scalar is found to be. -/
def Scalar.found : Scalar → Found
  | .null => .unit
  | .bool b => .bool b
  | .integer i => .integer i
  | .real x => .real x
  | .text s => .text s

/-- Why a node cannot be read. -/
inductive Cause where
  | unwanted (what : Unwanted)
  | missingField (name : String)
  | repeatedField (name : String)
  | integerTooLarge

/-- The wording of a cause. -/
def Cause.message : Cause → String
  | .unwanted u => u.message
  | .missingField n => "missing field `" ++ n ++ "`"
  | .repeatedField n => "duplicate field `" ++ n ++ "`"
  | .integerTooLarge => "JSON number out of range"

/-- A cause, with the place of the node if it is known; or a limit that the document exceeds. -/
inductive Fault where
  | cause (cause : Cause) (place : Option (Place × Mark))
  | tooDeep (mark : Mark)
  | tooManyAliases

/-- Line and column, counted from one; nothing is said of the very first place. -/
def Mark.suffix (m : Mark) : String :=
  if m.line = 0 && m.column = 0 then ""
  else " at line " ++ toString (m.line + 1) ++ " column " ++ toString (m.column + 1)

/-- The wording of a fault. -/
def Fault.message : Fault → String
  | .cause c none => c.message
  | .cause c (some (place, mark)) =>
    let path := place.text
    (if path = "." then "" else path ++ ": ") ++ c.message ++ mark.suffix
  | .tooDeep mark => "recursion limit exceeded" ++ mark.suffix
  | .tooManyAliases => "repetition limit exceeded"

/-- A reader. Its state is the number of aliases followed so far. -/
abbrev Reader (α : Type) := StateT Nat (Except Fault) α

/-- Fails without a place. -/
def failWith {α : Type} (c : Cause) : Reader α := throw (.cause c none)

/-- Gives a fault that has no place this one. -/
def located {α : Type} (place : Place) (mark : Mark) (r : Reader α) : Reader α := fun n ↦
  match r n with
  | .error (.cause c none) => .error (.cause c (some (place, mark)))
  | result => result

/-- How deep collections may be nested. -/
def nestingLimit : Nat := 128

namespace Document

/-- The node that a node stands for. An alias stands for the node with its anchor; the number of
aliases followed is limited by the size of the document. -/
def follow (d : Document) (n : Node) : Reader Node :=
  match n with
  | .alias mark number => fun count ↦
    if 100 * d.root.weight < count + 1 then .error .tooManyAliases
    else .ok ((d.target? number).getD (.absent mark), count + 1)
  | n => pure n

/-- What a node that should have been something else is found to be. -/
def wrongKind {α : Type} (wanted : String) : Node → Reader α
  | .scalar _ tag style s =>
    match scalarOf tag style s with
    | .ok v => failWith (.unwanted (.kind v.found wanted))
    | .error core => failWith (.unwanted (.value (.text s) core.wanted))
  | .sequence .. => failWith (.unwanted (.kind .sequence wanted))
  | .mapping .. => failWith (.unwanted (.kind .mapping wanted))
  | .alias .. => failWith (.unwanted (.kind .unit wanted))

/-- The text of a scalar, as it is written. -/
def text (d : Document) (wanted : String) (place : Place) (n : Node) : Reader String := do
  let n ← d.follow n
  located place n.mark do
    match n with
    | .scalar _ _ _ s => return s
    | n => wrongKind wanted n

/-- A natural number below `2 ^ bits`, which its name `wanted` says. -/
def natural (d : Document) (bits : Nat) (wanted : String) (place : Place) (n : Node) :
    Reader Nat := do
  let n ← d.follow n
  located place n.mark do
    match n with
    | .scalar _ tag style s =>
      let read := style = .plain || (style = .literal && tag = some "tag:yaml.org,2002:int")
      match (if read then integer? s.toList else none) with
      | some i =>
        if s.toList.head? = some '-' || i < 0 || Int.pow 2 64 ≤ i then wrongKind wanted n
        else if i < Int.pow 2 bits then return i.toNat
        else failWith (.unwanted (.value (.integer i) wanted))
      | none => wrongKind wanted n
    | n => wrongKind wanted n

/-- The place of the value behind a key. -/
def under (place : Place) : Node → Place
  | .scalar _ _ _ k => .entry k :: place
  | _ => .unnamed :: place

/-- A plain scalar without text, which stands for an empty collection. -/
def isEmptyScalar : Node → Bool
  | .scalar _ _ .plain s => s.isEmpty
  | _ => false

/-- The items of a sequence, each read in its place. -/
def eachItem {α : Type} (read : Place → Node → Reader α) (place : Place) :
    Nat → List Node → Reader (List α)
  | _, [] => return []
  | i, n :: rest => do
    let v ← read (.item i :: place) n
    let vs ← eachItem read place (i + 1) rest
    return v :: vs

/-- A sequence of at most the given depth. -/
def sequence {α : Type} (d : Document) (read : Nat → Place → Node → Reader α) (depth : Nat)
    (place : Place) (n : Node) : Reader (List α) := do
  let n ← d.follow n
  located place n.mark do
    match n, depth with
    | .sequence mark _ _, 0 => throw (.tooDeep mark)
    | .sequence _ _ items, depth + 1 => eachItem (read depth) place 0 items
    | n, _ => if isEmptyScalar n then return [] else wrongKind "a sequence" n

/-- The entries of a mapping, one after the other, each changing what was read before it. -/
def eachEntry {σ : Type} (d : Document) (wanted : String)
    (read : σ → String → Place → Node → Reader σ) (place : Place) :
    σ → List (Node × Node) → Reader σ
  | acc, [] => return acc
  | acc, (k, v) :: rest => do
    let key ← d.text wanted place k
    let acc ← read acc key (under place k) v
    eachEntry d wanted read place acc rest

/-- A mapping of at most the given depth, named `wanted`, with the reader of its entries, whose
keys are named `keys`, and what is made of all entries. -/
def mapping {σ α : Type} (d : Document) (wanted keys : String) (start : σ)
    (read : Nat → σ → String → Place → Node → Reader σ) (finish : σ → Reader α) (depth : Nat)
    (place : Place) (n : Node) : Reader α := do
  let n ← d.follow n
  located place n.mark do
    match n, depth with
    | .mapping mark _ _, 0 => throw (.tooDeep mark)
    | .mapping _ _ entries, depth + 1 =>
      finish (← eachEntry d keys (read depth) place start entries)
    | n, _ => if isEmptyScalar n then finish start else wrongKind wanted n

/-- The document value of a scalar. Numbers that are not finite are null. -/
def scalarValue (s : Scalar) : Reader Json :=
  match s with
  | .null => return .null
  | .bool b => return .bool b
  | .integer i =>
    match Number.ofInt? i with
    | some n => return .number n
    | none => failWith .integerTooLarge
  | .real (.finite x) => return .number (.double x)
  | .real _ => return .null
  | .text s => return .string s

/-- What is wanted where any value will do. -/
def anyValue : String := "any valid JSON value"

/-- The value of a node of at most the given depth. Tags of the document's own are refused. -/
def value (d : Document) : Nat → Place → Node → Reader Json
  | depth, place, n => do
    let n ← d.follow n
    located place n.mark do
      match n with
      | .scalar _ tag style s =>
        if (tag.map isLocalTag).getD false then failWith (.unwanted (.kind .tagged anyValue))
        else match scalarOf tag style s with
          | .ok v => scalarValue v
          | .error core => failWith (.unwanted (.value (.text s) core.wanted))
      | .sequence mark tag items =>
        if (tag.map isLocalTag).getD false then failWith (.unwanted (.kind .tagged anyValue))
        else match depth with
          | 0 => throw (.tooDeep mark)
          | depth + 1 => return .array (← eachItem (value d depth) place 0 items)
      | .mapping mark tag entries =>
        if (tag.map isLocalTag).getD false then failWith (.unwanted (.kind .tagged anyValue))
        else match depth with
          | 0 => throw (.tooDeep mark)
          | depth + 1 =>
            let put (acc : List (String × Json)) (key : String) (place : Place) (n : Node) :
                Reader (List (String × Json)) := do
              return Json.insert key (← value d depth place n) acc
            match entries with
            | [] => return .object []
            | (k, v) :: rest =>
              let key ← d.text "a string key" place k
              let acc ← put [] key (under place k) v
              return .object (← eachEntry d "a string" put place acc rest)
      | .alias .. => failWith (.unwanted (.kind .unit anyValue))

/-- The entries of a mapping of values, by key. -/
def entries (d : Document) (depth : Nat) (place : Place) (n : Node) :
    Reader (List (String × Json)) :=
  d.mapping "a map" "a string" []
    (fun depth acc key place n ↦ return Json.insert key (← d.value depth place n) acc)
    pure depth place n

/-- A value that may be missing: a plain scalar that is empty or spells null is none. -/
def valueOrNone (d : Document) (depth : Nat) (place : Place) (n : Node) :
    Reader (Option Json) := do
  let n ← d.follow n
  match n with
  | .scalar _ tag .plain s =>
    match tag with
    | some tag =>
      if coreTag? tag = some .null then
        if isNullWord s then return none
        else failWith (.unwanted (.value (.text s) CoreTag.null.wanted))
      else return some (← d.value depth place n)
    | none =>
      if s.isEmpty || isNullWord s then return none else return some (← d.value depth place n)
  | n => return some (← d.value depth place n)

/-- Reads a field that must not have been read before. -/
def once {α : Type} (name : String) (before : Option α) (read : Reader α) : Reader (Option α) :=
  match before with
  | some _ => failWith (.repeatedField name)
  | none => do return some (← read)

/-- A field that must be there. -/
def required {α : Type} (name : String) : Option α → Reader α
  | some v => return v
  | none => failWith (.missingField name)

/-- Reads a document from its root. -/
def read {α : Type} (d : Document) (reader : Nat → Place → Node → Reader α) : Except Fault α :=
  ((reader nestingLimit [] d.root).run 0).map Prod.fst

end Document

end ClusterProbe.Yaml
