import ClusterProbe.Yaml.Lexer
import ClusterProbe.Yaml.Node

/-!
# From tokens to a document

The grammar of documents, read by descent: every function consumes the tokens of one construct and
gives its tree, or none. A text is accepted if it holds exactly one document.
-/

namespace ClusterProbe.Yaml

/-- What has been read of a document so far. -/
structure Progress where
  tokens : List Token
  /-- The handles that tags may have, and what each stands for. -/
  handles : List (String × String)
  /-- The number that each anchor's name has now. -/
  names : List (String × Nat)
  /-- How many anchors have been set. -/
  count : Nat
  anchors : List Anchored

/-- A reading of the tokens in front. -/
abbrev Parse (α : Type) := StateT Progress Option α

namespace Parse

/-- Refuses the document. -/
def refuse {α : Type} : Parse α := fun _ ↦ none

/-- The next token. -/
def peek : Parse Token := fun s ↦
  match s.tokens with
  | t :: _ => some (t, s)
  | [] => none

/-- Passes over the next token. -/
def advance : Parse Unit := fun s ↦ some ((), { s with tokens := s.tokens.tail })

/-- Gives a name a number. A name that is new gets the number of names before it; one that is known
gets the number of names. -/
def setAnchor (name : String) : Parse Nat := fun s ↦
  let number := s.names.length
  some (number,
    { s with names := (name, number) :: s.names.filter (·.1 ≠ name), count := s.count + 1 })

/-- The number that an alias names. -/
def numberOf (name : String) : Parse Nat := fun s ↦
  (s.names.find? (·.1 = name)).map fun e ↦ (e.2, s)

/-- The tag that a handle and a suffix stand for. -/
def resolveTag (handle suffix : String) : Parse String := fun s ↦
  if handle.isEmpty then some (suffix, s)
  else (s.handles.find? (·.1 = handle)).map fun e ↦ (e.2 ++ suffix, s)

end Parse

open Parse

/-- The name of an anchor, if one comes next. -/
def anchorNext : Parse (Option String) := do
  match (← peek).lexeme with
  | .anchor name => advance; return some name
  | _ => return none

/-- A tag, if one comes next. -/
def tagNext : Parse (Option String) := do
  match (← peek).lexeme with
  | .tag handle suffix => advance; return some (← resolveTag handle suffix)
  | _ => return none

/-- Anchor and tag of a node, in either order. -/
def properties : Parse (Option String × Option String) := do
  match ← anchorNext with
  | some name => return (some name, ← tagNext)
  | none =>
    match ← tagNext with
    | some tag => return (← anchorNext, some tag)
    | none => return (none, none)

/-- Reads a node and lets its anchor, if it has one, stand for it; the anchor has its number before
the node is read. -/
def anchored (anchor : Option String) (read : Parse Node) : Parse Node :=
  match anchor with
  | none => read
  | some name => do
    let number ← setAnchor name
    let rank := (← get).count
    let node ← read
    modify fun s ↦ { s with anchors := ⟨number, rank, node⟩ :: s.anchors }
    return node

/-- The lexemes that stand where an item of a block is missing. -/
def endsItem : Lexeme → Bool
  | .blockEntry | .blockEnd => true
  | _ => false

/-- The lexemes that stand where an item of a sequence without indentation is missing. -/
def endsIndentlessItem : Lexeme → Bool
  | .blockEntry | .key | .value | .blockEnd => true
  | _ => false

/-- The lexemes that stand where a key or a value of a block is missing. -/
def endsBlockPart : Lexeme → Bool
  | .key | .value | .blockEnd => true
  | _ => false

/-- The lexemes that stand where a part of a pair inside square brackets is missing. -/
def endsPairValue : Lexeme → Bool
  | .flowEntry | .flowSequenceEnd => true
  | _ => false

/-- The lexemes that stand where a part of an entry inside braces is missing. -/
def endsFlowValue : Lexeme → Bool
  | .flowEntry | .flowMappingEnd => true
  | _ => false

mutual

/-- A node. Collections in block notation are read only if `block`, and a sequence that is not
indented further than the mapping around it only if `indentless`. -/
def node : Nat → Bool → Bool → Parse Node
  | 0, _, _ => refuse
  | fuel + 1, block, indentless => do
    let first ← peek
    match first.lexeme with
    | .alias name =>
      advance
      return .alias first.start (← numberOf name)
    | _ =>
      let (anchor, tag) ← properties
      let token ← peek
      let start := first.start
      anchored anchor do
        match token.lexeme with
        | .scalar style text =>
          advance
          return .scalar start tag style text
        | .flowSequenceStart =>
          advance
          return .sequence start tag (← flowItems fuel true [])
        | .flowMappingStart =>
          advance
          return .mapping start tag (← flowEntries fuel true [])
        | .blockEntry =>
          if indentless then return .sequence start tag (← indentlessItems fuel [])
          else if anchor.isSome || tag.isSome then return .scalar start tag .plain ""
          else refuse
        | .blockSequenceStart =>
          if block then
            advance
            return .sequence start tag (← blockItems fuel [])
          else if anchor.isSome || tag.isSome then return .scalar start tag .plain ""
          else refuse
        | .blockMappingStart =>
          if block then
            advance
            return .mapping start tag (← blockEntries fuel [])
          else if anchor.isSome || tag.isSome then return .scalar start tag .plain ""
          else refuse
        | _ =>
          if anchor.isSome || tag.isSome then return .scalar start tag .plain "" else refuse

/-- The items of an indented sequence; `acc` holds the items before, last one first. -/
def blockItems : Nat → List Node → Parse (List Node)
  | 0, _ => refuse
  | fuel + 1, acc => do
    let token ← peek
    match token.lexeme with
    | .blockEntry =>
      advance
      if endsItem (← peek).lexeme then blockItems fuel (.absent token.stop :: acc)
      else blockItems fuel ((← node fuel true false) :: acc)
    | .blockEnd =>
      advance
      return acc.reverse
    | _ => refuse

/-- The items of a sequence without indentation of its own. -/
def indentlessItems : Nat → List Node → Parse (List Node)
  | 0, _ => refuse
  | fuel + 1, acc => do
    let token ← peek
    match token.lexeme with
    | .blockEntry =>
      advance
      if endsIndentlessItem (← peek).lexeme then indentlessItems fuel (.absent token.stop :: acc)
      else indentlessItems fuel ((← node fuel true false) :: acc)
    | _ => return acc.reverse

/-- The entries of a mapping in block notation. -/
def blockEntries : Nat → List (Node × Node) → Parse (List (Node × Node))
  | 0, _ => refuse
  | fuel + 1, acc => do
    let token ← peek
    match token.lexeme with
    | .key =>
      advance
      let key ← if endsBlockPart (← peek).lexeme then pure (.absent token.stop)
        else node fuel true true
      let mid ← peek
      match mid.lexeme with
      | .value =>
        advance
        let value ← if endsBlockPart (← peek).lexeme then pure (.absent mid.stop)
          else node fuel true true
        blockEntries fuel ((key, value) :: acc)
      | _ => blockEntries fuel ((key, .absent mid.start) :: acc)
    | .blockEnd =>
      advance
      return acc.reverse
    | _ => refuse

/-- The items between square brackets. A pair among them is a mapping of one entry. -/
def flowItems : Nat → Bool → List Node → Parse (List Node)
  | 0, _, _ => refuse
  | fuel + 1, first, acc => do
    let token ← peek
    if token.lexeme = .flowSequenceEnd then
      advance
      return acc.reverse
    else
      if !first then
        if token.lexeme = .flowEntry then advance else refuse
      let token ← peek
      match token.lexeme with
      | .key =>
        advance
        flowItems fuel false (.mapping token.start none [← pair fuel] :: acc)
      | .flowSequenceEnd =>
        advance
        return acc.reverse
      | _ => flowItems fuel false ((← node fuel false false) :: acc)

/-- A pair between square brackets, behind what marks its key. Where the key is missing the token in
its place is passed over. -/
def pair : Nat → Parse (Node × Node)
  | 0 => refuse
  | fuel + 1 => do
    let token ← peek
    let missing := token.lexeme = .value || endsPairValue token.lexeme
    let key ← if missing then do advance; pure (.absent token.stop) else node fuel false false
    let mid ← peek
    if mid.lexeme = .value then
      advance
      let token ← peek
      if endsPairValue token.lexeme then return (key, .absent token.start)
      else return (key, ← node fuel false false)
    else return (key, .absent mid.start)

/-- The entries between braces. -/
def flowEntries : Nat → Bool → List (Node × Node) → Parse (List (Node × Node))
  | 0, _, _ => refuse
  | fuel + 1, first, acc => do
    let token ← peek
    if token.lexeme = .flowMappingEnd then
      advance
      return acc.reverse
    else
      if !first then
        if token.lexeme = .flowEntry then advance else refuse
      let token ← peek
      match token.lexeme with
      | .key =>
        advance
        let token ← peek
        let missing := token.lexeme = .value || endsFlowValue token.lexeme
        let key ← if missing then pure (.absent token.start) else node fuel false false
        let mid ← peek
        if mid.lexeme = .value then
          advance
          let token ← peek
          let value ← if endsFlowValue token.lexeme then pure (.absent token.start)
            else node fuel false false
          flowEntries fuel false ((key, value) :: acc)
        else flowEntries fuel false ((key, .absent mid.start) :: acc)
      | .flowMappingEnd =>
        advance
        return acc.reverse
      | _ =>
        let key ← node fuel false false
        let after ← peek
        flowEntries fuel false ((key, .absent after.start) :: acc)

end

/-- The directives in front of a document. There is at most one version, 1.1 or 1.2, and a handle is
given at most once. -/
def directives : Nat → Bool → Parse Unit
  | 0, _ => refuse
  | fuel + 1, versioned => do
    match (← peek).lexeme with
    | .versionDirective major minor =>
      if versioned || major ≠ 1 || (minor ≠ 1 && minor ≠ 2) then refuse
      else
        advance
        directives fuel true
    | .tagDirective handle lead =>
      if (← get).handles.any (·.1 = handle) then refuse
      else
        advance
        modify fun s ↦ { s with handles := s.handles ++ [(handle, lead)] }
        directives fuel versioned
    | _ => return ()

/-- The handles that need no directive. -/
def standardHandles : List (String × String) := [("!", "!"), ("!!", "tag:yaml.org,2002:")]

/-- The lexemes that show that an explicit document is empty. -/
def endsDocument : Lexeme → Bool
  | .versionDirective .. | .tagDirective .. | .documentStart | .documentEnd | .streamEnd => true
  | _ => false

/-- Whether a document starts with directives or a marker. -/
def isExplicit : Lexeme → Bool
  | .versionDirective .. | .tagDirective .. | .documentStart => true
  | _ => false

/-- The markers that end a document. -/
def documentEnds : Nat → Parse Unit
  | 0 => refuse
  | fuel + 1 => do
    if (← peek).lexeme = .documentEnd then
      advance
      documentEnds fuel
    else return ()

/-- Exactly one document. A text without one holds a missing scalar. -/
def wholeDocument (fuel : Nat) : Parse Node := do
  let token ← peek
  if token.lexeme = .streamEnd then return .absent token.start
  else
    let root ←
      if isExplicit token.lexeme then do
        directives fuel false
        modify fun s ↦ { s with handles := s.handles ++ standardHandles }
        if (← peek).lexeme ≠ .documentStart then refuse
        else
          advance
          let token ← peek
          if endsDocument token.lexeme then pure (.absent token.start) else node fuel true false
      else do
        modify fun s ↦ { s with handles := standardHandles }
        node fuel true false
    documentEnds fuel
    if (← peek).lexeme = .streamEnd then return root else refuse

/-- The document that a text holds; none if the text does not hold exactly one. -/
def Document.ofText? (s : String) : Option Document := do
  let tokens ← tokens s.toList
  let (root, end_) ← (wholeDocument (4 * tokens.length + 8)).run ⟨tokens, [], [], 0, []⟩
  some ⟨root, end_.anchors⟩

end ClusterProbe.Yaml
