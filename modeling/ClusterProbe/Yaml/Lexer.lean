import ClusterProbe.Yaml.Property
import ClusterProbe.Yaml.Text

/-!
# From text to tokens

The lexer walks over a text once. Indentation is kept as the columns of the open blocks, and a
block's start and end become tokens. A node in front of a colon turns out to be a key only when the
colon is reached; until then it is remembered, and the tokens that make it a key are put in front of
it afterwards. Such a key must stand on one line and be no longer than 1024 characters.
-/

namespace ClusterProbe.Yaml

/-- A node that may turn out to be a key: whether it has to, the number of tokens before it, and
its place. -/
structure PossibleKey where
  required : Bool
  position : Nat
  mark : Mark

/-- The state of the lexer. `keys` has an entry for every open bracket, and one for the blocks
around them. -/
structure Lexer where
  /-- More than the length of the whole text. -/
  fuel : Nat
  cursor : Cursor
  tokens : Array Token
  indent : Int
  outerIndents : List Int
  keys : List (Option PossibleKey)
  keyAllowed : Bool

namespace Lexer

/-- The lexer in front of a text. -/
def start (cs : List Char) : Lexer :=
  ⟨cs.length + 1, ⟨cs, Mark.origin⟩, #[], -1, [], [none], true⟩

/-- Whether a bracket is open. -/
def inFlow (l : Lexer) : Bool := 1 < l.keys.length

/-- The place of the lexer. -/
def mark (l : Lexer) : Mark := l.cursor.mark

/-- The column of the lexer, to be compared with an indentation. -/
def column (l : Lexer) : Int := l.cursor.mark.column

/-- Adds a token. -/
def emit (lexeme : Lexeme) (start stop : Mark) (l : Lexer) : Lexer :=
  { l with tokens := l.tokens.push ⟨lexeme, start, stop⟩ }

/-- Adds a token of no extent in front of the `position`-th one. -/
def emitAt (position : Nat) (lexeme : Lexeme) (mark : Mark) (l : Lexer) : Lexer :=
  { l with
    tokens := l.tokens.extract 0 position ++ #[⟨lexeme, mark, mark⟩] ++
      l.tokens.extract position l.tokens.size }

/-- Adds a token of the next `n` characters and passes over them. -/
def emitNext (n : Nat) (lexeme : Lexeme) (l : Lexer) : Lexer :=
  let after := l.cursor.skip n
  { l.emit lexeme l.mark after.mark with cursor := after }

/-- Gives up the node that might have become a key on this level; none if it had to. -/
def dropKey (l : Lexer) : Option Lexer :=
  match l.keys with
  | some k :: ks => if k.required then none else some { l with keys := none :: ks }
  | _ => some l

/-- Remembers that the next token may become a key. In a block it has to if it is the first one at
the block's indentation. -/
def saveKey (l : Lexer) : Option Lexer :=
  if l.keyAllowed then do
    let required := !l.inFlow && l.indent == l.column
    let key : PossibleKey := ⟨required, l.tokens.size, l.mark⟩
    let l ← l.dropKey
    some { l with keys := some key :: l.keys.tail }
  else some l

/-- Whether a node can no longer become a key at a place. -/
def PossibleKey.expired (now : Mark) (k : PossibleKey) : Bool :=
  k.mark.line < now.line || k.mark.index + 1024 < now.index

/-- Gives up every node that can no longer become a key. -/
def expireKeys (l : Lexer) : Option Lexer := do
  let keys ← l.keys.mapM fun key ↦
    match key with
    | some k =>
      if PossibleKey.expired l.mark k then if k.required then none else some none
      else some (some k)
    | none => some none
  some { l with keys := keys }

/-- Closes the blocks that are indented by more than a column. -/
def closeBlocks (column : Int) (l : Lexer) : List Int → Lexer
  | [] => l
  | outer :: rest =>
    if column < l.indent then
      closeBlocks column
        { l.emit .blockEnd l.mark l.mark with indent := outer, outerIndents := rest } rest
    else l

/-- Closes the blocks that are indented by more than a column; inside brackets nothing is closed. -/
def unroll (column : Int) (l : Lexer) : Lexer :=
  if l.inFlow then l else closeBlocks column l l.outerIndents

/-- Opens a block at a column if it is indented by more than the one around it. -/
def roll (column : Nat) (position : Nat) (lexeme : Lexeme) (mark : Mark) (l : Lexer) : Lexer :=
  if !l.inFlow && l.indent < column then
    { l.emitAt position lexeme mark with
      indent := column, outerIndents := l.indent :: l.outerIndents }
  else l

/-- Passes over blanks, comments and line breaks in front of the next token. A tab counts as a blank
only where no indentation is. -/
def skipToToken : Nat → Lexer → Lexer
  | 0, l => l
  | fuel + 1, l =>
    let c := l.cursor
    let c := if c.mark.index = 0 && c.isAt '\uFEFF' then c.skip 1 else c
    let tabs := l.inFlow || !l.keyAllowed
    let c := (c.skipWhile fun x ↦ x = ' ' || (tabs && x = '\t')).skipComment
    if (c.head?.map isBreak).getD false then
      skipToToken fuel
        { l with cursor := c.skipBreak, keyAllowed := l.keyAllowed || !l.inFlow }
    else { l with cursor := c }

/-- The end of the text closes every block. -/
def atEnd (l : Lexer) : Option Lexer := do
  let m := l.mark
  let m := if m.column = 0 then m else { m with line := m.line + 1, column := 0 }
  let l := { l with cursor := { l.cursor with mark := m } }
  let l ← (l.unroll (-1)).dropKey
  some ({ l with keyAllowed := false }.emit .streamEnd m m)

/-- A directive. -/
def directive (l : Lexer) : Option Lexer := do
  let l ← (l.unroll (-1)).dropKey
  let (d, stop, after) ← readDirective l.fuel l.cursor
  let lexeme := match d with
    | .version major minor => Lexeme.versionDirective major minor
    | .tag handle lead => Lexeme.tagDirective handle lead
  some { l.emit lexeme l.mark stop with cursor := after, keyAllowed := false }

/-- A line of three hyphens or three points. -/
def documentMarker (lexeme : Lexeme) (l : Lexer) : Option Lexer := do
  let l ← (l.unroll (-1)).dropKey
  some ({ l with keyAllowed := false }.emitNext 3 lexeme)

/-- An opening bracket or brace. -/
def flowStart (lexeme : Lexeme) (l : Lexer) : Option Lexer := do
  let l ← l.saveKey
  some ({ l with keys := none :: l.keys, keyAllowed := true }.emitNext 1 lexeme)

/-- A closing bracket or brace. -/
def flowEnd (lexeme : Lexeme) (l : Lexer) : Option Lexer := do
  let l ← l.dropKey
  let keys := if l.inFlow then l.keys.tail else l.keys
  some ({ l with keys := keys, keyAllowed := false }.emitNext 1 lexeme)

/-- A comma between items. -/
def flowEntry (l : Lexer) : Option Lexer := do
  let l ← l.dropKey
  some ({ l with keyAllowed := true }.emitNext 1 .flowEntry)

/-- The hyphen in front of an item. -/
def blockEntry (l : Lexer) : Option Lexer := do
  if !l.inFlow && !l.keyAllowed then none
  else
    let l := l.roll l.mark.column l.tokens.size .blockSequenceStart l.mark
    let l ← l.dropKey
    some ({ l with keyAllowed := true }.emitNext 1 .blockEntry)

/-- The question mark in front of a key. -/
def explicitKey (l : Lexer) : Option Lexer := do
  if !l.inFlow && !l.keyAllowed then none
  else
    let l := l.roll l.mark.column l.tokens.size .blockMappingStart l.mark
    let l ← l.dropKey
    some ({ l with keyAllowed := !l.inFlow }.emitNext 1 .key)

/-- The colon behind a key. If a node before it may be one, it becomes the key. -/
def value (l : Lexer) : Option Lexer :=
  match l.keys with
  | some k :: ks =>
    let l := { l with keys := none :: ks, keyAllowed := false }
    let l := l.emitAt k.position .key k.mark
    let l := l.roll k.mark.column k.position .blockMappingStart k.mark
    some (l.emitNext 1 .value)
  | _ =>
    if !l.inFlow && !l.keyAllowed then none
    else
      let l := l.roll l.mark.column l.tokens.size .blockMappingStart l.mark
      some ({ l with keyAllowed := !l.inFlow }.emitNext 1 .value)

/-- An alias or an anchor. -/
def named (make : String → Lexeme) (l : Lexer) : Option Lexer := do
  let l ← l.saveKey
  let (name, after) ← readName l.cursor
  some { l.emit (make name) l.mark after.mark with cursor := after, keyAllowed := false }

/-- A tag. -/
def tag (l : Lexer) : Option Lexer := do
  let l ← l.saveKey
  let (handle, suffix, after) ← readTag l.fuel l.inFlow l.cursor
  some { l.emit (.tag handle suffix) l.mark after.mark with cursor := after, keyAllowed := false }

/-- Adds the token of a scalar that has been read. -/
def emitScalar (style : Style) (s : ScalarRead) (l : Lexer) : Lexer :=
  { l.emit (.scalar style (String.ofList s.text)) l.mark s.stop with cursor := s.cursor }

/-- A block scalar, which is never a key. -/
def blockScalar (literal : Bool) (l : Lexer) : Option Lexer := do
  let l ← l.dropKey
  let s ← readBlock l.fuel literal l.indent l.cursor
  some { l.emitScalar (if literal then .literal else .folded) s with keyAllowed := true }

/-- A quoted scalar. -/
def quotedScalar (double : Bool) (l : Lexer) : Option Lexer := do
  let l ← l.saveKey
  let s ← readQuoted l.fuel double l.cursor
  some { l.emitScalar (if double then .doubleQuoted else .singleQuoted) s with keyAllowed := false }

/-- A plain scalar. Behind a line break the next token may be a key again. -/
def plainScalar (l : Lexer) : Option Lexer := do
  let l ← l.saveKey
  let s ← readPlain l.fuel l.inFlow (l.indent + 1).toNat l.cursor
  some { l.emitScalar .plain s with keyAllowed := s.broken }

/-- The characters that no plain scalar starts with. -/
def isIndicator (c : Char) : Bool :=
  ['-', '?', ':', ',', '[', ']', '{', '}', '#', '&', '*', '!', '|', '>', '\'', '\"', '%', '@',
    '\x60'].contains c

/-- Whether a plain scalar starts here, for a text that starts with `x` and goes on with `r`. -/
def startsPlain (flow : Bool) (x : Char) (r : List Char) : Bool :=
  !(isGap x || isBreak x || isIndicator x) ||
    (x = '-' && !(r.head?.map isGap).getD false) ||
    (!flow && (x = '?' || x = ':') && !atWordEnd r)

/-- The token that starts at the place of the lexer, told by its first characters. -/
def token (l : Lexer) : Option Lexer :=
  match l.cursor.rest with
  | [] => l.atEnd
  | x :: r =>
    let first := l.mark.column = 0
    let flow := l.inFlow
    let separate := flow || atWordEnd r
    if first && x = '%' then l.directive
    else if l.cursor.atMarker '-' then l.documentMarker .documentStart
    else if l.cursor.atMarker '.' then l.documentMarker .documentEnd
    else if x = '[' then l.flowStart .flowSequenceStart
    else if x = '{' then l.flowStart .flowMappingStart
    else if x = ']' then l.flowEnd .flowSequenceEnd
    else if x = '}' then l.flowEnd .flowMappingEnd
    else if x = ',' then l.flowEntry
    else if x = '-' && atWordEnd r then l.blockEntry
    else if x = '?' && separate then l.explicitKey
    else if x = ':' && separate then l.value
    else if x = '*' then l.named .alias
    else if x = '&' then l.named .anchor
    else if x = '!' then l.tag
    else if x = '|' && !flow then l.blockScalar true
    else if x = '>' && !flow then l.blockScalar false
    else if x = '\'' then l.quotedScalar false
    else if x = '\"' then l.quotedScalar true
    else if startsPlain flow x r then l.plainScalar
    else none

/-- The next token. Keys that can no longer become keys are given up in front of it, and blocks that
it is not in are closed. -/
def next (l : Lexer) : Option Lexer := do
  let l ← (l.skipToToken l.fuel).expireKeys
  (l.unroll l.column).token

/-- Whether the last token ends the text. -/
def finished (l : Lexer) : Bool := l.tokens.back?.map Token.lexeme == some .streamEnd

/-- Reads token after token up to the end of the text. -/
def run : Nat → Lexer → Option (List Token)
  | 0, _ => none
  | fuel + 1, l => do
    let l ← l.next
    if l.finished then some l.tokens.toList else run fuel l

end Lexer

/-- The tokens of a text; none if it is malformed. A byte order mark in front is passed over. -/
def tokens (cs : List Char) : Option (List Token) :=
  let cs := match cs with
    | c :: r => if c = '\uFEFF' then r else c :: r
    | [] => []
  if cs.all isPermitted then (Lexer.start cs).run (cs.length + 2) else none

end ClusterProbe.Yaml
