import ClusterProbe.Text.Digit
import ClusterProbe.Yaml.Token

/-!
# The text of scalars

The five ways to write a scalar: plain, in single or double quotes, and as a literal or folded
block. Each function reads one scalar from its first character on and gives the text it stands for
and the cursor behind it; none if the scalar is malformed.
-/

namespace ClusterProbe.Yaml

/-- The blanks and line breaks between two words of a scalar. -/
structure Fold where
  /-- Spaces and tabs before any line break. -/
  blanks : List Char
  /-- The first line break. -/
  first : List Char
  /-- The line breaks after the first. -/
  more : List Char
  /-- Whether there was a line break. -/
  broken : Bool

/-- Nothing between two words. -/
def Fold.none : Fold := ⟨[], [], [], false⟩

/-- What a fold stands for: blanks on one line stand for themselves, one line break for a space,
and more of them for one less. -/
def Fold.text (f : Fold) : List Char :=
  if !f.broken then f.blanks
  else if f.first = ['\n'] then if f.more.isEmpty then [' '] else f.more
  else f.first ++ f.more

/-- Reads blanks and line breaks. A tab that stands on a new line before column `least` is refused.
-/
def readFold (least : Nat) : Nat → Fold → Cursor → Option (Fold × Cursor)
  | 0, _, _ => Option.none
  | fuel + 1, f, c =>
    match c.rest with
    | x :: _ =>
      if isGap x then
        if f.broken then
          if x = '\t' && c.mark.column < least then Option.none
          else readFold least fuel f (c.skip 1)
        else readFold least fuel { f with blanks := f.blanks ++ [x] } (c.skip 1)
      else if isBreak x then
        if f.broken then readFold least fuel { f with more := f.more ++ c.breakText } c.skipBreak
        else readFold least fuel { f with first := c.breakText, broken := true } c.skipBreak
      else some (f, c)
    | [] => some (f, c)

/-- A scalar that has been read. `broken` tells whether a line break was read behind its text. -/
structure ScalarRead where
  text : List Char
  stop : Mark
  cursor : Cursor
  broken : Bool

/-- Whether a text starts with a bracket, brace, comma or question mark. -/
def atFlowIndicator : List Char → Bool
  | c :: _ => [',', '?', '[', ']', '{', '}'].contains c
  | [] => false

/-- The next word of a plain scalar; none if a colon stands in front of a flow indicator. -/
def plainWord (flow : Bool) : List Char → Option (List Char)
  | [] => some []
  | c :: r =>
    if isGap c || isBreak c then some []
    else if flow && c = ':' && atFlowIndicator r then Option.none
    else if c = ':' && atWordEnd r then some []
    else if flow && [',', '[', ']', '{', '}'].contains c then some []
    else (plainWord flow r).map (c :: ·)

/-- A plain scalar goes on over lines that are indented by at least `least`, up to a comment, an
indicator or a document marker. -/
def plainFrom (flow : Bool) (least : Nat) :
    Nat → List Char → Fold → Mark → Cursor → Option ScalarRead
  | 0, _, _, _, _ => Option.none
  | fuel + 1, text, fold, stop, c =>
    if c.atDocumentMarker || c.isAt '#' then some ⟨text, stop, c, fold.broken⟩
    else do
      let word ← plainWord flow c.rest
      let next := c.skip word.length
      let (text, fold, stop) :=
        if word.isEmpty then (text, fold, stop)
        else (text ++ fold.text ++ word, Fold.none, next.mark)
      if atWordEnd next.rest && !next.rest.isEmpty then
        let (fold, after) ← readFold least (fuel + 1) Fold.none next
        if !flow && after.mark.column < least then some ⟨text, stop, after, fold.broken⟩
        else plainFrom flow least fuel text fold stop after
      else some ⟨text, stop, next, fold.broken⟩

/-- A plain scalar. `fuel` is more than the length of the text. -/
def readPlain (fuel : Nat) (flow : Bool) (least : Nat) (c : Cursor) : Option ScalarRead :=
  plainFrom flow least fuel [] Fold.none c.mark c

/-- The character of an escape of one letter in double quotes. -/
def escape? : Char → Option Char
  | '0' => some '\x00'
  | 'a' => some '\x07'
  | 'b' => some '\x08'
  | 't' => some '\t'
  | '\t' => some '\t'
  | 'n' => some '\n'
  | 'v' => some '\x0b'
  | 'f' => some '\x0c'
  | 'r' => some '\r'
  | 'e' => some '\x1b'
  | ' ' => some ' '
  | '\"' => some '\"'
  | '/' => some '/'
  | '\\' => some '\\'
  | 'N' => some '\u0085'
  | '_' => some '\u00a0'
  | 'L' => some '\u2028'
  | 'P' => some '\u2029'
  | _ => none

/-- The number of `n` hexadecimal digits in front of a text. -/
def hexNumber? (n : Nat) (cs : List Char) : Option Nat :=
  let ds := cs.take n
  if ds.length < n then Option.none
  else Text.numberIn? 16 ds

/-- The escape behind a backslash: the character it stands for and its length. -/
def readEscape : List Char → Option (Char × Nat)
  | 'x' :: r => do (← Text.scalarValue? (← hexNumber? 2 r), 3)
  | 'u' :: r => do (← Text.scalarValue? (← hexNumber? 4 r), 5)
  | 'U' :: r => do (← Text.scalarValue? (← hexNumber? 8 r), 9)
  | c :: _ => (escape? c).map (·, 1)
  | [] => Option.none

/-- The characters of a quoted scalar up to a blank, a line break, an escaped line break or the
closing quote. The last part tells whether an escaped line break was passed over. -/
def quotedWord (double : Bool) : Nat → List Char → Cursor → Option (List Char × Bool × Cursor)
  | 0, _, _ => Option.none
  | fuel + 1, text, c =>
    match c.rest with
    | [] => some (text, false, c)
    | x :: r =>
      if isGap x || isBreak x then some (text, false, c)
      else if !double && x = '\'' then
        if r.head? = some '\'' then quotedWord double fuel (text ++ ['\'']) (c.skip 2)
        else some (text, false, c)
      else if double && x = '\"' then some (text, false, c)
      else if double && x = '\\' then
        if !r.isEmpty && atLineEnd r then some (text, true, (c.skip 1).skipBreak)
        else do
          let (y, n) ← readEscape r
          quotedWord double fuel (text ++ [y]) (c.skip (n + 1))
      else quotedWord double fuel (text ++ [x]) (c.skip 1)

/-- The text of a quoted scalar behind its opening quote. -/
def quotedFrom (double : Bool) : Nat → List Char → Cursor → Option ScalarRead
  | 0, _, _ => Option.none
  | fuel + 1, text, c =>
    if c.atDocumentMarker || c.rest.isEmpty then Option.none
    else do
      let (word, escaped, c) ← quotedWord double (fuel + 1) [] c
      let text := text ++ word
      if c.isAt (if double then '\"' else '\'') then
        let c := c.skip 1
        some ⟨text, c.mark, c, false⟩
      else
        let (fold, c) ← readFold 0 (fuel + 1) { Fold.none with broken := escaped } c
        quotedFrom double fuel (text ++ fold.text) c

/-- A scalar in single or double quotes. `fuel` is more than the length of the text. -/
def readQuoted (fuel : Nat) (double : Bool) (c : Cursor) : Option ScalarRead :=
  quotedFrom double fuel [] (c.skip 1)

/-- What becomes of the line breaks that a block scalar ends with. -/
inductive Chomping where
  | strip | clip | keep
deriving DecidableEq

/-- The chomping indicator. -/
def chomping? : Char → Option Chomping
  | '+' => some .keep
  | '-' => some .strip
  | _ => none

/-- The header of a block scalar behind its indicator: chomping and indentation, in either order. -/
def blockHeader (c : Cursor) : Option (Chomping × Option Nat × Cursor) :=
  let digit (c : Cursor) : Option (Option Nat × Cursor) :=
    match c.head? with
    | some d =>
      if d.isDigit then if d = '0' then Option.none else some (some (d.toNat - 48), c.skip 1)
      else some (Option.none, c)
    | Option.none => some (Option.none, c)
  match c.head?.bind chomping? with
  | some ch => do
    let (n, c) ← digit (c.skip 1)
    some (ch, n, c)
  | Option.none => do
    let (n, c) ← digit c
    match n, c.head?.bind chomping? with
    | some n, some ch => some (ch, some n, c.skip 1)
    | n, _ => some (.clip, n, c)

/-- The blank lines in front of the next line of a block scalar: the line breaks, the widest
indentation seen, the place behind the last break and the cursor. Without a known indentation every
space is passed over. -/
def blockBreaks (indent : Option Nat) :
    Nat → List Char → Nat → Mark → Cursor → Option (List Char × Nat × Mark × Cursor)
  | 0, _, _, _, _ => Option.none
  | fuel + 1, breaks, widest, stop, c =>
    let spaces := (c.rest.takeWhile (· = ' ')).length
    let c := c.skip (match indent with
      | some n => min spaces (n - c.mark.column)
      | Option.none => spaces)
    let widest := max widest c.mark.column
    let inside := match indent with
      | some n => c.mark.column < n
      | Option.none => true
    if inside && c.isAt '\t' then Option.none
    else if (c.head?.map isBreak).getD false then
      let next := c.skipBreak
      blockBreaks indent fuel (breaks ++ c.breakText) widest next.mark next
    else some (breaks, widest, stop, c)

/-- The lines of a block scalar that are indented by `indent`. The line break before a line is kept
in `lead` until it is known whether the next line follows or the scalar ends. -/
def blockLines (literal : Bool) (indent : Nat) :
    Nat → List Char → List Char → List Char → Bool → Mark → Cursor →
      Option (List Char × List Char × List Char × Mark × Cursor)
  | 0, _, _, _, _, _, _ => Option.none
  | fuel + 1, text, lead, breaks, blankBefore, stop, c =>
    if c.mark.column = indent && !c.rest.isEmpty then do
      let blank := (c.head?.map isGap).getD false
      let joint :=
        if !literal && lead = ['\n'] && !blankBefore && !blank then
          if breaks.isEmpty then [' '] else breaks
        else lead ++ breaks
      let (line, c) := c.takeWhile (!isBreak ·)
      let lead := c.breakText
      let c := c.skipBreak?
      let (breaks, _, stop, c) ← blockBreaks (some indent) (fuel + 1) [] 0 c.mark c
      blockLines literal indent fuel (text ++ joint ++ line) lead breaks blank stop c
    else some (text, lead, breaks, stop, c)

/-- A block scalar inside a block that is indented by `outer`. `fuel` is more than the length of the
text. -/
def readBlock (fuel : Nat) (literal : Bool) (outer : Int) (c : Cursor) : Option ScalarRead := do
  let (chomping, increment, c) ← blockHeader (c.skip 1)
  let c ← c.endLine?
  let known := increment.map fun n ↦ (if 0 ≤ outer then outer + n else (n : Int)).toNat
  let (breaks, widest, stop, c) ← blockBreaks known fuel [] 0 c.mark c
  let indent := known.getD (max widest (max (outer + 1) 1).toNat)
  let (text, lead, breaks, stop, c) ←
    blockLines literal indent fuel [] [] breaks false stop c
  let text := match chomping with
    | .strip => text
    | .clip => text ++ lead
    | .keep => text ++ lead ++ breaks
  some ⟨text, stop, c, false⟩

end ClusterProbe.Yaml
