/-!
# A place in a document's text

Marks count characters and lines; a cursor is a mark together with the text behind it. Characters
are sorted into the classes of the document syntax here, once for all of it.
-/

namespace ClusterProbe.Yaml

/-- A place in a text: characters before it, line breaks before it, characters since the last line
break. -/
structure Mark where
  index : Nat
  line : Nat
  column : Nat
deriving DecidableEq

/-- The place of the first character. -/
def Mark.origin : Mark := ⟨0, 0, 0⟩

/-- A space or a tab. -/
def isGap (c : Char) : Bool := c = ' ' || c = '\t'

/-- A character that ends a line. -/
def isBreak (c : Char) : Bool :=
  c = '\n' || c = '\r' || c = '\u0085' || c = '\u2028' || c = '\u2029'

/-- A letter, digit, hyphen or underscore of ASCII. -/
def isWordChar (c : Char) : Bool := c.isAlphanum || c = '-' || c = '_'

/-- Whether a text starts with a line break or is at its end. -/
def atLineEnd : List Char → Bool
  | [] => true
  | c :: _ => isBreak c

/-- Whether a text starts with a space, a tab or a line break, or is at its end. -/
def atWordEnd : List Char → Bool
  | [] => true
  | c :: _ => isGap c || isBreak c

/-- The characters that a document may hold unescaped. -/
def isPermitted (c : Char) : Bool :=
  let n := c.toNat
  n == 0x09 || n == 0x0A || n == 0x0D || (0x20 ≤ n && n ≤ 0x7E) || n == 0x85 ||
    (0xA0 ≤ n && n ≤ 0xD7FF) || (0xE000 ≤ n && n ≤ 0xFFFD) || 0x10000 ≤ n

/-- A place and the text behind it. -/
structure Cursor where
  rest : List Char
  mark : Mark

namespace Cursor

/-- The next character. -/
def head? (c : Cursor) : Option Char := c.rest.head?

/-- Whether the next character is `x`. -/
def isAt (c : Cursor) (x : Char) : Bool := c.rest.head? == some x

/-- Passes over `n` characters of one line. -/
def skip (n : Nat) (c : Cursor) : Cursor :=
  ⟨c.rest.drop n, { c.mark with index := c.mark.index + n, column := c.mark.column + n }⟩

/-- Passes over a line break; carriage return and line feed are one. -/
def skipBreak (c : Cursor) : Cursor :=
  let next (n : Nat) : Mark := ⟨c.mark.index + n, c.mark.line + 1, 0⟩
  match c.rest with
  | '\r' :: '\n' :: r => ⟨r, next 2⟩
  | _ :: r => ⟨r, next 1⟩
  | [] => c

/-- What a line break stands for in a text: a line feed, except for the two separators of Unicode,
which stand for themselves. -/
def breakText (c : Cursor) : List Char :=
  match c.rest with
  | x :: _ =>
    if x = '\u2028' || x = '\u2029' then [x] else if isBreak x then ['\n'] else []
  | [] => []

/-- Passes over a line break if there is one. -/
def skipBreak? (c : Cursor) : Cursor :=
  if (c.rest.head?.map isBreak).getD false then c.skipBreak else c

/-- The longest stretch of characters of a class, and the cursor behind it. -/
def takeWhile (p : Char → Bool) (c : Cursor) : List Char × Cursor :=
  let taken := c.rest.takeWhile p
  (taken, c.skip taken.length)

/-- The cursor behind the longest stretch of characters of a class. -/
def skipWhile (p : Char → Bool) (c : Cursor) : Cursor := (c.takeWhile p).2

/-- The cursor behind spaces and tabs. -/
def skipGaps (c : Cursor) : Cursor := c.skipWhile isGap

/-- The cursor behind a comment, if it stands at one. -/
def skipComment (c : Cursor) : Cursor :=
  if c.isAt '#' then c.skipWhile (!isBreak ·) else c

/-- The cursor behind spaces, tabs and a comment that end a line; none if something else follows. -/
def endLine? (c : Cursor) : Option Cursor :=
  let c := c.skipGaps.skipComment
  if atLineEnd c.rest then some c.skipBreak? else none

/-- Whether the cursor stands at the start of a line that holds only a document marker of three
characters, or starts with one. -/
def atMarker (c : Cursor) (x : Char) : Bool :=
  c.mark.column = 0 &&
    match c.rest with
    | a :: b :: d :: r => a = x && b = x && d = x && atWordEnd r
    | _ => false

/-- Whether the cursor stands at either document marker. -/
def atDocumentMarker (c : Cursor) : Bool := c.atMarker '-' || c.atMarker '.'

end Cursor

end ClusterProbe.Yaml
