import ClusterProbe.Text.Digit
import ClusterProbe.Yaml.Cursor

/-!
# Anchors, tags and directives

The parts of a document that say something about a node or about the document: names of anchors,
handles and suffixes of tags, and the two directives. Each function gives none if the part is
malformed.
-/

namespace ClusterProbe.Yaml

/-- The characters that may stand directly behind the name of an anchor, blanks apart. -/
def endsName (c : Char) : Bool := ['?', ':', ',', ']', '}', '%', '@', '\x60'].contains c

/-- The name of an anchor or alias behind its indicator. -/
def readName (c : Cursor) : Option (String × Cursor) :=
  let (name, c) := (c.skip 1).takeWhile isWordChar
  if name.isEmpty then none
  else if atWordEnd c.rest || (c.head?.map endsName).getD false then some (String.ofList name, c)
  else none

/-- The characters of a tag besides those of words; brackets and commas only where `all`. -/
def isTagChar (all : Bool) (c : Char) : Bool :=
  isWordChar c ||
    [';', '/', '?', ':', '@', '&', '=', '+', '$', '.', '!', '~', '*', '\'', '(', ')'].contains c ||
    (all && [',', '[', ']'].contains c)

/-- One escaped octet of a tag. -/
def escapedOctet? : List Char → Option (Nat × List Char)
  | '%' :: a :: b :: r => do
    let a ← Text.digitIn? 16 a
    let b ← Text.digitIn? 16 b
    some (a * 16 + b, r)
  | _ => none

/-- The number of octets of a character, by its first one. -/
def octetCount? (octet : Nat) : Option Nat :=
  if octet < 0x80 then some 1
  else if octet / 0x20 = 6 then some 2
  else if octet / 0x10 = 14 then some 3
  else if octet / 0x08 = 30 then some 4
  else none

/-- The octets of one character that follow its first one. -/
def escapedTail? : Nat → Nat → List Char → Option (Nat × List Char)
  | 0, bits, cs => some (bits, cs)
  | n + 1, bits, cs => do
    let (octet, r) ← escapedOctet? cs
    if octet / 0x40 = 2 then escapedTail? n (bits * 0x40 + octet % 0x40) r else none

/-- One character of a tag written as escaped octets, and the length of its escapes. -/
def escapedChar? (cs : List Char) : Option (Char × Nat) := do
  let (first, r) ← escapedOctet? cs
  let n ← octetCount? first
  let bits := if n = 1 then first else first % Nat.pow 2 (7 - n)
  let (bits, _) ← escapedTail? (n - 1) bits r
  some (Char.ofNat bits, 3 * n)

/-- The text of a tag as long as its characters go. -/
def tagText (all : Bool) : Nat → List Char → Cursor → Option (List Char × Cursor)
  | 0, _, _ => none
  | fuel + 1, text, c =>
    match c.head? with
    | some x =>
      if x = '%' then do
        let (y, n) ← escapedChar? c.rest
        tagText all fuel (text ++ [y]) (c.skip n)
      else if isTagChar all x then tagText all fuel (text ++ [x]) (c.skip 1)
      else some (text, c)
    | none => some (text, c)

/-- The handle of a tag: an exclamation mark, and a word between two of them. A word that no second
mark follows is no handle; in a directive that is refused. -/
def readHandle (directive : Bool) (c : Cursor) : Option (List Char × Cursor) :=
  if !c.isAt '!' then none
  else
    let (word, c) := (c.skip 1).takeWhile isWordChar
    if c.isAt '!' then some ('!' :: word ++ ['!'], c.skip 1)
    else if directive && !word.isEmpty then none
    else some ('!' :: word, c)

/-- Handle and suffix of a tag. A verbatim tag and the mark alone have no handle. `fuel` is more
than the length of the text. -/
def readTagParts (fuel : Nat) (c : Cursor) : Option (List Char × List Char × Cursor) := do
  if c.rest[1]? = some '<' then
    let (suffix, c) ← tagText true fuel [] (c.skip 2)
    if suffix.isEmpty || !c.isAt '>' then none else some ([], suffix, c.skip 1)
  else
    let (handle, c) ← readHandle false c
    if 2 ≤ handle.length && handle.getLast? = some '!' then
      let (suffix, c) ← tagText false fuel [] c
      if suffix.isEmpty then none else some (handle, suffix, c)
    else
      let (suffix, c) ← tagText false fuel (handle.drop 1) c
      if suffix.isEmpty then some ([], ['!'], c) else some (['!'], suffix, c)

/-- A tag; inside brackets a comma may follow it directly. -/
def readTag (fuel : Nat) (flow : Bool) (c : Cursor) : Option (String × String × Cursor) := do
  let (handle, suffix, c) ← readTagParts fuel c
  if atWordEnd c.rest || (flow && c.isAt ',') then
    some (String.ofList handle, String.ofList suffix, c)
  else none

/-- The part of a version before or behind its point: at most nine digits. -/
def readVersionPart (c : Cursor) : Option (Nat × Cursor) :=
  let (ds, c) := c.takeWhile Char.isDigit
  if ds.isEmpty || 9 < ds.length then none
  else some (ds.foldl (fun n d ↦ n * 10 + (d.toNat - 48)) 0, c)

/-- A directive. -/
inductive Directive where
  | version (major minor : Nat)
  | tag (handle lead : String)

/-- A directive behind its percent sign, up to the end of its line. -/
def readDirective (fuel : Nat) (c : Cursor) : Option (Directive × Mark × Cursor) := do
  let (name, c) := (c.skip 1).takeWhile isWordChar
  if name.isEmpty || !atWordEnd c.rest then none
  else if name = ['Y', 'A', 'M', 'L'] then
    let (major, c) ← readVersionPart c.skipGaps
    if !c.isAt '.' then none
    else
      let (minor, c) ← readVersionPart (c.skip 1)
      let after ← c.endLine?
      some (.version major minor, c.mark, after)
  else if name = ['T', 'A', 'G'] then
    let (handle, c) ← readHandle true c.skipGaps
    if !(c.head?.map isGap).getD false then none
    else
      let (lead, c) ← tagText true fuel [] c.skipGaps
      if lead.isEmpty || !atWordEnd c.rest then none
      else
        let after ← c.endLine?
        some (.tag (String.ofList handle) (String.ofList lead), c.mark, after)
  else none

end ClusterProbe.Yaml
