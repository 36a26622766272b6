import ClusterProbe.Text.Combining
import ClusterProbe.Text.Pieces
import ClusterProbe.Text.SmallLetter
import ClusterProbe.Text.Unprintable
import ClusterProbe.Text.Utf8
import ClusterProbe.Url.Punycode

/-!
# Domain names

The written form of a domain name: small letters of ASCII, without the characters that would end a
host. A label beyond ASCII is written in ASCII behind a mark of its own, and a label with that mark
must be the written form of some other label.

Of the spellings of one name these are known: capital letters, full-width forms, the full stops of
other scripts, and characters that a name is written without. All else is taken as it is written: no
letter is composed from its parts, no character is replaced by a simpler one that it is compatible
with (a digit in a circle stays one), and the direction of letters is not looked at.
-/

namespace ClusterProbe.Url

/-- The characters of ASCII that no domain name holds. -/
def isForbiddenInDomain (c : Char) : Bool :=
  c.toNat ≤ 0x20 || c.toNat = 0x7F ||
    ['#', '/', ':', '<', '>', '?', '@', '[', '\\', ']', '^', '|', '%'].contains c

/-- Characters that a name is written without. -/
def isIgnoredInDomain (c : Char) : Bool :=
  let n := c.toNat
  n = 0xAD || n = 0x34F || (0x180B ≤ n && n ≤ 0x180D) || n = 0x180F || n = 0x200B || n = 0x2060 ||
    n = 0x2064 || (0xFE00 ≤ n && n ≤ 0xFE0F) || n = 0xFEFF || (0xE0100 ≤ n && n ≤ 0xE01EF)

/-- The character that a full-width form or a full stop of another script stands for. -/
def narrow (c : Char) : Char :=
  let n := c.toNat
  if 0xFF01 ≤ n && n ≤ 0xFF5E then Char.ofNat (n - 0xFEE0)
  else if n = 0x3002 || n = 0xFF61 then '.'
  else c

/-- A name in the one spelling in which names are compared. -/
def fold (cs : List Char) : List Char :=
  (cs.filter (!isIgnoredInDomain ·)).map fun c ↦ Text.smallLetter (narrow c)

/-- Whether a character may stand in a label. -/
def isInLabel (c : Char) : Bool :=
  c.toNat < 0x80 || (!Text.isUnprintable c && c ≠ Text.replacement)

/-- What a label beyond ASCII starts with in its written form. -/
def labelMark : List Char := ['x', 'n', '-', '-']

/-- Whether a label beyond ASCII makes sense. -/
def isLabel (cs : List Char) : Bool :=
  cs.all isInLabel && !(cs.head?.map Text.isCombining).getD false

/-- Whether the text behind the mark is the written form of a label. -/
def isWrittenLabel (cs : List Char) : Bool :=
  match Punycode.decode? cs with
  | none => false
  | some label =>
    isLabel label && fold label = label && label.any (0x80 ≤ ·.toNat) && Punycode.encode label = cs

/-- The written form of a label. -/
def label? (cs : List Char) : Option (List Char) :=
  if cs.all (·.toNat < 0x80) then
    if labelMark.isPrefixOf cs && !isWrittenLabel (cs.drop labelMark.length) then none else some cs
  else if isLabel cs then some (labelMark ++ Punycode.encode cs)
  else none

/-- The domain name of octets; none if they are no text or the text is no name. -/
def domain? (octets : List UInt8) : Option (List Char) := do
  let name ← Text.ofUtf8? octets
  let labels ← (Text.pieces '.' (fold name.toList)).mapM label?
  let written := Text.join ['.'] labels
  if written.any isForbiddenInDomain then none else some written

end ClusterProbe.Url
