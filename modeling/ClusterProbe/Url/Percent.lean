import ClusterProbe.Text.Digit
import ClusterProbe.Text.Utf8

/-!
# Percent encoding

Octets that a part of a URL cannot hold are written as a percent sign and two hexadecimal digits.
Which ones these are differs from part to part.
-/

namespace ClusterProbe.Url

/-- The characters that every part encodes: control characters and everything beyond ASCII. -/
def isControl (c : Char) : Bool := c.toNat < 0x20 || 0x7E < c.toNat

/-- The characters that a fragment encodes. -/
def encodedInFragment (c : Char) : Bool := isControl c || [' ', '\"', '<', '>', '\x60'].contains c

/-- The characters that a path encodes. -/
def encodedInPath (c : Char) : Bool :=
  encodedInFragment c || ['#', '?', '{', '}'].contains c

/-- The characters that user name and password encode. -/
def encodedInUserinfo (c : Char) : Bool :=
  encodedInPath c || ['/', ':', ';', '=', '@', '[', '\\', ']', '^', '|'].contains c

/-- The characters that a query encodes; those of the special schemes encode an apostrophe too. -/
def encodedInQuery (special : Bool) (c : Char) : Bool :=
  isControl c || [' ', '\"', '#', '<', '>'].contains c || (special && c = '\'')

/-- The value of a hexadecimal digit. -/
def nibble? (c : Char) : Option Nat := Text.digitIn? 16 c

/-- A hexadecimal digit. -/
def hexDigit (n : Nat) : Char := if n < 10 then Char.ofNat (48 + n) else Char.ofNat (55 + n)

/-- An octet behind a percent sign. -/
def encodeOctet (b : UInt8) : List Char :=
  ['%', hexDigit (b.toNat / 16), hexDigit (b.toNat % 16)]

/-- A text with the characters of a class encoded. -/
def encode (encoded : Char → Bool) (cs : List Char) : List Char :=
  cs.flatMap fun c ↦
    if encoded c then (String.utf8EncodeChar c).flatMap encodeOctet else [c]

/-- The octets of a text in which octets may be encoded. A percent sign that no two digits follow
stands for itself. -/
def decode : List Char → List UInt8
  | '%' :: a :: b :: r =>
    match nibble? a, nibble? b with
    | some h, some l => UInt8.ofNat (h * 16 + l) :: decode r
    | _, _ => String.utf8EncodeChar '%' ++ decode (a :: b :: r)
  | c :: r => String.utf8EncodeChar c ++ decode r
  | [] => []

end ClusterProbe.Url
