import ClusterProbe.Json.Basic
import ClusterProbe.Number.Layout

/-!
# The text of a document

Compact notation: no blanks, entries in the order of the mapping, and in texts an escape only for
the quote, the backslash and the control characters below the space.
-/

namespace ClusterProbe.Json

/-- Two hexadecimal digits of a number below 256. -/
def hexPair (n : Nat) : List Char := [Nat.digitChar (n / 16), Nat.digitChar (n % 16)]

/-- How one character of a text is written. -/
def printChar (c : Char) : List Char :=
  if c = '\"' then ['\\', '\"']
  else if c = '\\' then ['\\', '\\']
  else if c = '\x08' then ['\\', 'b']
  else if c = '\x0c' then ['\\', 'f']
  else if c = '\n' then ['\\', 'n']
  else if c = '\r' then ['\\', 'r']
  else if c = '\t' then ['\\', 't']
  else if c.toNat < 0x20 then ['\\', 'u', '0', '0'] ++ hexPair c.toNat
  else [c]

/-- A text between quotes. -/
def printString (s : String) : List Char := '\"' :: s.toList.flatMap printChar ++ ['\"']

/-- A number. -/
def printNumber : Number → List Char
  | .natural n => Nat.toDigits 10 n.toNat
  | .belowZero n => '-' :: Nat.toDigits 10 (n.val + 1)
  | .double x => NumberLayout.document.text x

mutual

/-- A document in compact notation. -/
def print : Json → List Char
  | .null => ['n', 'u', 'l', 'l']
  | .bool true => ['t', 'r', 'u', 'e']
  | .bool false => ['f', 'a', 'l', 's', 'e']
  | .number n => printNumber n
  | .string s => printString s
  | .array items => '[' :: printItems items ++ [']']
  | .object entries => '{' :: printEntries entries ++ ['}']

/-- Items with a comma between each two. -/
def printItems : List Json → List Char
  | [] => []
  | [v] => print v
  | v :: w :: rest => print v ++ ',' :: printItems (w :: rest)

/-- Entries with a comma between each two. -/
def printEntries : List (String × Json) → List Char
  | [] => []
  | [(k, v)] => printString k ++ ':' :: print v
  | (k, v) :: e :: rest => printString k ++ ':' :: (print v ++ ',' :: printEntries (e :: rest))

end

/-- The compact text of a document. -/
def text (v : Json) : String := String.ofList (print v)

/-- The text of a document that stands alone: a string is itself, null is empty, and all else is
in compact notation. -/
def plainText : Json → String
  | .null => ""
  | .string s => s
  | v => v.text

end ClusterProbe.Json
