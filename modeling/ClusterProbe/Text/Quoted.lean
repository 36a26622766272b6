import ClusterProbe.Text.Combining
import ClusterProbe.Text.Unprintable

/-!
# Quoted text

A text between double quotes in which every character can be told apart: the quote and the
backslash are escaped, and what has no visible form of its own is shown by its code point.
-/

namespace ClusterProbe.Text

/-- A code point in braces, in hexadecimal. -/
def codePointEscape (c : Char) : List Char :=
  "\\u\x7b".toList ++ Nat.toDigits 16 c.toNat ++ ['}']

/-- How one character is written inside quotes. -/
def quoteChar (c : Char) : List Char :=
  if c = '\x00' then ['\\', '0']
  else if c = '\t' then ['\\', 't']
  else if c = '\r' then ['\\', 'r']
  else if c = '\n' then ['\\', 'n']
  else if c = '\\' then ['\\', '\\']
  else if c = '\"' then ['\\', '\"']
  else if 0x20 ≤ c.toNat && c.toNat ≤ 0x7E then [c]
  else if isCombining c || isUnprintable c then codePointEscape c
  else [c]

/-- The text between double quotes. -/
def quoted (s : String) : String :=
  String.ofList ('\"' :: s.toList.flatMap quoteChar ++ ['\"'])

end ClusterProbe.Text
