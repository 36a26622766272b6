import ClusterProbe.Json.Basic
import ClusterProbe.Text.Digit
import ClusterProbe.Text.Utf8

/-!
# Reading a document from its text

The strict JSON grammar, with a limit on nesting. A text that is refused is refused at one place:
the fault says why and how many octets of the text are left behind that place, from which line and
column follow.
-/

namespace ClusterProbe.Json

/-- Why a text is no document. -/
inductive Flaw where
  | unfinishedList
  | unfinishedObject
  | unfinishedString
  | unfinishedValue
  | colonExpected
  | listCommaExpected
  | objectCommaExpected
  | wordExpected
  | valueExpected
  | invalidEscape
  | invalidNumber
  | numberOutOfRange
  | controlCharacter
  | keyNotString
  | loneSurrogate
  | trailingComma
  | trailingCharacters
  | cutEscape
  | tooDeep
deriving DecidableEq

/-- The wording of a flaw. -/
def Flaw.message : Flaw → String
  | .unfinishedList => "EOF while parsing a list"
  | .unfinishedObject => "EOF while parsing an object"
  | .unfinishedString => "EOF while parsing a string"
  | .unfinishedValue => "EOF while parsing a value"
  | .colonExpected => "expected `:`"
  | .listCommaExpected => "expected `,` or `]`"
  | .objectCommaExpected => "expected `,` or `\x7d`"
  | .wordExpected => "expected ident"
  | .valueExpected => "expected value"
  | .invalidEscape => "invalid escape"
  | .invalidNumber => "invalid number"
  | .numberOutOfRange => "number out of range"
  | .controlCharacter => "control character (\\u0000-\\u001F) found while parsing a string"
  | .keyNotString => "key must be a string"
  | .loneSurrogate => "lone leading surrogate in hex escape"
  | .trailingComma => "trailing comma"
  | .trailingCharacters => "trailing characters"
  | .cutEscape => "unexpected end of hex escape"
  | .tooDeep => "recursion limit exceeded"

/-- A flaw and the number of octets of the text behind it. -/
structure Fault where
  flaw : Flaw
  left : Nat

/-- Refuses the text in front of `rest`. -/
def refuse {α : Type} (flaw : Flaw) (rest : List Char) : Except Fault α :=
  .error ⟨flaw, Text.octets rest⟩

/-- Refuses the text behind the first octet of `rest`, or at its end. -/
def refuseNext {α : Type} (flaw : Flaw) (rest : List Char) : Except Fault α :=
  .error ⟨flaw, Text.octets rest - 1⟩

/-- The four characters that may stand between tokens. -/
def isSpace (c : Char) : Bool := c = ' ' || c = '\n' || c = '\t' || c = '\r'

/-- The text behind the blanks it starts with. -/
def skipSpace (cs : List Char) : List Char := cs.dropWhile isSpace

/-- The value of four hexadecimal digits. -/
def hexUnit? (a b c d : Char) : Option Nat := Text.numberIn? 16 [a, b, c, d]

/-- Refuses a Unicode escape whose four octets are missing or are not hexadecimal digits. -/
def refuseUnit {α : Type} (rest : List Char) : Except Fault α :=
  let left := Text.octets rest
  if left < 4 then .error ⟨.unfinishedString, 0⟩ else .error ⟨.invalidEscape, left - 4⟩

/-- The character of an escape of one letter. -/
def shortEscape? : Char → Option Char
  | '\"' => some '\"'
  | '\\' => some '\\'
  | '/' => some '/'
  | 'b' => some '\x08'
  | 'f' => some '\x0c'
  | 'n' => some '\n'
  | 'r' => some '\r'
  | 't' => some '\t'
  | _ => none

/-- Why a leading surrogate is not followed by an escape. -/
def refusePair {α : Type} : List Char → Except Fault α
  | [] => refuse .unfinishedString []
  | '\\' :: [] => refuse .unfinishedString []
  | '\\' :: 'u' :: rest => refuseUnit rest
  | '\\' :: rest => refuseNext .cutEscape rest
  | rest => refuseNext .cutEscape rest

/-- The text up to the closing quote; `acc` holds what was read, last character first. -/
def stringBody (acc : List Char) : List Char → Except Fault (String × List Char)
  | [] => refuse .unfinishedString []
  | '\"' :: rest => .ok (String.ofList acc.reverse, rest)
  | '\\' :: [] => refuse .unfinishedString []
  | '\\' :: 'u' :: a :: b :: c :: d :: rest =>
    match hexUnit? a b c d with
    | none => refuseUnit (a :: b :: c :: d :: rest)
    | some n =>
      if 0xDC00 ≤ n && n ≤ 0xDFFF then refuse .loneSurrogate rest
      else if n < 0xD800 || 0xDBFF < n then stringBody (Char.ofNat n :: acc) rest
      else match rest with
        | '\\' :: 'u' :: a :: b :: c :: d :: rest =>
          match hexUnit? a b c d with
          | none => refuseUnit (a :: b :: c :: d :: rest)
          | some m =>
            if m < 0xDC00 || 0xDFFF < m then refuse .loneSurrogate rest
            else
              stringBody (Char.ofNat ((n - 0xD800) * 0x400 + (m - 0xDC00) + 0x10000) :: acc) rest
        | rest => refusePair rest
  | '\\' :: 'u' :: rest => refuseUnit rest
  | '\\' :: c :: rest =>
    match shortEscape? c with
    | some e => stringBody (e :: acc) rest
    | none => refuseNext .invalidEscape (c :: rest)
  | c :: rest =>
    if c.toNat < 0x20 then refuse .controlCharacter rest else stringBody (c :: acc) rest

/-- The digits in front of a text, and what follows. -/
def digits (cs : List Char) : List Char × List Char := cs.span Char.isDigit

/-- The number `n` with decimal digits behind it, as far as it fits in 64 bits, and the digits that do
not fit. -/
def significand (n : Nat) : List Char → Nat × List Char
  | [] => (n, [])
  | d :: ds =>
    let next := n * 10 + (d.toNat - 48)
    if next < Nat.pow 2 64 then significand next ds else (n, d :: ds)

/-- The greatest power of ten that is a double. -/
def greatestPower : Nat := 308

/-- A power of ten. -/
def powerOfTen? (n : Nat) : Option Binary64 := Binary64.ofDecimal false 1 n

/-- A double times a power of ten; none if that is beyond the largest double. Where no double is that
power, it is divided by the greatest one as often as it takes. Every step rounds. -/
def scaleTen? (x : Binary64) (e : Int) : Option Binary64 := do
  if e.natAbs ≤ greatestPower then
    let power ← powerOfTen? e.natAbs
    if 0 ≤ e then x.mul? power else x.div? power
  else if x.isZero then some x
  else if 0 ≤ e then none
  else scaleTen? (← x.div? (← powerOfTen? greatestPower)) (e + greatestPower)
termination_by e.natAbs
decreasing_by simp only [greatestPower] at *; omega

/-- The digits of an exponent. One that does not fit in 31 bits is cut where it stops fitting. -/
def exponentDigits (value : Nat) : List Char → Nat × Bool × List Char
  | [] => (value, true, [])
  | c :: rest =>
    if !c.isDigit then (value, true, c :: rest)
    else
      let next := value * 10 + (c.toNat - 48)
      if 2147483647 < next then (value, false, rest) else exponentDigits next rest

/-- The double of a significand and an exponent of ten. The significand is rounded before it is
scaled, so this may not be the double nearest to the number that is written. -/
def double (negative : Bool) (significand : Nat) (e : Int) (rest : List Char) :
    Except Fault (Number × List Char) :=
  match (Binary64.ofNat negative significand).bind (scaleTen? · e) with
  | some x => .ok (.double x, rest)
  | none => refuse .numberOutOfRange rest

/-- The exponent part behind its letter. -/
def exponentPart (negative : Bool) (significand : Nat) (scale : Int) (cs : List Char) :
    Except Fault (Number × List Char) :=
  let (below, cs) := match cs with
    | '+' :: r => (false, r)
    | '-' :: r => (true, r)
    | r => (false, r)
  match cs with
  | [] => refuse .unfinishedValue []
  | c :: rest =>
    if !c.isDigit then refuseNext .invalidNumber (c :: rest)
    else
      let (e, fits, rest) := exponentDigits 0 (c :: rest)
      if fits then double negative significand (scale + (if below then -(e : Int) else e)) rest
      else if significand ≠ 0 && !below then refuse .numberOutOfRange rest
      else .ok (.double (Binary64.zero negative), rest.dropWhile Char.isDigit)

/-- A number with the digits in front of its point, whose sign has been read. Digits in front of the
point that do not fit scale the number, and those behind it are passed over. -/
def numberBehind (negative : Bool) (whole : List Char) (rest : List Char) :
    Except Fault (Number × List Char) :=
  let (n, excess) := significand 0 whole
  let scale : Int := excess.length
  match rest with
  | '.' :: r =>
    match digits r with
    | ([], []) => refuse .unfinishedValue []
    | ([], r) => refuseNext .invalidNumber r
    | (fraction, r) =>
      let (n, ignored) := significand n fraction
      let scale := scale - (fraction.length - ignored.length)
      match r with
      | 'e' :: r | 'E' :: r => exponentPart negative n scale r
      | r => double negative n scale r
  | 'e' :: r | 'E' :: r => exponentPart negative n scale r
  | r =>
    if !excess.isEmpty then double negative n scale r
    else if negative && n = 0 then .ok (.double (Binary64.zero true), r)
    else match Number.ofInt? (if negative then -(n : Int) else n) with
      | some i => .ok (i, r)
      | none => double negative n scale r

/-- A number whose sign has been read. -/
def unsignedNumber (negative : Bool) : List Char → Except Fault (Number × List Char)
  | [] => refuse .unfinishedValue []
  | '0' :: rest =>
    match rest with
    | c :: _ =>
      if c.isDigit then refuseNext .invalidNumber rest else numberBehind negative ['0'] rest
    | [] => numberBehind negative ['0'] []
  | c :: rest =>
    if c.isDigit then
      let (more, rest) := digits rest
      numberBehind negative (c :: more) rest
    else refuseNext .invalidNumber (c :: rest)

/-- The rest of a word whose first letter has been read. -/
def word (value : Json) : List Char → List Char → Except Fault (Json × List Char)
  | [], rest => .ok (value, rest)
  | _ :: _, [] => refuse .unfinishedValue []
  | w :: ws, c :: rest => if c = w then word value ws rest else refuseNext .wordExpected (c :: rest)

mutual

/-- A value, of which `depth - 1` may be nested in one another. -/
def value : Nat → Nat → List Char → Except Fault (Json × List Char)
  | 0, _, rest => refuse .tooDeep rest
  | fuel + 1, depth, cs =>
    match skipSpace cs with
    | [] => refuse .unfinishedValue []
    | 'n' :: r => word .null ['u', 'l', 'l'] r
    | 't' :: r => word (.bool true) ['r', 'u', 'e'] r
    | 'f' :: r => word (.bool false) ['a', 'l', 's', 'e'] r
    | '-' :: r => do
      let (n, r) ← unsignedNumber true r
      .ok (.number n, r)
    | '\"' :: r => do
      let (s, r) ← stringBody [] r
      .ok (.string s, r)
    | '[' :: r =>
      match depth with
      | 0 | 1 => refuseNext .tooDeep ('[' :: r)
      | depth + 2 => items fuel (depth + 1) true [] r
    | '{' :: r =>
      match depth with
      | 0 | 1 => refuseNext .tooDeep ('{' :: r)
      | depth + 2 => entries fuel (depth + 1) true [] r
    | c :: r =>
      if c.isDigit then do
        let (n, r) ← unsignedNumber false (c :: r)
        .ok (.number n, r)
      else refuseNext .valueExpected (c :: r)

/-- The items of a list up to its bracket; `acc` holds the items before, last one first. -/
def items : Nat → Nat → Bool → List Json → List Char → Except Fault (Json × List Char)
  | 0, _, _, _, rest => refuse .tooDeep rest
  | fuel + 1, depth, first, acc, cs =>
    match skipSpace cs with
    | [] => refuse .unfinishedList []
    | ']' :: r => .ok (.array acc.reverse, r)
    | c :: r =>
      if first then item fuel depth acc (c :: r)
      else if c = ',' then
        match skipSpace r with
        | [] => refuse .unfinishedValue []
        | ']' :: r => refuseNext .trailingComma (']' :: r)
        | r => item fuel depth acc r
      else refuseNext .listCommaExpected (c :: r)

/-- One item, and those behind it. -/
def item : Nat → Nat → List Json → List Char → Except Fault (Json × List Char)
  | 0, _, _, rest => refuse .tooDeep rest
  | fuel + 1, depth, acc, cs => do
    let (v, r) ← value fuel depth cs
    items fuel depth false (v :: acc) r

/-- The entries of a mapping up to its brace. -/
def entries :
    Nat → Nat → Bool → List (String × Json) → List Char → Except Fault (Json × List Char)
  | 0, _, _, _, rest => refuse .tooDeep rest
  | fuel + 1, depth, first, acc, cs =>
    match skipSpace cs with
    | [] => refuse .unfinishedObject []
    | '}' :: r => .ok (.object acc, r)
    | c :: r =>
      if first then
        if c = '\"' then entry fuel depth acc r else refuseNext .keyNotString (c :: r)
      else if c = ',' then
        match skipSpace r with
        | [] => refuse .unfinishedValue []
        | '\"' :: r => entry fuel depth acc r
        | '}' :: r => refuseNext .trailingComma ('}' :: r)
        | r => refuseNext .keyNotString r
      else refuseNext .objectCommaExpected (c :: r)

/-- One entry behind the quote that opens its key, and those behind it. -/
def entry : Nat → Nat → List (String × Json) → List Char → Except Fault (Json × List Char)
  | 0, _, _, rest => refuse .tooDeep rest
  | fuel + 1, depth, acc, cs => do
    let (k, r) ← stringBody [] cs
    match skipSpace r with
    | [] => refuse .unfinishedObject []
    | ':' :: r => do
      let (v, r) ← value fuel depth r
      entries fuel depth false (insert k v acc) r
    | r => refuseNext .colonExpected r

end

/-- How many collections may be nested, and one more. -/
def nestingLimit : Nat := 128

/-- The document that a whole text holds. -/
def ofChars (cs : List Char) : Except Fault Json := do
  let (v, r) ← value (3 * cs.length + 3) nestingLimit cs
  match skipSpace r with
  | [] => .ok v
  | r => refuseNext .trailingCharacters r

/-- Line and column of the place in front of the last `left` octets: the line counts from one, the
column is the number of octets since the line began. -/
def position (cs : List Char) (left : Nat) : Nat × Nat :=
  let before := (Text.utf8 cs).take (Text.octets cs - left)
  let column := (before.reverse.takeWhile (· ≠ 10)).length
  (1 + before.count 10, column)

/-- The wording of a fault in a text. -/
def Fault.message (cs : List Char) (f : Fault) : String :=
  let (line, column) := position cs f.left
  f.flaw.message ++ " at line " ++ toString line ++ " column " ++ toString column

/-- The document of a text, or the wording of what is wrong with it. -/
def parse (s : String) : Except String Json :=
  match ofChars s.toList with
  | .ok v => .ok v
  | .error f => .error (f.message s.toList)

end ClusterProbe.Json
