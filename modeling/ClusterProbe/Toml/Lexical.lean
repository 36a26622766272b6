import ClusterProbe.Text.Digit
import ClusterProbe.Toml.Basic

/-!
# Strings, numbers and dates of settings documents

Each function reads one token in front of a text and gives it with the text behind it; none if there
is no such token.
-/

namespace ClusterProbe.Toml

/-- A space or a tab. -/
def isGap (c : Char) : Bool := c = ' ' || c = '\t'

/-- The text behind spaces and tabs. -/
def skipGaps (cs : List Char) : List Char := cs.dropWhile isGap

/-- The text behind a line break. -/
def lineBreak? : List Char → Option (List Char)
  | '\n' :: r => some r
  | '\r' :: '\n' :: r => some r
  | _ => none

/-- A character of a comment or a literal string. -/
def isPrintable (c : Char) : Bool :=
  c = '\t' || (0x20 ≤ c.toNat && c.toNat ≤ 0x7E) || 0x80 ≤ c.toNat

/-- The text behind a comment, if there is one. -/
def skipComment (cs : List Char) : List Char :=
  match cs with
  | '#' :: r => r.dropWhile isPrintable
  | r => r

/-- The text behind the rest of a line that holds nothing but a comment, and its break. -/
def lineEnd? (cs : List Char) : Option (List Char) :=
  match skipComment (skipGaps cs) with
  | [] => some []
  | r => lineBreak? r

/-- The text behind blanks, comments and line breaks. -/
def skipLines : Nat → List Char → List Char
  | 0, cs => cs
  | fuel + 1, cs =>
    let r := skipComment (skipGaps cs)
    match lineBreak? r with
    | some r => skipLines fuel r
    | none => r

/-- The value of `n` hexadecimal digits in front of a text. -/
def hexDigits? (n : Nat) (cs : List Char) : Option (Nat × List Char) :=
  let ds := cs.take n
  if ds.length < n then none
  else (Text.numberIn? 16 ds).map (·, cs.drop n)

/-- The character of an escape behind its backslash. -/
def escape? : List Char → Option (Char × List Char)
  | 'b' :: r => some ('\x08', r)
  | 't' :: r => some ('\t', r)
  | 'n' :: r => some ('\n', r)
  | 'f' :: r => some ('\x0c', r)
  | 'r' :: r => some ('\r', r)
  | '\"' :: r => some ('\"', r)
  | '\\' :: r => some ('\\', r)
  | 'u' :: r => do
    let (n, r) ← hexDigits? 4 r
    some (← Text.scalarValue? n, r)
  | 'U' :: r => do
    let (n, r) ← hexDigits? 8 r
    some (← Text.scalarValue? n, r)
  | _ => none

/-- A string between double quotes, behind the first of them. -/
def basicString : Nat → List Char → List Char → Option (String × List Char)
  | 0, _, _ => none
  | fuel + 1, acc, cs =>
    match cs with
    | '\"' :: r => some (String.ofList acc.reverse, r)
    | '\\' :: r => do
      let (c, r) ← escape? r
      basicString fuel (c :: acc) r
    | c :: r => if isPrintable c then basicString fuel (c :: acc) r else none
    | [] => none

/-- A string between single quotes, behind the first of them. -/
def literalString (cs : List Char) : Option (String × List Char) :=
  let (text, r) := cs.span fun c ↦ isPrintable c && c ≠ '\''
  match r with
  | '\'' :: r => some (String.ofList text, r)
  | _ => none

/-- The text behind an escaped line break: blanks, a line break, and all blanks and line breaks that
follow. -/
def escapedBreak? (cs : List Char) : Option (List Char) := do
  let r ← lineBreak? (skipGaps cs)
  some (skipAll r.length r)
where
  /-- The text behind blanks and line breaks. -/
  skipAll : Nat → List Char → List Char
    | 0, cs => cs
    | fuel + 1, cs =>
      match lineBreak? (skipGaps cs) with
      | some r => skipAll fuel r
      | none => skipGaps cs

/-- The quotes in front of a text that may end a string of several lines: three of them end it, and
up to two more in front of those belong to it. -/
def closing? (quote : Char) (cs : List Char) : Option (List Char × List Char) :=
  let n := (cs.takeWhile (· = quote)).length
  if n < 3 then none
  else
    let n := min n 5
    some (List.replicate (n - 3) quote, cs.drop n)

/-- A string of several lines, behind the three quotes that open it and the line break that may
follow them. -/
def longString (quote : Char) : Nat → List Char → List Char → Option (String × List Char)
  | 0, _, _ => none
  | fuel + 1, acc, cs =>
    match closing? quote cs with
    | some (last, r) => some (String.ofList (acc.reverse ++ last), r)
    | none =>
      match lineBreak? cs with
      | some r => longString quote fuel ('\n' :: acc) r
      | none =>
        match cs with
        | '\\' :: r =>
          if quote = '\"' then
            match escapedBreak? r with
            | some r => longString quote fuel acc r
            | none => do
              let (c, r) ← escape? r
              longString quote fuel (c :: acc) r
          else longString quote fuel ('\\' :: acc) r
        | c :: r => if isPrintable c then longString quote fuel (c :: acc) r else none
        | [] => none

/-- A string of any of the four forms. -/
def string? (cs : List Char) : Option (String × List Char) :=
  let body (r : List Char) : List Char := (lineBreak? r).getD r
  match cs with
  | '\"' :: '\"' :: '\"' :: r => longString '\"' (cs.length + 1) [] (body r)
  | '\'' :: '\'' :: '\'' :: r => longString '\'' (cs.length + 1) [] (body r)
  | '\"' :: r => basicString (cs.length + 1) [] r
  | '\'' :: r => literalString r
  | _ => none

/-- Digits with single underscores between them. -/
def digitRun? (isDigit : Char → Bool) (cs : List Char) : Option (List Char × List Char) :=
  match cs with
  | c :: r => if isDigit c then some (go [c] r) else none
  | [] => none
where
  /-- The digits that follow, the last one first. -/
  go (acc : List Char) : List Char → List Char × List Char
    | '_' :: d :: r => if isDigit d then go (d :: acc) r else (acc.reverse, '_' :: d :: r)
    | c :: r => if isDigit c then go (c :: acc) r else (acc.reverse, c :: r)
    | [] => (acc.reverse, [])

/-- The value of digits in a base. -/
def valueOf (base : Nat) (ds : List Char) : Nat := (Text.numberIn? base ds).getD 0

/-- A sign, if there is one. -/
def sign (cs : List Char) : Bool × List Char :=
  match cs with
  | '-' :: r => (true, r)
  | '+' :: r => (false, r)
  | r => (false, r)

/-- The digits of a decimal integer, which has no needless zero in front. -/
def decimalDigits? (cs : List Char) : Option (List Char × List Char) :=
  match cs with
  | '0' :: r => some (['0'], r)
  | _ => digitRun? Char.isDigit cs

/-- An integer, which must fit in 64 bits. -/
def integer? (cs : List Char) : Option (Int × List Char) := do
  let based (base : Nat) (r : List Char) : Option (Int × List Char) := do
    let (ds, r) ← digitRun? (fun c ↦ (Text.digitIn? base c).isSome) r
    some (valueOf base ds, r)
  let (i, r) ← match cs with
    | '0' :: 'x' :: r => based 16 r
    | '0' :: 'o' :: r => based 8 r
    | '0' :: 'b' :: r => based 2 r
    | _ => do
      let (negative, r) := sign cs
      let (ds, r) ← decimalDigits? r
      let n : Int := valueOf 10 ds
      some (if negative then -n else n, r)
  if -Int.pow 2 63 ≤ i && i < Int.pow 2 63 then some (i, r) else none

/-- An exponent behind its letter. -/
def exponent? (cs : List Char) : Option (Int × List Char) := do
  let (negative, r) := sign cs
  let (ds, r) ← digitRun? Char.isDigit r
  let n : Int := valueOf 10 ds
  some (if negative then -n else n, r)

/-- A number with a fraction, an exponent or both, or one of the words for what is not finite. A
positive number that is too large is refused. -/
def real? (cs : List Char) : Option (Real × List Char) :=
  let (negative, r) := sign cs
  match r with
  | 'i' :: 'n' :: 'f' :: r => some (.infinite negative, r)
  | 'n' :: 'a' :: 'n' :: r => some (.notANumber, r)
  | _ => do
    let (whole, r) ← decimalDigits? r
    let finish (digits : List Char) (e : Int) (r : List Char) : Option (Real × List Char) :=
      match Binary64.ofDecimal negative (valueOf 10 digits) e with
      | some x => some (.finite x, r)
      | none => if negative then some (.infinite true, r) else none
    match r with
    | '.' :: r =>
      let (fraction, r) ← digitRun? Char.isDigit r
      let scale : Int := -(fraction.length : Int)
      match r with
      | 'e' :: r | 'E' :: r =>
        let (e, r) ← exponent? r
        finish (whole ++ fraction) (scale + e) r
      | r => finish (whole ++ fraction) scale r
    | 'e' :: r | 'E' :: r =>
      let (e, r) ← exponent? r
      finish whole e r
    | _ => none

/-- A number of exactly `n` digits between two bounds. -/
def field? (n low high : Nat) (cs : List Char) : Option (Nat × List Char) :=
  let ds := cs.take n
  if ds.length < n || !ds.all Char.isDigit then none
  else
    let v := valueOf 10 ds
    if low ≤ v && v ≤ high then some (v, cs.drop n) else none

/-- The number of days of a month. -/
def daysIn (year month : Nat) : Nat :=
  if month = 2 then
    if year % 4 = 0 && (year % 100 ≠ 0 || year % 400 = 0) then 29 else 28
  else if [4, 6, 9, 11].contains month then 30
  else 31

/-- The text behind one character. -/
def char? (x : Char) : List Char → Option (List Char)
  | c :: r => if c = x then some r else none
  | [] => none

/-- A date. -/
def date? (cs : List Char) : Option (List Char) := do
  let (year, r) ← field? 4 0 9999 cs
  let (month, r) ← field? 2 1 12 (← char? '-' r)
  let (_, r) ← field? 2 1 (daysIn year month) (← char? '-' r)
  some r

/-- A time of day. -/
def time? (cs : List Char) : Option (List Char) := do
  let (_, r) ← field? 2 0 23 cs
  let (_, r) ← field? 2 0 59 (← char? ':' r)
  let (_, r) ← field? 2 0 60 (← char? ':' r)
  match r with
  | '.' :: d :: r => if d.isDigit then some (r.dropWhile Char.isDigit) else none
  | '.' :: [] => none
  | r => some r

/-- The offset of a time, if there is one. -/
def offset? (cs : List Char) : Option (List Char) :=
  match cs with
  | 'Z' :: r | 'z' :: r => some r
  | '+' :: r | '-' :: r => do
    let (_, r) ← field? 2 0 23 r
    let (_, r) ← field? 2 0 59 (← char? ':' r)
    some r
  | r => some r

/-- Whether a text starts with digits and a separator, so that it can only be a date or a time. -/
def startsDate (cs : List Char) : Bool :=
  match cs with
  | a :: b :: c :: d :: '-' :: _ => [a, b, c, d].all Char.isDigit
  | a :: b :: ':' :: _ => [a, b].all Char.isDigit
  | _ => false

/-- A date, a time or both. -/
def datetime? (cs : List Char) : Option (List Char) :=
  match cs with
  | _ :: _ :: ':' :: _ => time? cs
  | _ => do
    let r ← date? cs
    match r with
    | 'T' :: r | 't' :: r => offset? (← time? r)
    | ' ' :: a :: b :: ':' :: more =>
      if a.isDigit && b.isDigit then offset? (← time? (a :: b :: ':' :: more)) else some r
    | r => some r

end ClusterProbe.Toml
