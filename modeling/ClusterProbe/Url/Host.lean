import ClusterProbe.Text.Pieces
import ClusterProbe.Url.Domain
import ClusterProbe.Url.Percent

/-!
# Hosts of URLs

A host is a domain name, an address of version 4 or 6, or, outside the special schemes, any text
without the characters that end a host. Addresses have one written form each.
-/

namespace ClusterProbe.Url

/-- The number that a part of an address of version 4 stands for, in one of three bases. A part that
is no number is none; one that does not fit in 32 bits has no value. -/
def addressPart? (cs : List Char) : Option (Option Nat) :=
  let number (base : Nat) (ds : List Char) : Option (Option Nat) :=
    if ds.isEmpty then some (some 0)
    else (Text.numberIn? base ds).map fun n ↦ if n < Nat.pow 2 32 then some n else none
  match cs with
  | [] => none
  | '0' :: 'x' :: r | '0' :: 'X' :: r => number 16 r
  | '0' :: d :: r => number 8 (d :: r)
  | _ => number 10 cs

/-- The parts of a name without the empty one behind a point at its end. -/
def addressParts (cs : List Char) : List (List Char) :=
  let parts := Text.pieces '.' cs
  if parts.getLast? = some [] then parts.dropLast else parts

/-- Whether the last part of a name is a number, so that the name can only be an address. -/
def endsInNumber (cs : List Char) : Bool :=
  match (addressParts cs).getLast? with
  | none => false
  | some last => (!last.isEmpty && last.all Char.isDigit) || (addressPart? last).isSome

/-- An address of version 4: up to three parts of one octet each, and one for all the others. -/
def address4? (cs : List Char) : Option Nat := do
  let parts := addressParts cs
  if 4 < parts.length then none
  else
    let numbers ← parts.mapM fun p ↦ (addressPart? p).bind id
    let last ← numbers.getLast?
    let front := numbers.dropLast
    if front.any (255 < ·) || Nat.pow 256 (4 - front.length) ≤ last then none
    else
      let lead := front.foldl (fun acc n ↦ acc * 256 + n) 0
      some (lead * Nat.pow 256 (4 - front.length) + last)

/-- The written form of an address of version 4. -/
def address4Text (n : Nat) : List Char :=
  Text.join ['.'] <|
    [n / Nat.pow 256 3, n / Nat.pow 256 2 % 256, n / 256 % 256, n % 256].map (Nat.toDigits 10)

/-- A group of one to four hexadecimal digits. -/
def group? (cs : List Char) : Option Nat :=
  if cs.isEmpty || 4 < cs.length then none
  else Text.numberIn? 16 cs

/-- An octet in decimal, without needless zeros. -/
def octet? (cs : List Char) : Option Nat :=
  if cs.isEmpty || !cs.all Char.isDigit || (1 < cs.length && cs.head? = some '0') then none
  else
    let n := cs.foldl (fun acc c ↦ acc * 10 + (c.toNat - 48)) 0
    if n ≤ 255 then some n else none

/-- The two groups of an address of version 4 inside one of version 6. -/
def dotted? (cs : List Char) : Option (List Nat) := do
  match ← (Text.pieces '.' cs).mapM octet? with
  | [a, b, c, d] => some [a * 256 + b, c * 256 + d]
  | _ => none

/-- Groups between colons; the last one may be an address of version 4 if `dotted`. -/
def groups? (dotted : Bool) (cs : List Char) : Option (List Nat) := do
  if cs.isEmpty then some []
  else
    let parts := Text.pieces ':' cs
    let front ← parts.dropLast.mapM group?
    let last ← parts.getLast?
    match group? last with
    | some g => some (front ++ [g])
    | none => if dotted then do some (front ++ (← dotted? last)) else none

/-- The text before and behind the first two colons in a row. -/
def splitGap : List Char → Option (List Char × List Char)
  | ':' :: ':' :: r => some ([], r)
  | c :: r => (splitGap r).map fun (front, back) ↦ (c :: front, back)
  | [] => none

/-- The eight groups of an address of version 6. Two colons in a row stand for one or more groups of
zero. -/
def address6? (cs : List Char) : Option (List Nat) :=
  match splitGap cs with
  | some (front, back) => do
    let front ← groups? false front
    let back ← groups? true back
    let n := front.length + back.length
    if 7 < n then none else some (front ++ List.replicate (8 - n) 0 ++ back)
  | none => do
    let groups ← groups? true cs
    if groups.length = 8 then some groups else none

/-- The length of the run of zeros in front. -/
def zeroRun (groups : List Nat) : Nat := (groups.takeWhile (· = 0)).length

/-- Start and length of the first longest run of zeros. -/
def longestRun (groups : List Nat) : Nat × Nat :=
  ((List.range groups.length).map fun i ↦ (i, zeroRun (groups.drop i))).foldl
    (fun best run ↦ if best.2 < run.2 then run else best) (0, 0)

/-- The written form of an address of version 6, between brackets. -/
def address6Text (groups : List Nat) : List Char :=
  let hex (gs : List Nat) : List Char := Text.join [':'] (gs.map (Nat.toDigits 16))
  let (start, length) := longestRun groups
  let body :=
    if length < 2 then hex groups
    else hex (groups.take start) ++ [':', ':'] ++ hex (groups.drop (start + length))
  '[' :: body ++ [']']

/-- A host between brackets. -/
def bracketed? (cs : List Char) : Option (List Char) := do
  if cs.getLast? = some ']' then some (address6Text (← address6? (cs.drop 1).dropLast)) else none

/-- The written form of a host of a special scheme. -/
def specialHost? (cs : List Char) : Option (List Char) := do
  if cs.head? = some '[' then bracketed? cs
  else
    let name ← domain? (decode cs)
    if name.isEmpty then none
    else if endsInNumber name then some (address4Text (← address4? name))
    else some name

/-- The characters that no host outside the special schemes holds. -/
def isForbiddenInHost (c : Char) : Bool :=
  ['\x00', '\t', '\n', '\r', ' ', '#', '/', ':', '<', '>', '?', '@', '[', '\\', ']', '^',
    '|'].contains c

/-- The written form of a host outside the special schemes. -/
def opaqueHost? (cs : List Char) : Option (List Char) :=
  if cs.head? = some '[' then bracketed? cs
  else if cs.any isForbiddenInHost then none
  else some (encode isControl cs)

end ClusterProbe.Url
