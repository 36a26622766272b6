import ClusterProbe.Text.Pieces

/-!
# Names beyond ASCII in ASCII

A name is written in ASCII by listing its ASCII characters first, and behind a hyphen where the
others belong: each one is a number in a notation whose digits depend on the ones before, so that
neighbouring characters of one script are short.
-/

namespace ClusterProbe.Url.Punycode

/-- The digit of a value below 36. -/
def digit (v : Nat) : Char := if v < 26 then Char.ofNat (97 + v) else Char.ofNat (22 + v)

/-- The value of a digit. -/
def digitValue? (c : Char) : Option Nat :=
  if 'a' ≤ c && c ≤ 'z' then some (c.toNat - 97)
  else if 'A' ≤ c && c ≤ 'Z' then some (c.toNat - 65)
  else if c.isDigit then some (c.toNat - 22)
  else none

/-- The weight of the digit with number `k`, counted in steps of 36. -/
def threshold (bias k : Nat) : Nat :=
  if k ≤ bias then 1 else if bias + 26 ≤ k then 26 else k - bias

/-- The threshold is never zero. -/
theorem threshold_pos (bias k : Nat) : 0 < threshold bias k := by
  simp only [threshold]
  split
  · omega
  · split <;> omega

/-- Halves a number often enough to measure it, and counts how often in steps of 36. -/
def settle (delta k : Nat) : Nat :=
  if 455 < delta then settle (delta / 35) (k + 36) else k + 36 * delta / (delta + 38)
termination_by delta
decreasing_by omega

/-- The bias for the number behind `delta`, when `count` characters are in their places. -/
def adapt (delta count : Nat) (first : Bool) : Nat :=
  let delta := if first then delta / 700 else delta / 2
  settle (delta + delta / count) 0

/-- The digits of a number, from the digit with number `k` on. -/
def digits (bias k q : Nat) : List Char :=
  let t := threshold bias k
  if h : q < t then [digit q]
  else
    have : (q - t) / (36 - t) < q := by
      have := threshold_pos bias k
      have : (q - t) / (36 - t) ≤ q - t := Nat.div_le_self ..
      omega
    digit (t + (q - t) % (36 - t)) :: digits bias (k + 36) ((q - t) / (36 - t))
termination_by q

/-- What has been written so far. -/
structure Writer where
  delta : Nat
  bias : Nat
  /-- The characters that are in their places. -/
  count : Nat
  first : Bool
  text : List Char

/-- Goes on over one character of the name, while the characters `m` are put in their places. -/
def Writer.step (m : Nat) (w : Writer) (c : Nat) : Writer :=
  if c < m then { w with delta := w.delta + 1 }
  else if c = m then
    ⟨0, adapt w.delta (w.count + 1) w.first, w.count + 1, false,
      w.text ++ digits w.bias 36 w.delta⟩
  else w

/-- Puts characters in their places, in ascending order; `n` is the least that may come. -/
def writeAll (cs : List Nat) (n : Nat) (w : Writer) : List Nat → Writer
  | [] => w
  | m :: rest =>
    let w := { w with delta := w.delta + (m - n) * (w.count + 1) }
    let w := cs.foldl (Writer.step m) w
    writeAll cs (m + 1) { w with delta := w.delta + 1 } rest

/-- A name in ASCII. -/
def encode (cs : List Char) : List Char :=
  let codes := cs.map Char.toNat
  let plain := cs.filter (·.toNat < 0x80)
  let others := (codes.filter (0x80 ≤ ·)).mergeSort.eraseReps
  let front := if plain.isEmpty then [] else plain ++ ['-']
  (writeAll codes 0x80 ⟨0, 72, plain.length, true, front⟩ others).text

/-- A number from its digits, from the digit with number `k` and weight `weight` on, and what
follows it. -/
def readNumber (bias k weight acc : Nat) : List Char → Option (Nat × List Char)
  | [] => none
  | c :: rest => do
    let v ← digitValue? c
    let t := threshold bias k
    let acc := acc + v * weight
    if v < t then some (acc, rest)
    else if Nat.pow 2 32 ≤ acc then none
    else readNumber bias (k + 36) (weight * (36 - t)) acc rest

/-- Puts the characters behind the hyphen in their places; `n` is the character put last, and `i`
the place behind it. The fuel is the number of characters left to read. -/
def readAll (fuel n i bias : Nat) (placed : List Nat) (cs : List Char) : Option (List Nat) :=
  match fuel, cs with
  | _, [] => some placed
  | 0, _ => none
  | fuel + 1, cs => do
    let (delta, rest) ← readNumber bias 36 1 0 cs
    let count := placed.length + 1
    let next := n + (i + delta) / count
    let place := (i + delta) % count
    if 0x10FFFF < next then none
    else
      readAll fuel next (place + 1) (adapt delta count (i = 0))
        (placed.take place ++ next :: placed.drop place) rest

/-- The name that is written in ASCII. -/
def decode? (cs : List Char) : Option (List Char) := do
  let back := cs.reverse.takeWhile (· ≠ '-')
  let front := cs.take (cs.length - back.length - 1)
  let codes ← readAll cs.length 0x80 0 72 (front.map Char.toNat) back.reverse
  if codes.all fun n ↦ n.isValidChar then some (codes.map Char.ofNat) else none

end ClusterProbe.Url.Punycode
