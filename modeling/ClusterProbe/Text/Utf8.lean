/-!
# UTF-8

Texts as octets, and octets as text where they may be damaged. Each longest stretch of octets that
starts a character and cannot be completed reads as one replacement character, so every sequence
of octets has a reading.
-/

namespace ClusterProbe.Text

/-- The octets of a text. -/
def utf8 (cs : List Char) : List UInt8 := cs.flatMap String.utf8EncodeChar

/-- The number of octets of a text. -/
def octets (cs : List Char) : Nat := (cs.map Char.utf8Size).foldr (· + ·) 0

/-- What stands for octets that are no character. -/
def replacement : Char := '\uFFFD'

/-- A character begun and not yet complete: the octets still to come, the range of the next one
and the bits read so far. -/
structure Unfinished where
  missing : Nat
  low : Nat
  high : Nat
  bits : Nat

/-- What the first octet of a character announces. -/
inductive Opening where
  | whole (c : Char)
  | unfinished (u : Unfinished)
  | invalid

/-- The octets that may start a character, each with the range of the octet after it. -/
def opening (b : UInt8) : Opening :=
  let n := b.toNat
  if n < 0x80 then .whole (Char.ofNat n)
  else if n < 0xC2 then .invalid
  else if n < 0xE0 then .unfinished ⟨1, 0x80, 0xBF, n % 0x20⟩
  else if n == 0xE0 then .unfinished ⟨2, 0xA0, 0xBF, 0⟩
  else if n == 0xED then .unfinished ⟨2, 0x80, 0x9F, 0xD⟩
  else if n < 0xF0 then .unfinished ⟨2, 0x80, 0xBF, n % 0x10⟩
  else if n == 0xF0 then .unfinished ⟨3, 0x90, 0xBF, 0⟩
  else if n < 0xF4 then .unfinished ⟨3, 0x80, 0xBF, n % 0x08⟩
  else if n == 0xF4 then .unfinished ⟨3, 0x80, 0x8F, 4⟩
  else .invalid

/-- Reads octets one by one; `u` is the character left open by the octets before. -/
def decodeLossyFrom (u : Option Unfinished) : List UInt8 → List Char
  | [] => if u.isSome then [replacement] else []
  | b :: bs =>
    let fresh (before : List Char) : List Char :=
      match opening b with
      | .whole c => before ++ c :: decodeLossyFrom none bs
      | .unfinished u => before ++ decodeLossyFrom (some u) bs
      | .invalid => before ++ replacement :: decodeLossyFrom none bs
    match u with
    | none => fresh []
    | some u =>
      if u.low ≤ b.toNat && b.toNat ≤ u.high then
        let bits := u.bits * 0x40 + b.toNat % 0x40
        if u.missing ≤ 1 then Char.ofNat bits :: decodeLossyFrom none bs
        else decodeLossyFrom (some ⟨u.missing - 1, 0x80, 0xBF, bits⟩) bs
      else fresh [replacement]

/-- The text that octets stand for, with a replacement character for every longest stretch that
is no character. -/
def decodeLossy (bs : List UInt8) : List Char := decodeLossyFrom none bs

/-- The text whose octets these are. -/
def ofUtf8? (bs : List UInt8) : Option String := String.fromUTF8? ⟨bs.toArray⟩

end ClusterProbe.Text
