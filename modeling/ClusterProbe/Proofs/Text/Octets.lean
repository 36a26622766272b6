import ClusterProbe.Text.Utf8

/-!
# Texts from their octets

Octets are read without a loss where they are the octets of a text. Main statement: decoding the
octets of a text gives the text back.
-/

namespace ClusterProbe.Text

/-- A number below 256 is the number of its octet. -/
theorem toNat_octet {n : Nat} (h : n < 256) : (UInt8.ofNat n).toNat = n :=
  UInt8.toNat_ofNat_of_lt' h

section Machine

variable {b : UInt8} {bs : List UInt8} {c : Char} {u : Unfinished}

theorem decodeLossyFrom_whole (h : opening b = .whole c) :
    decodeLossyFrom none (b :: bs) = c :: decodeLossyFrom none bs := by
  rw [decodeLossyFrom, h]
  rfl

theorem decodeLossyFrom_unfinished (h : opening b = .unfinished u) :
    decodeLossyFrom none (b :: bs) = decodeLossyFrom (some u) bs := by
  rw [decodeLossyFrom, h]
  rfl

/-- An octet in the range of an open character completes it or leaves it open. -/
theorem decodeLossyFrom_inRange (hlow : u.low ≤ b.toNat) (hhigh : b.toNat ≤ u.high) :
    decodeLossyFrom (some u) (b :: bs) =
      if u.missing ≤ 1 then
        Char.ofNat (u.bits * 0x40 + b.toNat % 0x40) :: decodeLossyFrom none bs
      else
        decodeLossyFrom (some ⟨u.missing - 1, 0x80, 0xBF, u.bits * 0x40 + b.toNat % 0x40⟩) bs := by
  rw [decodeLossyFrom]
  simp [hlow, hhigh]

/-- The last octet of a character, with the lowest six bits of its number. -/
theorem decodeLossyFrom_last {n low high : Nat} (hlow : low ≤ n % 64 + 128)
    (hhigh : n % 64 + 128 ≤ high) :
    decodeLossyFrom (some ⟨1, low, high, n / 64⟩) (UInt8.ofNat (n % 64 + 128) :: bs) =
      Char.ofNat n :: decodeLossyFrom none bs := by
  have hb : (UInt8.ofNat (n % 64 + 128)).toNat = n % 64 + 128 := toNat_octet (by omega)
  have hbits : n / 64 * 0x40 + (n % 64 + 128) % 0x40 = n := by omega
  rw [decodeLossyFrom_inRange (by rw [hb]; exact hlow) (by rw [hb]; exact hhigh), hb]
  dsimp only
  rw [if_pos (Nat.le_refl 1), hbits]

/-- An octet in the middle of a character, with six bits of its number. -/
theorem decodeLossyFrom_middle {n k low high : Nat} (hlow : low ≤ n % 64 + 128)
    (hhigh : n % 64 + 128 ≤ high) :
    decodeLossyFrom (some ⟨k + 2, low, high, n / 64⟩) (UInt8.ofNat (n % 64 + 128) :: bs) =
      decodeLossyFrom (some ⟨k + 1, 0x80, 0xBF, n⟩) bs := by
  have hb : (UInt8.ofNat (n % 64 + 128)).toNat = n % 64 + 128 := toNat_octet (by omega)
  have hbits : n / 64 * 0x40 + (n % 64 + 128) % 0x40 = n := by omega
  rw [decodeLossyFrom_inRange (by rw [hb]; exact hlow) (by rw [hb]; exact hhigh), hb]
  dsimp only
  rw [if_neg (by omega), hbits, Nat.add_sub_assoc (by omega)]

end Machine

section Opening

variable {n : Nat}

theorem opening_one (h : n ≤ 0x7F) : opening (UInt8.ofNat n) = .whole (Char.ofNat n) := by
  rw [opening, toNat_octet (by omega)]
  exact if_pos (by omega)

theorem opening_two (hlow : 0x80 ≤ n) (hhigh : n ≤ 0x7FF) :
    opening (UInt8.ofNat (n / 64 % 32 + 192)) = .unfinished ⟨1, 0x80, 0xBF, n / 64⟩ := by
  have hbits : (n / 64 % 32 + 192) % 0x20 = n / 64 := by omega
  rw [opening, toNat_octet (by omega), if_neg (by omega), if_neg (by omega), if_pos (by omega),
    hbits]

/-- The first of three octets; the range of the second one leaves out what two octets could hold,
and what is no character. -/
theorem opening_three (hlow : 0x800 ≤ n) (hhigh : n ≤ 0xFFFF) (hn : n.isValidChar) :
    ∃ low high, opening (UInt8.ofNat (n / 4096 % 16 + 224)) =
        .unfinished ⟨2, low, high, n / 4096⟩ ∧
      low ≤ n / 64 % 64 + 128 ∧ n / 64 % 64 + 128 ≤ high := by
  have hsurrogate : n < 0xD800 ∨ 0xDFFF < n := hn.imp id And.left
  rw [opening, toNat_octet (by omega)]
  simp only [beq_iff_eq]
  rw [if_neg (by omega), if_neg (by omega), if_neg (by omega)]
  split
  next hfirst => exact ⟨0xA0, 0xBF, by congr 2; omega, by omega, by omega⟩
  split
  next hfirst => exact ⟨0x80, 0x9F, by congr 2; omega, by omega, by omega⟩
  next =>
    rw [if_pos (by omega)]
    exact ⟨0x80, 0xBF, by congr 2; omega, by omega, by omega⟩

/-- The first of four octets; the range of the second one leaves out what three octets could hold,
and what lies behind the last character. -/
theorem opening_four (hlow : 0x10000 ≤ n) (hhigh : n ≤ 0x10FFFF) :
    ∃ low high, opening (UInt8.ofNat (n / 262144 % 8 + 240)) =
        .unfinished ⟨3, low, high, n / 262144⟩ ∧
      low ≤ n / 4096 % 64 + 128 ∧ n / 4096 % 64 + 128 ≤ high := by
  rw [opening, toNat_octet (by omega)]
  simp only [beq_iff_eq]
  rw [if_neg (by omega), if_neg (by omega), if_neg (by omega), if_neg (by omega), if_neg (by omega),
    if_neg (by omega)]
  split
  next hfirst => exact ⟨0x90, 0xBF, by congr 2; omega, by omega, by omega⟩
  split
  next hfirst => exact ⟨0x80, 0xBF, by congr 2; omega, by omega, by omega⟩
  next =>
    rw [if_pos (by omega)]
    exact ⟨0x80, 0x8F, by congr 2; omega, by omega, by omega⟩

end Opening

/-- The octets of a character are read as the character, whatever follows. -/
theorem decodeLossyFrom_char (c : Char) (bs : List UInt8) :
    decodeLossyFrom none (String.utf8EncodeChar c ++ bs) = c :: decodeLossyFrom none bs := by
  have hc : Char.ofNat c.toNat = c := Char.ofNat_toNat c
  have hvalid : c.toNat.isValidChar := c.valid
  by_cases h1 : c.toNat ≤ 0x7F
  · have hoctets : String.utf8EncodeChar c = [UInt8.ofNat c.toNat] := if_pos h1
    rw [hoctets, List.singleton_append, decodeLossyFrom_whole (opening_one h1), hc]
  by_cases h2 : c.toNat ≤ 0x7FF
  · have hoctets : String.utf8EncodeChar c =
        [UInt8.ofNat (c.toNat / 64 % 32 + 192), UInt8.ofNat (c.toNat % 64 + 128)] :=
      (if_neg h1).trans (if_pos h2)
    rw [hoctets, List.cons_append, List.singleton_append,
      decodeLossyFrom_unfinished (opening_two (by omega) h2),
      decodeLossyFrom_last (by omega) (by omega), hc]
  by_cases h3 : c.toNat ≤ 0xFFFF
  · have hoctets : String.utf8EncodeChar c =
        [UInt8.ofNat (c.toNat / 4096 % 16 + 224), UInt8.ofNat (c.toNat / 64 % 64 + 128),
          UInt8.ofNat (c.toNat % 64 + 128)] :=
      (if_neg h1).trans ((if_neg h2).trans (if_pos h3))
    obtain ⟨low, high, hopening, hlow, hhigh⟩ := opening_three (by omega) h3 hvalid
    have hbits : c.toNat / 4096 = c.toNat / 64 / 64 := by omega
    rw [hoctets, List.cons_append, List.cons_append, List.singleton_append,
      decodeLossyFrom_unfinished hopening, hbits, decodeLossyFrom_middle hlow hhigh,
      decodeLossyFrom_last (by omega) (by omega), hc]
  · have hlast : c.toNat ≤ 0x10FFFF := by
      rcases hvalid with h | h <;> omega
    have hoctets : String.utf8EncodeChar c =
        [UInt8.ofNat (c.toNat / 262144 % 8 + 240), UInt8.ofNat (c.toNat / 4096 % 64 + 128),
          UInt8.ofNat (c.toNat / 64 % 64 + 128), UInt8.ofNat (c.toNat % 64 + 128)] :=
      (if_neg h1).trans ((if_neg h2).trans (if_neg h3))
    obtain ⟨low, high, hopening, hlow, hhigh⟩ := opening_four (by omega) hlast
    have hfirst : c.toNat / 262144 = c.toNat / 4096 / 64 := by omega
    have hbits : c.toNat / 4096 = c.toNat / 64 / 64 := by omega
    rw [hoctets, List.cons_append, List.cons_append, List.cons_append, List.singleton_append,
      decodeLossyFrom_unfinished hopening, hfirst, decodeLossyFrom_middle hlow hhigh, hbits,
      decodeLossyFrom_middle (by omega) (by omega), decodeLossyFrom_last (by omega) (by omega), hc]

/-- The octets of a text are read as the text. -/
theorem decodeLossy_utf8 (cs : List Char) : decodeLossy (utf8 cs) = cs := by
  rw [decodeLossy]
  induction cs with
  | nil => rfl
  | cons c cs ih => rw [utf8, List.flatMap_cons, decodeLossyFrom_char, ← utf8, ih]

end ClusterProbe.Text
