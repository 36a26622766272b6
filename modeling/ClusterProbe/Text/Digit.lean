/-!
# Digits

Digits in every base up to sixteen, the numbers that they are written for, and characters given by
their number.
-/

namespace ClusterProbe.Text

/-- The value of a digit in a base up to sixteen. Letters are digits from ten on, small or
capital. -/
def digitIn? (base : Nat) (c : Char) : Option Nat :=
  let value :=
    if c.isDigit then some (c.toNat - 48)
    else if 'a' ≤ c && c ≤ 'f' then some (c.toNat - 87)
    else if 'A' ≤ c && c ≤ 'F' then some (c.toNat - 55)
    else none
  value.filter (· < base)

/-- The digits below ten. -/
theorem digitIn?_ten (c : Char) :
    digitIn? 10 c = if c.isDigit then some (c.toNat - 48) else none := by
  unfold digitIn?
  split
  next hdigit =>
    have hrange : 48 ≤ c.toNat ∧ c.toNat ≤ 57 := Char.isDigit_iff_toNat.mp hdigit
    rw [Option.filter_some, if_pos (by simp; omega)]
  next hdigit =>
    dsimp only
    split
    next hlower =>
      obtain ⟨hge, -⟩ := Bool.and_eq_true_iff.mp hlower
      have hnat : 97 ≤ c.toNat := of_decide_eq_true hge
      rw [Option.filter_some, if_neg (by simp; omega)]
    next =>
      split
      next hupper =>
        obtain ⟨hge, -⟩ := Bool.and_eq_true_iff.mp hupper
        have hnat : 65 ≤ c.toNat := of_decide_eq_true hge
        rw [Option.filter_some, if_neg (by simp; omega)]
      next => rfl

/-- The number that digits in a base are written for; no digits stand for zero. -/
def numberIn? (base : Nat) (cs : List Char) : Option Nat :=
  cs.foldlM (fun n c ↦ (digitIn? base c).map (n * base + ·)) 0

/-- The character with a number; surrogates are none, and so is what is beyond the last one. -/
def scalarValue? (n : Nat) : Option Char :=
  if (0xD800 ≤ n && n ≤ 0xDFFF) || 0x10FFFF < n then none else some (Char.ofNat n)

end ClusterProbe.Text
