import Mathlib.Tactic.FieldSimp
import Mathlib.Tactic.SplitIfs
import ClusterProbe.Proofs.Number.Value

/-!
# Rounding to a double

The rational numbers that round to a positive double lie around it, up to half the way to its
neighbours. Main statements: a decimal among these numbers is read as the double, and a product or a
quotient among them comes to it.
-/

namespace ClusterProbe.Binary64

/-- The unit in which the significand counts. -/
def grain (x : Binary64) : ℚ := 2 ^ x.exponent

/-- Half the way to the double below, in the unit of the significand. Below a power of two the
doubles are closer to each other. -/
def lowerGap (x : Binary64) : ℚ := if x.fraction.val = 0 ∧ 1 < x.biased.val then 1 / 4 else 1 / 2

/-- A rational number that rounds to a positive double. The ends of the stretch belong to it if the
significand is even. -/
structure RoundsTo (x : Binary64) (v : ℚ) : Prop where
  lower : (x.significand - x.lowerGap) * x.grain ≤ v
  upper : v ≤ (x.significand + 1 / 2) * x.grain
  strict : x.significand % 2 = 1 →
    (x.significand - x.lowerGap) * x.grain < v ∧ v < (x.significand + 1 / 2) * x.grain

theorem grain_pos (x : Binary64) : 0 < x.grain := zpow_pos (by norm_num) _

theorem lowerGap_pos (x : Binary64) : 0 < x.lowerGap := by
  unfold lowerGap
  split <;> norm_num

theorem lowerGap_le (x : Binary64) : x.lowerGap ≤ 1 / 2 := by
  unfold lowerGap
  split <;> norm_num

/-- The two ends belong to the stretch together or not at all. -/
theorem roundsTo_iff {x : Binary64} {v : ℚ} :
    x.RoundsTo v ↔
      if x.significand % 2 = 0 then
        (x.significand - x.lowerGap) * x.grain ≤ v ∧ v ≤ (x.significand + 1 / 2) * x.grain
      else (x.significand - x.lowerGap) * x.grain < v ∧ v < (x.significand + 1 / 2) * x.grain := by
  split
  next heven => exact ⟨fun h ↦ ⟨h.lower, h.upper⟩, fun h ↦ ⟨h.1, h.2, fun hodd ↦ by omega⟩⟩
  next hodd => exact ⟨fun h ↦ h.strict (by omega), fun h ↦ ⟨h.1.le, h.2.le, fun _ ↦ h⟩⟩

/-- What rounds to a double that is not zero is positive. -/
theorem RoundsTo.pos {x : Binary64} {v : ℚ} (h : x.RoundsTo v) (hx : x.significand ≠ 0) : 0 < v := by
  have hone : (1 : ℚ) ≤ x.significand := by exact_mod_cast Nat.one_le_iff_ne_zero.mpr hx
  have hgap := x.lowerGap_le
  exact (mul_pos (by linarith) x.grain_pos).trans_le h.lower

section Division

/-- A quotient that is nearest to a natural, or as near to it as to another one and it is even, is
rounded to it. -/
theorem roundDiv_eq {n d m : Nat} (hd : 0 < d) (hlow : 2 * m * d ≤ 2 * n + d)
    (hhigh : 2 * n ≤ (2 * m + 1) * d)
    (hodd : m % 2 = 1 → 2 * m * d < 2 * n + d ∧ 2 * n < (2 * m + 1) * d) : roundDiv n d = m := by
  have hmod := Nat.mod_lt n hd
  have hdiv := Nat.div_add_mod n d
  set q := n / d with hq
  set r := n % d with hr
  -- The quotient is `m`, or one less.
  have hqm : q = m ∨ q + 1 = m := by
    have hle : q ≤ m := by
      by_contra hlt
      have : d * (m + 1) ≤ d * q := Nat.mul_le_mul_left d (by omega)
      have hexpand : d * (m + 1) = d * m + d := by ring
      have hexpand' : (2 * m + 1) * d = 2 * (d * m) + d := by ring
      omega
    have hge : m ≤ q + 1 := by
      by_contra hlt
      have : d * (q + 2) ≤ d * m := Nat.mul_le_mul_left d (by omega)
      have hexpand : d * (q + 2) = d * q + 2 * d := by ring
      have hexpand' : 2 * m * d = 2 * (d * m) := by ring
      omega
    omega
  have hlow' : 2 * m * d = 2 * (d * m) := by ring
  have hhigh' : (2 * m + 1) * d = 2 * (d * m) + d := by ring
  rw [hlow', hhigh'] at hodd
  rw [hlow'] at hlow
  rw [hhigh'] at hhigh
  unfold roundDiv
  rw [← hq, ← hr]
  dsimp only
  rcases hqm with rfl | hqm
  · split_ifs <;> omega
  · have hexpand : d * m = d * q + d := by rw [← hqm]; ring
    split_ifs <;> omega

/-- The same for the quotient as a rational number. -/
theorem roundDiv_eq_of_near {n d m : Nat} {v : ℚ} (hd : 0 < d) (hv : (n : ℚ) / d = v)
    (hlow : m - 1 / 2 ≤ v) (hhigh : v ≤ m + 1 / 2)
    (hodd : m % 2 = 1 → m - 1 / 2 < v ∧ v < m + 1 / 2) : roundDiv n d = m := by
  have hd' : (0 : ℚ) < d := by exact_mod_cast hd
  have hn : (n : ℚ) = v * d := by rw [← hv, div_mul_cancel₀ _ hd'.ne']
  refine roundDiv_eq hd ?_ ?_ fun hm ↦ ⟨?_, ?_⟩
  · have h := mul_le_mul_of_nonneg_right hlow hd'.le
    have hcast : (2 * m * d : ℚ) ≤ 2 * n + d := by rw [hn]; linarith
    exact_mod_cast hcast
  · have h := mul_le_mul_of_nonneg_right hhigh hd'.le
    have hcast : (2 * n : ℚ) ≤ (2 * m + 1) * d := by rw [hn]; linarith
    exact_mod_cast hcast
  · have h := mul_lt_mul_of_pos_right (hodd hm).1 hd'
    have hcast : (2 * m * d : ℚ) < 2 * n + d := by rw [hn]; linarith
    exact_mod_cast hcast
  · have h := mul_lt_mul_of_pos_right (hodd hm).2 hd'
    have hcast : (2 * n : ℚ) < (2 * m + 1) * d := by rw [hn]; linarith
    exact_mod_cast hcast

/-- Scaling by a power of two divides the quotient by it. -/
theorem scaled_spec (num : Nat) {den : Nat} (hden : 0 < den) (e : Int) :
    0 < (scaled num den e).2 ∧
      ((scaled num den e).1 : ℚ) / (scaled num den e).2 = num / den / 2 ^ e := by
  have hpow (k : Nat) : Nat.pow 2 k = 2 ^ k := rfl
  have hden' : (den : ℚ) ≠ 0 := by exact_mod_cast hden.ne'
  unfold scaled
  split
  next he =>
    refine ⟨hden, ?_⟩
    have hexp : e = -(e.natAbs : Int) := by omega
    have hzpow : (2 : ℚ) ^ e = ((2 : ℚ) ^ e.natAbs)⁻¹ := by
      conv_lhs => rw [hexp]
      rw [zpow_neg, zpow_natCast]
    rw [hzpow, hpow]
    push_cast
    field_simp
  next he =>
    refine ⟨Nat.mul_pos hden (Nat.pow_pos (by decide)), ?_⟩
    have hexp : e = (e.natAbs : Int) := by omega
    have hzpow : (2 : ℚ) ^ e = (2 : ℚ) ^ e.natAbs := by
      conv_lhs => rw [hexp]
      rw [zpow_natCast]
    rw [hzpow, hpow]
    push_cast
    field_simp

end Division

section Reading

variable {x : Binary64} {v : ℚ} {num den : Nat}

/-- A quotient lies between powers of two that are told by the lengths of its parts. -/
theorem log2_bounds (hnum : num ≠ 0) (hden : den ≠ 0) :
    (2 : ℚ) ^ ((num.log2 : Int) - den.log2 - 1) < num / den ∧
      (num / den : ℚ) < 2 ^ ((num.log2 : Int) - den.log2 + 1) := by
  have hnum' : (0 : ℚ) < num := by exact_mod_cast Nat.pos_of_ne_zero hnum
  have hden' : (0 : ℚ) < den := by exact_mod_cast Nat.pos_of_ne_zero hden
  have hn₁ : (2 : ℚ) ^ num.log2 ≤ num := by exact_mod_cast Nat.log2_self_le hnum
  have hn₂ : (num : ℚ) < 2 ^ (num.log2 + 1) := by exact_mod_cast Nat.lt_log2_self
  have hd₁ : (2 : ℚ) ^ den.log2 ≤ den := by exact_mod_cast Nat.log2_self_le hden
  have hd₂ : (den : ℚ) < 2 ^ (den.log2 + 1) := by exact_mod_cast Nat.lt_log2_self
  constructor
  · rw [lt_div_iff₀ hden']
    calc (2 : ℚ) ^ ((num.log2 : Int) - den.log2 - 1) * den
        < 2 ^ ((num.log2 : Int) - den.log2 - 1) * 2 ^ (den.log2 + 1) :=
          mul_lt_mul_of_pos_left hd₂ (zpow_pos (by norm_num) _)
      _ = 2 ^ num.log2 := by
          rw [← zpow_natCast, ← zpow_natCast, ← zpow_add₀ (by norm_num)]
          congr 1
          push_cast
          ring
      _ ≤ num := hn₁
  · rw [div_lt_iff₀ hden']
    calc (num : ℚ) < 2 ^ (num.log2 + 1) := hn₂
      _ = 2 ^ ((num.log2 : Int) - den.log2 + 1) * 2 ^ den.log2 := by
          rw [← zpow_natCast, ← zpow_natCast, ← zpow_add₀ (by norm_num)]
          congr 1
          push_cast
          ring
      _ ≤ 2 ^ ((num.log2 : Int) - den.log2 + 1) * den :=
          mul_le_mul_of_nonneg_left hd₁ (zpow_nonneg (by norm_num) _)

/-- The power of two leaves 53 bits before the point, or fewer where it is the least one. -/
theorem quantum_spec (hnum : num ≠ 0) (hden : den ≠ 0) :
    -1074 ≤ quantum num den ∧ (num / den : ℚ) < 2 ^ 53 * 2 ^ quantum num den ∧
      (quantum num den = -1074 ∨ (2 ^ 52 * 2 ^ quantum num den : ℚ) ≤ num / den) := by
  obtain ⟨hlow, hhigh⟩ := log2_bounds hnum hden
  have hshift (k : Int) (j : Nat) : (2 : ℚ) ^ j * 2 ^ k = 2 ^ (k + j) := by
    rw [← zpow_natCast, ← zpow_add₀ (by norm_num), add_comm]
  unfold quantum
  generalize hguess : (num.log2 : Int) - den.log2 - 52 = guess
  obtain ⟨hd, hquotient⟩ := scaled_spec num (Nat.pos_of_ne_zero hden) guess
  have hguess_pos : (0 : ℚ) < 2 ^ guess := zpow_pos (by norm_num) _
  have hd_pos : (0 : ℚ) < (scaled num den guess).2 := by exact_mod_cast hd
  have hsmall : (scaled num den guess).1 < (scaled num den guess).2 * Nat.pow 2 52 ↔
      (num / den : ℚ) < 2 ^ 52 * 2 ^ guess := by
    rw [← div_lt_iff₀ hguess_pos, ← hquotient, div_lt_iff₀ hd_pos, mul_comm]
    norm_cast
  dsimp only
  by_cases hcase : (num / den : ℚ) < 2 ^ 52 * 2 ^ guess
  · rw [if_pos (hsmall.mpr hcase)]
    refine ⟨by omega, hcase.trans_le ?_, ?_⟩
    · rw [hshift, hshift]
      exact zpow_le_zpow_right₀ (by norm_num) (by push_cast; omega)
    · rcases le_total (guess - 1) (-1074) with hle | hle
      · exact .inl (max_eq_right hle)
      · rw [max_eq_left hle, hshift]
        exact .inr ((zpow_le_zpow_right₀ (by norm_num) (by push_cast; omega)).trans hlow.le)
  · rw [if_neg (mt hsmall.mp hcase)]
    refine ⟨by omega, hhigh.trans_le ?_, ?_⟩
    · rw [hshift]
      exact zpow_le_zpow_right₀ (by norm_num) (by push_cast; omega)
    · rcases le_total guess (-1074) with hle | hle
      · exact .inl (max_eq_right hle)
      · rw [max_eq_left hle]
        exact .inr (not_lt.mp hcase)

/-- A significand that needs no carry is put together with its exponent. -/
theorem assemble_eq_some {m : Nat} {e : Int} (hm : m ≠ 2 ^ 53)
    (hbiased : (if m < 2 ^ 52 then 0 else (e + 1075).toNat) = x.biased.val)
    (hfraction : m % 2 ^ 52 = x.fraction.val) : assemble x.negative m e = some x := by
  have hpow (k : Nat) : Nat.pow 2 k = 2 ^ k := rfl
  obtain ⟨negative, biased, fraction⟩ := x
  unfold assemble
  rw [hpow 53, if_neg hm]
  simp only [hpow, hbiased, hfraction]
  rw [dif_pos biased.isLt]

/-- A double is assembled from its significand and its exponent. -/
theorem assemble_significand (x : Binary64) :
    assemble x.negative x.significand x.exponent = some x := by
  have hpow : Nat.pow 2 52 = 2 ^ 52 := rfl
  have hlt := x.significand_lt
  have hfraction := x.fraction.isLt
  refine assemble_eq_some hlt.ne ?_ ?_
  · unfold significand exponent
    split <;> split <;> omega
  · unfold significand
    split <;> omega

/-- A significand of 54 bits is carried into the exponent. -/
theorem assemble_carry (negative : Bool) (e : Int) :
    assemble negative (2 ^ 53) e = assemble negative (2 ^ 52) (e + 1) := by
  have hpow (k : Nat) : Nat.pow 2 k = 2 ^ k := rfl
  have hne : (2 ^ 52 : Nat) ≠ 2 ^ 53 := by decide
  unfold assemble
  simp only [hpow, if_true, if_neg hne]

/-- Where a quotient rounds to a double, it is rounded in the unit of that double; or just below a
power of two, in half of it. -/
theorem exponent_cases {e : Int} (h : x.RoundsTo v) (hleast : -1074 ≤ e)
    (hhigh : v < 2 ^ 53 * 2 ^ e) (hlow : e = -1074 ∨ 2 ^ 52 * 2 ^ e ≤ v) :
    e = x.exponent ∨
      e = x.exponent - 1 ∧ x.significand = 2 ^ 52 ∧ x.lowerGap = 1 / 4 := by
  have hm : (x.significand : ℚ) ≤ 2 ^ 53 - 1 := by
    have hlt := x.significand_lt
    have hle : x.significand + 1 ≤ 2 ^ 53 := by omega
    have hcast : (x.significand + 1 : ℚ) ≤ 2 ^ 53 := by exact_mod_cast hle
    linarith
  have hu := x.grain_pos
  have hmin : -1074 ≤ x.exponent := by
    unfold exponent
    omega
  have hdouble : (2 : ℚ) ^ (x.exponent + 1) = 2 * x.grain := by
    rw [zpow_add_one₀ (by norm_num), mul_comm, grain]
  have hhalf : (2 : ℚ) ^ (x.exponent - 1) * 2 = x.grain := by
    rw [zpow_sub_one₀ (by norm_num), grain]
    ring
  have hquarter : (2 : ℚ) ^ (x.exponent - 2) * 4 = x.grain := by
    rw [zpow_sub₀ (by norm_num), grain]
    ring
  have hle : e ≤ x.exponent := by
    by_contra hlt
    have hpow : (2 : ℚ) ^ (x.exponent + 1) ≤ 2 ^ e := zpow_le_zpow_right₀ (by norm_num) (by omega)
    have hv := hlow.resolve_left (by omega)
    have hupper := h.upper
    nlinarith
  rcases hle.lt_or_eq with hlt | heq
  · right
    have hbiased : 1 < x.biased.val := by
      unfold exponent at hlt hmin
      omega
    have hpow : (2 : ℚ) ^ e ≤ 2 ^ (x.exponent - 1) := zpow_le_zpow_right₀ (by norm_num) (by omega)
    have hfull : 2 ^ 52 ≤ x.significand := le_significand (by omega)
    have hlower := h.lower
    have hgap := x.lowerGap_le
    have hlt' : x.significand < 2 ^ 52 + 1 := by
      by_contra hge
      have hge' : (2 ^ 52 + 1 : ℚ) ≤ x.significand := by exact_mod_cast not_lt.mp hge
      nlinarith
    have hm' : x.significand = 2 ^ 52 := by omega
    have hfraction : x.fraction.val = 0 := by
      have hpow : Nat.pow 2 52 = 2 ^ 52 := rfl
      unfold significand at hm'
      rw [if_neg (by omega)] at hm'
      omega
    refine ⟨?_, hm', if_pos ⟨hfraction, hbiased⟩⟩
    by_contra hne
    have hpow' : (2 : ℚ) ^ e ≤ 2 ^ (x.exponent - 2) :=
      zpow_le_zpow_right₀ (by norm_num) (by omega)
    rw [hm'] at hlower
    push_cast at hlower
    nlinarith
  · exact .inl heq

/-- A quotient that rounds to a double is read as it. -/
theorem ofRatio_of_roundsTo (hx : x.significand ≠ 0) (hden : den ≠ 0)
    (h : x.RoundsTo (num / den)) : ofRatio x.negative num den = some x := by
  have hnum : num ≠ 0 := by
    rintro rfl
    have hpos := h.pos hx
    simp at hpos
  obtain ⟨hleast, hhigh, hlow⟩ := quantum_spec hnum hden
  unfold ofRatio
  rw [if_neg hnum]
  generalize quantum num den = e at hleast hhigh hlow ⊢
  obtain ⟨hd, hquotient⟩ := scaled_spec num (Nat.pos_of_ne_zero hden) e
  dsimp only
  rcases exponent_cases h hleast hhigh hlow with rfl | ⟨rfl, hm, hgap⟩
  · have hu : (0 : ℚ) < 2 ^ x.exponent := x.grain_pos
    have hcorner := x.lowerGap_le
    have hstretch : (x.significand - 1 / 2 : ℚ) ≤ x.significand - x.lowerGap := by linarith
    have hround : roundDiv (scaled num den x.exponent).1 (scaled num den x.exponent).2 =
        x.significand := by
      refine roundDiv_eq_of_near hd hquotient ?_ ?_ fun hodd ↦ ⟨?_, ?_⟩
      · exact hstretch.trans ((le_div_iff₀ hu).mpr h.lower)
      · exact (div_le_iff₀ hu).mpr h.upper
      · exact hstretch.trans_lt ((lt_div_iff₀ hu).mpr (h.strict hodd).1)
      · exact (div_lt_iff₀ hu).mpr (h.strict hodd).2
    rw [hround, assemble_significand]
  · -- What is less than a quarter below `2 ^ 52` is rounded up in half the unit.
    have hu : (0 : ℚ) < 2 ^ (x.exponent - 1) := zpow_pos (by norm_num) _
    have hhalf : x.grain = (2 : ℚ) ^ (x.exponent - 1) * 2 := by
      rw [zpow_sub_one₀ (by norm_num), grain]
      ring
    have hround : roundDiv (scaled num den (x.exponent - 1)).1
        (scaled num den (x.exponent - 1)).2 = 2 ^ 53 := by
      refine roundDiv_eq_of_near hd hquotient ?_ ?_ fun hodd ↦ absurd hodd (by decide)
      · have hlower := h.lower
        rw [hm, hgap, hhalf] at hlower
        rw [le_div_iff₀ hu]
        push_cast at hlower ⊢
        linarith
      · rw [div_le_iff₀ hu]
        push_cast
        linarith
    rw [hround, assemble_carry, sub_add_cancel, ← hm, assemble_significand]

end Reading

section Decimals

variable {x : Binary64} {digits : Nat} {e : Int}

/-- A power of a base, as the fraction of the two naturals that it is kept as. -/
theorem zpow_eq_natAbs (b : ℚ) (e : Int) :
    (e < 0 → b ^ e = (b ^ e.natAbs)⁻¹) ∧ (¬ e < 0 → b ^ e = b ^ e.natAbs) := by
  refine ⟨fun he ↦ ?_, fun he ↦ ?_⟩
  · have hexp : e = -(e.natAbs : Int) := by omega
    conv_lhs => rw [hexp]
    rw [zpow_neg, zpow_natCast]
  · have hexp : e = (e.natAbs : Int) := by omega
    conv_lhs => rw [hexp]
    rw [zpow_natCast]

theorem ten_zpow_pos (p : Int) : (0 : ℚ) < 10 ^ p := zpow_pos (by norm_num) _

/-- A natural number lies between the powers of ten that its number of digits tells. -/
theorem toDigits_length_bounds {n : Nat} (hn : n ≠ 0) :
    (10 : ℚ) ^ ((Nat.toDigits 10 n).length - 1 : Int) ≤ n ∧
      (n : ℚ) < 10 ^ ((Nat.toDigits 10 n).length : Int) := by
  have hpos : 0 < (Nat.toDigits 10 n).length := Nat.length_toDigits_pos
  constructor
  · have hle : 10 ^ ((Nat.toDigits 10 n).length - 1) ≤ n := by
      rcases Nat.eq_zero_or_pos ((Nat.toDigits 10 n).length - 1) with hzero | hlen
      · rw [hzero]
        omega
      · by_contra hlt
        have := (Nat.length_toDigits_le_iff (by decide) hlen).mpr (not_le.mp hlt)
        omega
    have hcast : ((10 ^ ((Nat.toDigits 10 n).length - 1) : Nat) : ℚ) ≤ n := by exact_mod_cast hle
    rw [Nat.cast_pow, Nat.cast_ofNat, ← zpow_natCast, Nat.cast_sub hpos] at hcast
    exact hcast
  · have hlt := (Nat.length_toDigits_le_iff (by decide) hpos).mp le_rfl
    rw [zpow_natCast]
    exact_mod_cast hlt

/-- What rounds to a double is neither so small nor so large that its number of digits alone would
tell. -/
theorem RoundsTo.bounds {v : ℚ} (h : x.RoundsTo v) (hx : x.significand ≠ 0) :
    (10 : ℚ) ^ (-401 : Int) < v ∧ v < 10 ^ (400 : Int) := by
  have hone : (1 : ℚ) ≤ x.significand := by exact_mod_cast Nat.one_le_iff_ne_zero.mpr hx
  have hm : (x.significand + 1 : ℚ) ≤ 2 ^ 53 := by exact_mod_cast x.significand_lt
  have hgap := x.lowerGap_le
  have hleast : (2 : ℚ) ^ (-1074 : Int) ≤ x.grain :=
    zpow_le_zpow_right₀ (by norm_num) (by unfold exponent; omega)
  have hmost : x.grain ≤ (2 : ℚ) ^ (971 : Int) :=
    zpow_le_zpow_right₀ (by norm_num) (by unfold exponent; omega)
  have hsmall : (10 : ℚ) ^ (-401 : Int) * 2 < 2 ^ (-1074 : Int) := by
    have hnat : 2 ^ 1074 * 2 < 10 ^ 401 := by decide +kernel
    rw [zpow_neg, zpow_neg, zpow_ofNat, zpow_ofNat, ← div_eq_inv_mul,
      div_lt_iff₀ (by positivity), inv_mul_eq_div, lt_div_iff₀ (by positivity), mul_comm]
    exact_mod_cast hnat
  have hlarge : (2 : ℚ) ^ 53 * 2 ^ (971 : Int) < 10 ^ (400 : Int) := by
    have hnat : 2 ^ 53 * 2 ^ 971 < 10 ^ 400 := by decide +kernel
    rw [zpow_ofNat, zpow_ofNat]
    exact_mod_cast hnat
  have hu := x.grain_pos
  constructor
  · calc (10 : ℚ) ^ (-401 : Int) < 1 / 2 * x.grain := by linarith
      _ ≤ (x.significand - x.lowerGap) * x.grain :=
        mul_le_mul_of_nonneg_right (by linarith) hu.le
      _ ≤ v := h.lower
  · calc v ≤ (x.significand + 1 / 2) * x.grain := h.upper
      _ ≤ 2 ^ 53 * x.grain := mul_le_mul_of_nonneg_right (by linarith) hu.le
      _ ≤ 2 ^ 53 * 2 ^ (971 : Int) := mul_le_mul_of_nonneg_left hmost (by norm_num)
      _ < 10 ^ (400 : Int) := hlarge

/-- A decimal that rounds to a double is read as it. -/
theorem ofDecimal_of_roundsTo (hx : x.significand ≠ 0) (h : x.RoundsTo (digits * 10 ^ e)) :
    ofDecimal x.negative digits e = some x := by
  have hpow (k : Nat) : Nat.pow 10 k = 10 ^ k := rfl
  have hdigits : digits ≠ 0 := by
    rintro rfl
    have hpos := h.pos hx
    simp at hpos
  obtain ⟨hlow, hhigh⟩ := toDigits_length_bounds hdigits
  obtain ⟨hsmall, hlarge⟩ := h.bounds hx
  obtain ⟨hneg, hnonneg⟩ := zpow_eq_natAbs 10 e
  unfold ofDecimal
  rw [if_neg hdigits]
  dsimp only
  generalize ((Nat.toDigits 10 digits).length : Int) = a at hlow hhigh ⊢
  have hplaces_low : ¬ a + e < -400 := by
    intro hlt
    have hle : (10 : ℚ) ^ (a + e) ≤ 10 ^ (-401 : Int) :=
      zpow_le_zpow_right₀ (by norm_num) (by omega)
    rw [zpow_add₀ (by norm_num)] at hle
    have hv := mul_lt_mul_of_pos_right hhigh (ten_zpow_pos e)
    linarith
  have hplaces_high : ¬ 400 < a + e := by
    intro hlt
    have hle : (10 : ℚ) ^ (400 : Int) ≤ 10 ^ (a - 1 + e) :=
      zpow_le_zpow_right₀ (by norm_num) (by omega)
    rw [zpow_add₀ (by norm_num)] at hle
    have hv := mul_le_mul_of_nonneg_right hlow (ten_zpow_pos e).le
    linarith
  rw [if_neg hplaces_low, if_neg hplaces_high]
  split
  next he =>
    refine ofRatio_of_roundsTo hx (Nat.pow_pos (by decide)).ne' ?_
    rw [hneg he] at h
    rw [hpow]
    push_cast
    rwa [div_eq_mul_inv]
  next he =>
    refine ofRatio_of_roundsTo hx one_ne_zero ?_
    rw [hnonneg he] at h
    rw [hpow]
    push_cast
    rwa [div_one]

end Decimals

section Operations

variable {x y z : Binary64}

/-- A product that rounds to a double is that double. -/
theorem mul?_of_roundsTo (hz : z.significand ≠ 0) (hsign : z.negative = (x.negative != y.negative))
    (h : z.RoundsTo (x.magnitude * y.magnitude)) : x.mul? y = some z := by
  obtain ⟨hd, hproduct⟩ :=
    scaled_spec (x.significand * y.significand) Nat.one_pos (-(x.exponent + y.exponent))
  have hvalue : ((x.significand * y.significand : Nat) : ℚ) / (1 : Nat) /
      2 ^ (-(x.exponent + y.exponent)) = x.magnitude * y.magnitude := by
    rw [zpow_neg, zpow_add₀ (by norm_num), magnitude, magnitude]
    push_cast
    field_simp
  rw [mul?, ← hsign]
  refine ofRatio_of_roundsTo hz hd.ne' ?_
  rwa [hproduct, hvalue]

/-- A quotient that rounds to a double is that double. -/
theorem div?_of_roundsTo (hz : z.significand ≠ 0) (hy : y.significand ≠ 0)
    (hsign : z.negative = (x.negative != y.negative)) (h : z.RoundsTo (x.magnitude / y.magnitude)) :
    x.div? y = some z := by
  obtain ⟨hd, hquotient⟩ :=
    scaled_spec x.significand (Nat.pos_of_ne_zero hy) (y.exponent - x.exponent)
  have hvalue : (x.significand : ℚ) / y.significand / 2 ^ (y.exponent - x.exponent) =
      x.magnitude / y.magnitude := by
    rw [zpow_sub₀ (by norm_num), magnitude, magnitude]
    field_simp
  rw [div?, ← hsign]
  refine ofRatio_of_roundsTo hz hd.ne' ?_
  rwa [hquotient, hvalue]

/-- A double is what it stands for rounds to. -/
theorem roundsTo_magnitude (x : Binary64) : x.RoundsTo x.magnitude := by
  have hgap := x.lowerGap_pos
  have hlower : (x.significand - x.lowerGap) * x.grain < x.magnitude :=
    mul_lt_mul_of_pos_right (by linarith) x.grain_pos
  have hupper : x.magnitude < (x.significand + 1 / 2) * x.grain :=
    mul_lt_mul_of_pos_right (by linarith) x.grain_pos
  exact ⟨hlower.le, hupper.le, fun _ ↦ ⟨hlower, hupper⟩⟩

/-- A natural number of at most 53 bits times a power of two is a double. -/
theorem exists_magnitude_eq (negative : Bool) {m j : Nat} (hm : m ≠ 0) (hlt : m < 2 ^ 53)
    (hj : j ≤ 900) : ∃ x : Binary64, x.negative = negative ∧ x.magnitude = m * 2 ^ j := by
  have hpow : Nat.pow 2 52 = 2 ^ 52 := rfl
  have hlog : m.log2 ≤ 52 := Nat.lt_succ_iff.mp ((Nat.log2_lt hm).mpr hlt)
  have hlow : 2 ^ 52 ≤ m * 2 ^ (52 - m.log2) := by
    calc 2 ^ 52 = 2 ^ m.log2 * 2 ^ (52 - m.log2) := by rw [← pow_add]; congr 1; omega
      _ ≤ m * 2 ^ (52 - m.log2) := Nat.mul_le_mul_right _ (Nat.log2_self_le hm)
  have hhigh : m * 2 ^ (52 - m.log2) < 2 ^ 53 := by
    calc m * 2 ^ (52 - m.log2) < 2 ^ (m.log2 + 1) * 2 ^ (52 - m.log2) :=
          Nat.mul_lt_mul_of_pos_right Nat.lt_log2_self (Nat.two_pow_pos _)
      _ = 2 ^ 53 := by rw [← pow_add]; congr 1; omega
  let x : Binary64 := ⟨negative, ⟨1023 + m.log2 + j, by omega⟩,
    ⟨m * 2 ^ (52 - m.log2) - 2 ^ 52, by omega⟩⟩
  have hsignificand : x.significand = m * 2 ^ (52 - m.log2) := by
    rw [significand, if_neg (by simp [x])]
    simp only [x]
    omega
  have hexponent : x.exponent = (j : Int) - (52 - m.log2 : Nat) := by
    simp only [exponent, x]
    omega
  refine ⟨x, rfl, ?_⟩
  rw [magnitude, hsignificand, hexponent, zpow_sub₀ (by norm_num), zpow_natCast, zpow_natCast]
  push_cast
  field_simp

end Operations

end ClusterProbe.Binary64
