import ClusterProbe.Number.Shortest
import ClusterProbe.Proofs.Number.Rounding

/-!
# The shortest decimal is the double

Seventeen digits are enough: with so many of them the decimals lie closer to each other than the
numbers that round to a double reach. Main statement: the shortest decimal of a double that is not
zero rounds to it.
-/

namespace ClusterProbe.Binary64

variable {x : Binary64}

section Neighbours

/-- The neighbourhood counts in quarters of the unit of the significand. -/
theorem neighbourhood_eq (x : Binary64) :
    ∃ part unit : Nat, 0 < unit ∧ (part / unit : ℚ) = x.grain / 4 ∧
      x.neighbourhood = ⟨(4 * x.significand -
          if x.fraction.val = 0 && 1 < x.biased.val then 1 else 2) * part,
        4 * x.significand * part, (4 * x.significand + 2) * part, unit, x.significand % 2 = 0⟩ := by
  have hpow (k : Nat) : Nat.pow 2 k = 2 ^ k := rfl
  obtain ⟨hneg, hnonneg⟩ := zpow_eq_natAbs 2 x.exponent
  unfold neighbourhood grain
  by_cases he : x.exponent < 0
  · refine ⟨1, 4 * 2 ^ x.exponent.natAbs, by positivity, ?_, ?_⟩
    · rw [hneg he]
      push_cast
      field_simp
    · simp only [if_pos he, hpow]
  · refine ⟨2 ^ x.exponent.natAbs, 4, by decide, ?_, ?_⟩
    · rw [hnonneg he]
      push_cast
      ring
    · simp only [if_neg he, hpow]

/-- The three fractions of the neighbourhood are the ends of the stretch that rounds to the double
and the double itself. -/
theorem neighbourhood_spec (hx : x.significand ≠ 0) :
    0 < x.neighbourhood.unit ∧
      (x.neighbourhood.low / x.neighbourhood.unit : ℚ) =
        (x.significand - x.lowerGap) * x.grain ∧
      (x.neighbourhood.value / x.neighbourhood.unit : ℚ) = x.magnitude ∧
      (x.neighbourhood.high / x.neighbourhood.unit : ℚ) = (x.significand + 1 / 2) * x.grain ∧
      (x.neighbourhood.closed = true ↔ x.significand % 2 = 0) := by
  have hbelow : (if x.fraction.val = 0 && 1 < x.biased.val then (1 : ℚ) else 2) =
      4 * x.lowerGap := by
    unfold lowerGap
    split <;> split <;> simp_all
    all_goals norm_num
  have hle : (if x.fraction.val = 0 && 1 < x.biased.val then 1 else 2) ≤ 4 * x.significand := by
    split <;> omega
  obtain ⟨part, unit, hunit, hpart, heq⟩ := x.neighbourhood_eq
  have hfraction (n : ℚ) : n * part / unit = n * (x.grain / 4) := by
    rw [mul_div_assoc, hpart]
  rw [heq]
  refine ⟨hunit, ?_, ?_, ?_, decide_eq_true_iff⟩
  · push_cast [hle]
    rw [hfraction, hbelow]
    ring
  · push_cast
    rw [hfraction, magnitude, grain]
    ring
  · push_cast
    rw [hfraction]
    ring

/-- A decimal with a power of ten, as the fraction of two naturals that it is compared as. -/
theorem decimal_parts (q : Nat) (p : Int) {unit : Nat} (hunit : 0 < unit) :
    ∃ point scale : Nat, 0 < scale ∧ (q * 10 ^ p : ℚ) = point / (unit * scale) ∧
      (if p < 0 then (q * unit, Nat.pow 10 p.natAbs)
        else (q * unit * Nat.pow 10 p.natAbs, 1)) = (point, scale) := by
  have hpow (k : Nat) : Nat.pow 10 k = 10 ^ k := rfl
  have hunit' : (unit : ℚ) ≠ 0 := by exact_mod_cast hunit.ne'
  obtain ⟨hneg, hnonneg⟩ := zpow_eq_natAbs 10 p
  by_cases hp : p < 0
  · refine ⟨q * unit, 10 ^ p.natAbs, by positivity, ?_, by rw [if_pos hp, hpow]⟩
    rw [hneg hp]
    push_cast
    field_simp
  · refine ⟨q * unit * 10 ^ p.natAbs, 1, by decide, ?_, by rw [if_neg hp, hpow]⟩
    rw [hnonneg hp]
    push_cast
    field_simp

/-- Whether a decimal is found in the neighbourhood is whether it rounds to the double. -/
theorem holds_iff (hx : x.significand ≠ 0) (q : Nat) (p : Int) :
    x.neighbourhood.holds q p = true ↔ x.RoundsTo (q * 10 ^ p) := by
  obtain ⟨hunit, hlow, -, hhigh, hclosed⟩ := neighbourhood_spec hx
  obtain ⟨point, scale, hscale, hvalue, hparts⟩ := decimal_parts q p hunit
  have hscale' : (scale : ℚ) ≠ 0 := by exact_mod_cast hscale.ne'
  have hden : (0 : ℚ) < x.neighbourhood.unit * scale := by exact_mod_cast Nat.mul_pos hunit hscale
  have hcommon (n : Nat) : (n / x.neighbourhood.unit : ℚ) =
      (n * scale : Nat) / (x.neighbourhood.unit * scale) := by
    rw [Nat.cast_mul, mul_div_mul_right _ _ hscale']
  rw [hcommon] at hlow hhigh
  unfold Neighbourhood.holds
  rw [hparts, roundsTo_iff, ← hlow, ← hhigh, hvalue]
  simp only [div_le_div_iff_of_pos_right hden, div_lt_div_iff_of_pos_right hden, Nat.cast_le,
    Nat.cast_lt, hclosed]
  split <;> simp

end Neighbours

section Grids

variable {r : Neighbourhood} {p : Int} {q : Nat}

/-- What is found on a grid rounds to the double. -/
theorem holds_of_onGrid? (h : r.onGrid? p = some q) : r.holds q p = true := by
  unfold Neighbourhood.onGrid? at h
  generalize (if p < 0 then (r.value * Nat.pow 10 p.natAbs, r.unit)
    else (r.value, r.unit * Nat.pow 10 p.natAbs) : Nat × Nat) = parts at h
  obtain ⟨num, den⟩ := parts
  dsimp only at h
  cases hfloor : r.holds (num / den) p <;> cases hnext : r.holds (num / den + 1) p <;>
    rw [hfloor, hnext] at h <;> dsimp only at h
  · cases h
  · obtain rfl := Option.some.inj h
    exact hnext
  · obtain rfl := Option.some.inj h
    exact hfloor
  · split_ifs at h <;> obtain rfl := Option.some.inj h <;> assumption

/-- The double lies between two neighbours on a grid, and if one of them rounds to it something is
found. -/
theorem exists_onGrid? (hunit : 0 < r.unit) (p : Int) :
    ∃ q : Nat, (q * 10 ^ p : ℚ) ≤ r.value / r.unit ∧ (r.value / r.unit : ℚ) < (q + 1) * 10 ^ p ∧
      (r.holds q p = true ∨ r.holds (q + 1) p = true → ∃ found, r.onGrid? p = some found) := by
  obtain ⟨num, den, hden, hquotient, hparts⟩ : ∃ num den : Nat, 0 < den ∧
      (num / den : ℚ) = r.value / r.unit / 10 ^ p ∧
      (if p < 0 then (r.value * Nat.pow 10 p.natAbs, r.unit)
        else (r.value, r.unit * Nat.pow 10 p.natAbs)) = (num, den) := by
    have hpow (k : Nat) : Nat.pow 10 k = 10 ^ k := rfl
    have hunit' : (r.unit : ℚ) ≠ 0 := by exact_mod_cast hunit.ne'
    obtain ⟨hneg, hnonneg⟩ := zpow_eq_natAbs 10 p
    by_cases hp : p < 0
    · refine ⟨r.value * 10 ^ p.natAbs, r.unit, hunit, ?_, by rw [if_pos hp, hpow]⟩
      rw [hneg hp]
      push_cast
      field_simp
    · refine ⟨r.value, r.unit * 10 ^ p.natAbs, by positivity, ?_, by rw [if_neg hp, hpow]⟩
      rw [hnonneg hp]
      push_cast
      field_simp
  have hden' : (0 : ℚ) < den := by exact_mod_cast hden
  have hp := ten_zpow_pos p
  refine ⟨num / den, ?_, ?_, fun hholds ↦ ?_⟩
  · rw [← le_div_iff₀ hp, ← hquotient, le_div_iff₀ hden']
    exact_mod_cast Nat.div_mul_le_self num den
  · rw [← div_lt_iff₀ hp, ← hquotient, div_lt_iff₀ hden']
    rw [mul_comm]
    exact_mod_cast Nat.lt_mul_div_succ num hden
  · unfold Neighbourhood.onGrid?
    rw [hparts]
    dsimp only
    cases hfloor : r.holds (num / den) p <;> cases hnext : r.holds (num / den + 1) p
    · simp [hfloor, hnext] at hholds
    · exact ⟨_, rfl⟩
    · exact ⟨_, rfl⟩
    · split_ifs <;> exact ⟨_, rfl⟩

end Grids

section Digits

/-- The place of the point is told by a quotient. -/
theorem decimalPoint_spec {num den : Nat} (hnum : num ≠ 0) (hden : den ≠ 0) :
    (10 : ℚ) ^ (decimalPoint num den - 1) ≤ num / den ∧
      (num / den : ℚ) < 10 ^ decimalPoint num den := by
  have hpow (k : Nat) : Nat.pow 10 k = 10 ^ k := rfl
  have hden' : (0 : ℚ) < den := by exact_mod_cast Nat.pos_of_ne_zero hden
  obtain ⟨hnum_low, hnum_high⟩ := toDigits_length_bounds hnum
  obtain ⟨hden_low, hden_high⟩ := toDigits_length_bounds hden
  have hbelow (k : Int) : (if k < 0 then decide (num * Nat.pow 10 k.natAbs < den)
      else decide (num < den * Nat.pow 10 k.natAbs)) = true ↔ (num / den : ℚ) < 10 ^ k := by
    obtain ⟨hneg, hnonneg⟩ := zpow_eq_natAbs 10 k
    rw [div_lt_iff₀ hden', hpow]
    split
    next hk =>
      rw [hneg hk, inv_mul_eq_div, lt_div_iff₀ (by positivity), decide_eq_true_iff]
      norm_cast
    next hk =>
      rw [hnonneg hk, mul_comm _ (den : ℚ), decide_eq_true_iff]
      norm_cast
  unfold decimalPoint
  dsimp only
  generalize ((Nat.toDigits 10 num).length : Int) = a at hnum_low hnum_high ⊢
  generalize ((Nat.toDigits 10 den).length : Int) = b at hden_low hden_high ⊢
  have hlow : (10 : ℚ) ^ (a - b - 1) ≤ num / den := by
    rw [le_div_iff₀ hden']
    calc (10 : ℚ) ^ (a - b - 1) * den ≤ 10 ^ (a - b - 1) * 10 ^ b :=
          mul_le_mul_of_nonneg_left hden_high.le (ten_zpow_pos _).le
      _ = 10 ^ (a - 1) := by
          rw [← zpow_add₀ (by norm_num)]
          congr 1
          ring
      _ ≤ num := hnum_low
  have hhigh : (num / den : ℚ) < 10 ^ (a - b + 1) := by
    rw [div_lt_iff₀ hden']
    calc (num : ℚ) < 10 ^ a := hnum_high
      _ = 10 ^ (a - b + 1) * 10 ^ (b - 1) := by
          rw [← zpow_add₀ (by norm_num)]
          congr 1
          ring
      _ ≤ 10 ^ (a - b + 1) * den := mul_le_mul_of_nonneg_left hden_low (ten_zpow_pos _).le
  by_cases hcase : (num / den : ℚ) < 10 ^ (a - b)
  · rw [if_pos ((hbelow _).mpr hcase)]
    exact ⟨hlow, hcase⟩
  · rw [if_neg (mt (hbelow _).mp hcase), add_sub_cancel_right]
    exact ⟨not_lt.mp hcase, hhigh⟩

end Digits

/-- Between a double and the next one, or half the way where the doubles are closer, there is room
for a decimal of seventeen digits. -/
theorem significand_lt_of_gap (x : Binary64) : (x.significand : ℚ) < 2 * 10 ^ 16 * x.lowerGap := by
  have hlt : (x.significand : ℚ) < 2 ^ 53 := by exact_mod_cast x.significand_lt
  unfold lowerGap
  split
  next h =>
    have hm : x.significand = 2 ^ 52 := by
      unfold significand
      rw [if_neg (by omega), h.1]
      rfl
    rw [hm]
    norm_num
  · linarith

/-- Seventeen digits suffice. -/
theorem exists_onGrid?_of_le (hx : x.significand ≠ 0) {p : Int}
    (hp : 10 ^ 16 * (10 : ℚ) ^ p ≤ x.magnitude) :
    ∃ q, x.neighbourhood.onGrid? p = some q := by
  obtain ⟨hunit, -, hvalue, -, -⟩ := neighbourhood_spec hx
  obtain ⟨q, hfloor, hnext, hfound⟩ := exists_onGrid? hunit p
  rw [hvalue] at hfloor hnext
  refine hfound ?_
  rw [holds_iff hx, holds_iff hx]
  have hu := x.grain_pos
  have hgap := x.significand_lt_of_gap
  have hgap' := x.lowerGap_le
  have hpos := x.lowerGap_pos
  have hstep : (10 : ℚ) ^ p / 2 < x.lowerGap * x.grain := by
    have hm : x.magnitude = x.significand * x.grain := rfl
    rw [hm] at hp
    nlinarith
  have hm : x.magnitude = x.significand * x.grain := rfl
  rw [hm] at hfloor hnext
  rcases le_total (x.significand * x.grain - q * 10 ^ p) (10 ^ p / 2) with hnear | hfar
  · left
    refine ⟨by linarith, by nlinarith, fun _ ↦ ⟨by linarith, by nlinarith⟩⟩
  · right
    push_cast
    refine ⟨by nlinarith, by nlinarith, fun _ ↦ ⟨by nlinarith, by nlinarith⟩⟩

/-- The first grid on which something is found gives the shortest decimal. -/
theorem shortestFrom_spec {r : Neighbourhood} {point : Int} (fuel k : Nat)
    (h : ∃ j, j < fuel ∧ ∃ q, r.onGrid? (point - (k + j : Nat)) = some q) :
    ∃ q p, r.holds q p = true ∧
      shortestFrom r point fuel k = ⟨q, (Nat.toDigits 10 q).length + p⟩ := by
  induction fuel generalizing k with
  | zero =>
    obtain ⟨j, hj, -⟩ := h
    omega
  | succ fuel ih =>
    unfold shortestFrom
    cases hgrid : r.onGrid? (point - k) with
    | some q => exact ⟨q, point - k, holds_of_onGrid? hgrid, rfl⟩
    | none =>
      refine ih (k + 1) ?_
      obtain ⟨j, hj, q, hq⟩ := h
      cases j with
      | zero =>
        rw [Nat.add_zero, hgrid] at hq
        cases hq
      | succ j => exact ⟨j, by omega, q, by rw [← hq]; congr 2; omega⟩

/-- The shortest decimal of a double that is not zero rounds to it. -/
theorem shortest_spec (hx : x.significand ≠ 0) :
    ∃ p : Int, x.shortest.point = (Nat.toDigits 10 x.shortest.digits).length + p ∧
      x.RoundsTo (x.shortest.digits * 10 ^ p) := by
  obtain ⟨hunit, -, hvalue, -, -⟩ := neighbourhood_spec hx
  have hzero : ¬ x.isZero = true := mt isZero_iff.mp hx
  have hvalue_ne : x.neighbourhood.value ≠ 0 := by
    intro hzero
    rw [hzero, Nat.cast_zero, zero_div] at hvalue
    exact hx (magnitude_eq_zero_iff.mp hvalue.symm)
  obtain ⟨hlow, -⟩ := decimalPoint_spec hvalue_ne hunit.ne'
  rw [hvalue] at hlow
  unfold shortest
  rw [if_neg hzero]
  dsimp only
  generalize decimalPoint x.neighbourhood.value x.neighbourhood.unit = point at hlow ⊢
  have hfound : ∃ q, x.neighbourhood.onGrid? (point - (1 + 16 : Nat)) = some q := by
    refine exists_onGrid?_of_le hx (le_of_eq_of_le ?_ hlow)
    rw [show (10 : ℚ) ^ 16 = 10 ^ (16 : Int) by norm_num, ← zpow_add₀ (by norm_num)]
    congr 1
    push_cast
    ring
  obtain ⟨q, p, hholds, heq⟩ := shortestFrom_spec 17 1 ⟨16, by decide, hfound⟩
  rw [heq]
  exact ⟨p, rfl, (holds_iff hx q p).mp hholds⟩

end ClusterProbe.Binary64
