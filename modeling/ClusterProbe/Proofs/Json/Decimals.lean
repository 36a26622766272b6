import ClusterProbe.Json.Reader
import ClusterProbe.Proofs.Yaml.Scalars

/-!
# Decimals in a response and in a suite

A number in a response is scaled from its digits in doubles, and every step may round; a number in a
suite is rounded once. Where the digits are a number of at most 53 bits and at most 22 of them stand
behind the point, the digits and the power of ten are doubles, so that only the last step rounds.
Main statement: such a decimal is the same number in a response and in a suite.
-/

namespace ClusterProbe.Json

open Binary64

section Scaling

variable {n : Nat} {z : Binary64}

/-- A natural number of at most 53 bits is a double. -/
theorem exists_ofNat (negative : Bool) (hn : n ≠ 0) (hlt : n < 2 ^ 53) :
    ∃ x, Binary64.ofNat negative n = some x ∧ x.negative = negative ∧ x.magnitude = n := by
  obtain ⟨x, rfl, hx⟩ := exists_magnitude_eq negative hn hlt (Nat.zero_le 900)
  rw [pow_zero, mul_one] at hx
  have hsignificand : x.significand ≠ 0 := by
    rw [Ne, ← magnitude_eq_zero_iff, hx]
    exact_mod_cast hn
  refine ⟨x, ofRatio_of_roundsTo hsignificand one_ne_zero ?_, rfl, hx⟩
  rw [Nat.cast_one, div_one, ← hx]
  exact x.roundsTo_magnitude

/-- The powers of ten with at most 22 zeros are doubles: their odd part has at most 53 bits. -/
theorem exists_powerOfTen? {k : Nat} (hk : k ≤ 22) :
    ∃ p, powerOfTen? k = some p ∧ p.negative = false ∧ p.significand ≠ 0 ∧
      p.magnitude = 10 ^ k := by
  have hfive : 5 ^ k < 2 ^ 53 := (Nat.pow_le_pow_right (by decide) hk).trans_lt (by decide)
  obtain ⟨p, hsign, hp⟩ := exists_magnitude_eq false (pow_ne_zero k (by decide : 5 ≠ 0)) hfive
    (hk.trans (by decide))
  have hten : p.magnitude = 10 ^ k := by
    rw [hp, Nat.cast_pow, ← mul_pow]
    norm_num
  have hsignificand : p.significand ≠ 0 := by
    rw [Ne, ← magnitude_eq_zero_iff, hten]
    positivity
  refine ⟨p, ?_, hsign, hsignificand, hten⟩
  rw [powerOfTen?, ← hsign]
  refine ofDecimal_of_roundsTo hsignificand ?_
  rw [Nat.cast_one, one_mul, zpow_natCast, ← hten]
  exact p.roundsTo_magnitude

/-- A number that needs one step of rounding is read as the double that it rounds to. -/
theorem double_of_roundsTo {e : Int} (hn : n < 2 ^ 53) (he : e.natAbs ≤ 22)
    (hz : z.significand ≠ 0) (h : z.RoundsTo (n * 10 ^ e)) (rest : List Char) :
    double z.negative n e rest = .ok (.double z, rest) := by
  have hne : n ≠ 0 := by
    rintro rfl
    have hpos := h.pos hz
    simp at hpos
  obtain ⟨x, hx, hsign, hmagnitude⟩ := exists_ofNat z.negative hne hn
  obtain ⟨p, hp, hpsign, hpne, hpower⟩ := exists_powerOfTen? he
  have hsigns : z.negative = (x.negative != p.negative) := by rw [hsign, hpsign, Bool.bne_false]
  obtain ⟨hneg, hnonneg⟩ := zpow_eq_natAbs 10 e
  have hscale : scaleTen? x e = some z := by
    rw [scaleTen?, if_pos (he.trans (by decide)), hp]
    simp only [Option.bind_eq_bind, Option.bind_some]
    split
    next hle =>
      refine mul?_of_roundsTo hz hsigns ?_
      rwa [hmagnitude, hpower, ← hnonneg (by omega)]
    next hlt =>
      refine div?_of_roundsTo hz hpne hsigns ?_
      rwa [hmagnitude, hpower, div_eq_mul_inv, ← hneg (by omega)]
  rw [double, hx, Option.bind_some, hscale]

/-- A longer number may be read as a neighbour of the double that it rounds to. -/
example : (Binary64.ofNat false 51248178375505404).bind (scaleTen? · (-15)) ≠
    Binary64.ofDecimal false 51248178375505404 (-15) := by
  decide +kernel

end Scaling

section Digits

variable {n : Nat} {ds whole fraction rest : List Char} {d : Char} {z : Binary64}

/-- Digits of a number that fits in 64 bits are all read. -/
theorem significand_of_allDigits (h : AllDigits ds) (hfits : Nat.ofDigitChars 10 ds n < 2 ^ 64) :
    significand n ds = (Nat.ofDigitChars 10 ds n, []) := by
  induction ds generalizing n with
  | nil => rfl
  | cons d ds ih =>
    obtain ⟨-, hds⟩ := List.forall_mem_cons.mp h
    rw [Nat.ofDigitChars_cons] at hfits ⊢
    have hle : 10 * n + (d.toNat - '0'.toNat) ≤
        Nat.ofDigitChars 10 ds (10 * n + (d.toNat - '0'.toNat)) := by
      have hpow := Nat.one_le_pow ds.length 10 (by decide)
      rw [Nat.ofDigitChars_eq_ofDigitChars_zero]
      nlinarith
    have hlt : n * 10 + (d.toNat - 48) < Nat.pow 2 64 := by
      have hzero : '0'.toNat = 48 := rfl
      have hpow : Nat.pow 2 64 = 2 ^ 64 := rfl
      omega
    rw [significand, if_pos hlt, mul_comm n]
    exact ih hds hfits

/-- The digits around the point of a decimal, without a zero in front that it does not need. -/
structure Pointed (whole fraction : List Char) : Prop where
  digits : AllDigits (whole ++ fraction)
  whole_ne : whole ≠ []
  fraction_ne : fraction ≠ []
  zero : whole.head? = some '0' → whole = ['0']

/-- A decimal is read from the digits behind its point on. -/
theorem numberBehind_of_roundsTo (hdecimal : Pointed whole fraction)
    (hlt : Nat.ofDigitChars 10 (whole ++ fraction) 0 < 2 ^ 53) (hlength : fraction.length ≤ 22)
    (hz : z.significand ≠ 0)
    (h : z.RoundsTo
      (Nat.ofDigitChars 10 (whole ++ fraction) 0 * 10 ^ (-(fraction.length : Int)))) :
    numberBehind z.negative whole ('.' :: fraction) = .ok (.double z, []) := by
  obtain ⟨hw, hf⟩ := allDigits_append.mp hdecimal.digits
  obtain ⟨d, ds, rfl⟩ := List.exists_cons_of_ne_nil hdecimal.fraction_ne
  rw [Nat.ofDigitChars_append] at hlt h
  have hwhole : Nat.ofDigitChars 10 whole 0 < 2 ^ 64 := by
    have hpow := Nat.one_le_pow (d :: ds).length 10 (by decide)
    rw [Nat.ofDigitChars_eq_ofDigitChars_zero] at hlt
    nlinarith
  have hspan : digits (d :: ds) = (d :: ds, []) := by
    have hspan := span_digits hf (show ∀ c ∈ ([] : List Char).head?, c.isDigit = false by simp)
    rwa [List.append_nil] at hspan
  have hsignificand := significand_of_allDigits (n := Nat.ofDigitChars 10 whole 0) hf (by omega)
  have hscale : (([] : List Char).length : Int) - ((d :: ds).length - ([] : List Char).length) =
      -((d :: ds).length : Int) := by simp
  have hread := double_of_roundsTo hlt (e := -((d :: ds).length : Int)) (by omega) hz h []
  rw [numberBehind, significand_of_allDigits hw hwhole]
  simp only [hspan, hsignificand, hscale, hread]

/-- A number is read from the digits in front of its point on. -/
theorem unsignedNumber_eq (hw : AllDigits whole) (hne : whole ≠ [])
    (hzero : whole.head? = some '0' → whole = ['0']) (negative : Bool)
    (hrest : ∀ c ∈ rest.head?, c.isDigit = false) :
    unsignedNumber negative (whole ++ rest) = numberBehind negative whole rest := by
  obtain ⟨d, ds, rfl⟩ := List.exists_cons_of_ne_nil hne
  obtain ⟨hd, hds⟩ := List.forall_mem_cons.mp hw
  by_cases hfirst : d = '0'
  · subst hfirst
    obtain rfl : ds = [] := by simpa using hzero rfl
    cases rest with
    | nil => rfl
    | cons c r => simp [unsignedNumber, hrest c rfl]
  · have hspan : digits (ds ++ rest) = (ds, rest) := span_digits hds hrest
    rw [List.cons_append, unsignedNumber]
    · simp [hd, hspan]
    · rintro rfl
      exact hfirst rfl

/-- What begins with a digit, or with one behind a hyphen, is a number. -/
theorem value_of_isDigit {fuel depth : Nat} {negative : Bool} {r : List Char} {x : Number}
    (hd : d.isDigit = true) (h : unsignedNumber negative (d :: r) = .ok (x, rest)) :
    value (fuel + 1) depth (if negative then '-' :: d :: r else d :: r) =
      .ok (.number x, rest) := by
  have hne (c : Char) (hc : c.isDigit = false) : d ≠ c := by
    rintro rfl
    rw [hd] at hc
    cases hc
  cases negative with
  | true =>
    rw [if_pos rfl, value]
    simp [skipSpace, isSpace, h, bind, Except.bind]
  | false =>
    have hskip : skipSpace (d :: r) = d :: r := by
      rw [skipSpace, List.dropWhile_cons_of_neg]
      simp [isSpace, hne]
    rw [if_neg Bool.false_ne_true, value, hskip]
    -- the letters and marks that other values begin with are no digits
    split <;> rename_i heq <;> cases heq
    case h_9 => simp [hd, h, bind, Except.bind]
    all_goals cases hd

end Digits

/-- A decimal of at most 53 bits with at most 22 digits behind its point is read alike in a response
and in a suite: as the double that it rounds to. -/
theorem decimal_read_alike {whole fraction : List Char} {z : Binary64}
    (hdecimal : Pointed whole fraction)
    (hlt : Nat.ofDigitChars 10 (whole ++ fraction) 0 < 2 ^ 53) (hlength : fraction.length ≤ 22)
    (hz : z.significand ≠ 0)
    (h : z.RoundsTo
      (Nat.ofDigitChars 10 (whole ++ fraction) 0 * 10 ^ (-(fraction.length : Int)))) :
    let body := whole ++ '.' :: fraction
    let text := String.ofList (if z.negative then '-' :: body else body)
    parse text = .ok (.number (.double z)) ∧ Yaml.resolve text = .real (.finite z) := by
  intro body text
  obtain ⟨hw, -⟩ := allDigits_append.mp hdecimal.digits
  constructor
  · obtain ⟨d, r, rfl⟩ := List.exists_cons_of_ne_nil hdecimal.whole_ne
    have hunsigned : unsignedNumber z.negative (d :: (r ++ '.' :: fraction)) =
        .ok (.double z, []) := by
      rw [← List.cons_append, unsignedNumber_eq hw hdecimal.whole_ne hdecimal.zero _ (by simp)]
      exact numberBehind_of_roundsTo hdecimal hlt hlength hz h
    have hvalue : value (3 * text.toList.length + 3) nestingLimit text.toList =
        .ok (.number (.double z), []) := by
      rw [String.toList_ofList]
      exact value_of_isDigit (hw d List.mem_cons_self) hunsigned
    have hchars : ofChars text.toList = .ok (.number (.double z)) := by
      rw [ofChars, hvalue]
      rfl
    rw [parse, hchars]
  · have hdenotes := NumberLayout.Denotes.pointed hdecimal.whole_ne hdecimal.fraction_ne
      hdecimal.digits
    obtain ⟨digits, e, hread, hvalue⟩ := Yaml.decimal?_of_denotes hdenotes
    exact Yaml.resolve_of_denotes hdenotes hread (ofDecimal_of_roundsTo hz (hvalue ▸ h))

end ClusterProbe.Json
