import ClusterProbe.Number.Layout
import ClusterProbe.Proofs.Number.Shortest
import ClusterProbe.Text.Digit

/-!
# What the text of a double says

The digits of the shortest decimal are laid out with a point, and with an exponent where they would
need many zeros. Main statement: whichever way is taken, the text denotes a number that rounds to
the double.
-/

namespace ClusterProbe

/-- Characters that are all decimal digits. -/
def AllDigits (ds : List Char) : Prop := ∀ c ∈ ds, c.isDigit = true

theorem allDigits_append {a b : List Char} : AllDigits (a ++ b) ↔ AllDigits a ∧ AllDigits b :=
  List.forall_mem_append

theorem allDigits_toDigits (n : Nat) : AllDigits (Nat.toDigits 10 n) :=
  fun _ hc ↦ Nat.isDigit_of_mem_toDigits (by decide) (by decide) hc

theorem allDigits_replicate_zero (n : Nat) : AllDigits (List.replicate n '0') := by
  intro c hc
  rw [List.eq_of_mem_replicate hc]
  rfl

/-- The digits in front of a text that goes on with something else. -/
theorem span_digits {ds rest : List Char} (h : AllDigits ds)
    (hrest : ∀ c ∈ rest.head?, c.isDigit = false) :
    (ds ++ rest).span Char.isDigit = (ds, rest) := by
  rw [List.span_eq_takeWhile_dropWhile, List.takeWhile_append_of_pos h,
    List.dropWhile_append_of_pos h]
  cases rest with
  | nil => simp
  | cons c r => simp [hrest c rfl]

namespace Text

variable {cs : List Char}

/-- Digits stand for the number that they denote. -/
theorem numberIn?_of_allDigits (h : AllDigits cs) :
    numberIn? 10 cs = some (Nat.ofDigitChars 10 cs 0) := by
  have hfold (n : Nat) : cs.foldlM (fun n c ↦ (digitIn? 10 c).map (n * 10 + ·)) n =
      some (Nat.ofDigitChars 10 cs n) := by
    induction cs generalizing n with
    | nil => rfl
    | cons c rest ih =>
      obtain ⟨hc, hrest⟩ := List.forall_mem_cons.mp h
      rw [List.foldlM_cons, digitIn?_ten, if_pos hc, Nat.ofDigitChars_cons, mul_comm 10]
      exact ih hrest _
  exact hfold 0

/-- What is no digit stands in no number. -/
theorem numberIn?_eq_none {c : Char} (hc : c ∈ cs) (hdigit : c.isDigit = false) :
    numberIn? 10 cs = none := by
  have hfold (n : Nat) : cs.foldlM (fun n c ↦ (digitIn? 10 c).map (n * 10 + ·)) n = none := by
    induction cs generalizing n with
    | nil => cases hc
    | cons x rest ih =>
      rw [List.foldlM_cons, digitIn?_ten]
      rcases List.mem_cons.mp hc with rfl | hmem
      · rw [hdigit]
        rfl
      · split
        · exact ih hmem _
        · rfl
  exact hfold 0

end Text

namespace NumberLayout

/-- A decimal text without a sign and the number it denotes: digits around a point, or digits with
an exponent. -/
inductive Denotes : List Char → ℚ → Prop where
  | pointed {whole fraction : List Char} (hwhole : whole ≠ []) (hfraction : fraction ≠ [])
      (hdigits : AllDigits (whole ++ fraction)) :
      Denotes (whole ++ '.' :: fraction)
        (Nat.ofDigitChars 10 (whole ++ fraction) 0 * 10 ^ (-(fraction.length : Int)))
  | scientific {d : Char} {fraction exponent : List Char} {e : Int}
      (hdigits : AllDigits (d :: fraction)) (hexponent : exponent = Nat.toDigits 10 e.natAbs) :
      Denotes ((if fraction = [] then [d] else d :: '.' :: fraction) ++
          'e' :: (if e < 0 then '-' else '+') :: exponent)
        (Nat.ofDigitChars 10 (d :: fraction) 0 * 10 ^ (e - fraction.length))

/-- Zeros behind digits multiply their number by a power of ten. -/
theorem ofDigitChars_append_zeros (ds : List Char) (n : Nat) :
    Nat.ofDigitChars 10 (ds ++ List.replicate n '0') 0 = Nat.ofDigitChars 10 ds 0 * 10 ^ n := by
  rw [Nat.ofDigitChars_append, Nat.ofDigitChars_replicate_zero, mul_comm]

/-- Zeros in front of digits leave their number as it is. -/
theorem ofDigitChars_zeros_append (ds : List Char) (n : Nat) :
    Nat.ofDigitChars 10 (List.replicate n '0' ++ ds) 0 = Nat.ofDigitChars 10 ds 0 := by
  rw [Nat.ofDigitChars_append, Nat.ofDigitChars_replicate_zero, mul_zero]

/-- The digits without the zeros at their end, which are made up for by a power of ten. -/
theorem significantDigits_spec {n : Nat} (hn : n ≠ 0) :
    significantDigits n ≠ [] ∧ AllDigits (significantDigits n) ∧
      ∃ zeros, (Nat.toDigits 10 n).length = (significantDigits n).length + zeros ∧
        n = Nat.ofDigitChars 10 (significantDigits n) 0 * 10 ^ zeros := by
  have hsplit : ∃ zeros, Nat.toDigits 10 n =
      ((Nat.toDigits 10 n).reverse.dropWhile (· = '0')).reverse ++ List.replicate zeros '0' := by
    refine ⟨((Nat.toDigits 10 n).reverse.takeWhile (· = '0')).length, ?_⟩
    have hzeros : (Nat.toDigits 10 n).reverse.takeWhile (· = '0') =
        List.replicate ((Nat.toDigits 10 n).reverse.takeWhile (· = '0')).length '0' :=
      List.eq_replicate_of_mem fun c hc ↦ by
        simpa using List.all_eq_true.mp List.all_takeWhile c hc
    rw [← List.reverse_replicate, ← hzeros, ← List.reverse_append, List.takeWhile_append_dropWhile,
      List.reverse_reverse]
  obtain ⟨zeros, hsplit⟩ := hsplit
  have hvalue : Nat.ofDigitChars 10 (Nat.toDigits 10 n) 0 = n := Nat.ofDigitChars_ten_toDigits
  unfold significantDigits
  dsimp only
  generalize ((Nat.toDigits 10 n).reverse.dropWhile (· = '0')).reverse = ds at hsplit ⊢
  rw [hsplit, ofDigitChars_append_zeros] at hvalue
  have hne : ds ≠ [] := by
    rintro rfl
    rw [Nat.ofDigitChars_nil, zero_mul] at hvalue
    exact hn hvalue.symm
  have hdigits := allDigits_toDigits n
  rw [hsplit, allDigits_append] at hdigits
  rw [if_neg (by simpa using hne)]
  exact ⟨hne, hdigits.1, zeros, by rw [hsplit]; simp, hvalue.symm⟩

variable {ds : List Char}

/-- Digits around a point denote their number, scaled by the place of the point. -/
theorem denotes_pointed (hne : ds ≠ []) (hdigits : AllDigits ds) (point : Int) :
    Denotes (NumberLayout.pointed ds point)
      (Nat.ofDigitChars 10 ds 0 * 10 ^ (point - ds.length)) := by
  unfold NumberLayout.pointed
  split
  next hpoint =>
    have hfraction : List.replicate point.natAbs '0' ++ ds ≠ [] := by simp [hne]
    have hall : AllDigits (['0'] ++ (List.replicate point.natAbs '0' ++ ds)) := by
      have hzero : AllDigits ['0'] := allDigits_replicate_zero 1
      exact allDigits_append.mpr
        ⟨hzero, allDigits_append.mpr ⟨allDigits_replicate_zero _, hdigits⟩⟩
    have h := Denotes.pointed (List.cons_ne_nil _ _) hfraction hall
    have hnumber : Nat.ofDigitChars 10 (['0'] ++ (List.replicate point.natAbs '0' ++ ds)) 0 =
        Nat.ofDigitChars 10 ds 0 := by
      rw [← List.append_assoc]
      exact ofDigitChars_zeros_append ds (point.natAbs + 1)
    have hscale : -((List.replicate point.natAbs '0' ++ ds).length : Int) = point - ds.length := by
      rw [List.length_append, List.length_replicate]
      omega
    rw [hnumber, hscale] at h
    exact h
  next hpoint =>
    dsimp only
    by_cases hshort : ds.length ≤ point.natAbs
    · -- All digits stand in front of the point, with zeros behind them.
      rw [List.drop_eq_nil_of_le hshort, List.take_of_length_le hshort]
      have hall : AllDigits (ds ++ List.replicate (point.natAbs - ds.length) '0' ++ ['0']) :=
        allDigits_append.mpr ⟨allDigits_append.mpr ⟨hdigits, allDigits_replicate_zero _⟩,
          allDigits_replicate_zero 1⟩
      have h := Denotes.pointed (by simp [hne]) (List.cons_ne_nil '0' []) hall
      have hnumber : Nat.ofDigitChars 10
          (ds ++ List.replicate (point.natAbs - ds.length) '0' ++ ['0']) 0 =
            Nat.ofDigitChars 10 ds 0 * 10 ^ (point.natAbs - ds.length + 1) := by
        rw [← ofDigitChars_append_zeros, List.append_assoc, List.replicate_succ']
      have hscale : ((10 : ℚ) ^ (point.natAbs - ds.length + 1)) * 10 ^ (-1 : Int) =
          10 ^ (point - ds.length) := by
        rw [← zpow_natCast, ← zpow_add₀ (by norm_num)]
        congr 1
        omega
      rw [hnumber] at h
      push_cast [List.length_singleton] at h
      rw [mul_assoc, hscale] at h
      exact h
    · have hzeros : point.natAbs - ds.length = 0 := by omega
      have hdrop : ds.drop point.natAbs ≠ [] := by simpa using hshort
      rw [hzeros, List.replicate_zero, List.append_nil, if_neg (by simpa using hshort)]
      have htake : ds.take point.natAbs ≠ [] := by
        simp only [ne_eq, List.take_eq_nil_iff, not_or]
        exact ⟨by omega, hne⟩
      have hall : AllDigits (ds.take point.natAbs ++ ds.drop point.natAbs) := by
        rwa [List.take_append_drop]
      have h := Denotes.pointed htake hdrop hall
      have hscale : -((ds.drop point.natAbs).length : Int) = point - ds.length := by
        rw [List.length_drop]
        omega
      rw [List.take_append_drop, hscale] at h
      exact h

/-- One digit in front of the point and an exponent denote the number of the digits, scaled by the
exponent. -/
theorem denotes_scientific (hne : ds ≠ []) (hdigits : AllDigits ds) (e : Int) :
    Denotes (NumberLayout.scientific ds e)
      (Nat.ofDigitChars 10 ds 0 * 10 ^ (e + 1 - ds.length)) := by
  cases ds with
  | nil => exact absurd rfl hne
  | cons d rest =>
    have h := Denotes.scientific hdigits (e := e) rfl
    have hscale : e - (rest.length : Int) = e + 1 - ((d :: rest).length : Int) := by
      rw [List.length_cons]
      omega
    rw [hscale] at h
    unfold NumberLayout.scientific
    cases rest <;> exact h

/-- The text of a double denotes a number that rounds to it, with the sign in front. -/
theorem document_text {x : Binary64} (hx : x.significand ≠ 0) :
    ∃ body v, document.text x = (if x.negative then '-' :: body else body) ∧ Denotes body v ∧
      x.RoundsTo v := by
  obtain ⟨p, hpoint, hrounds⟩ := Binary64.shortest_spec hx
  have hdigits : x.shortest.digits ≠ 0 := by
    intro hzero
    rw [hzero, Nat.cast_zero, zero_mul] at hrounds
    exact (hrounds.pos hx).ne' rfl
  obtain ⟨hne, hall, zeros, hlength, hvalue⟩ := significantDigits_spec hdigits
  have hscaled : (x.shortest.digits * 10 ^ p : ℚ) =
      Nat.ofDigitChars 10 (significantDigits x.shortest.digits) 0 *
        10 ^ (x.shortest.point - (significantDigits x.shortest.digits).length) := by
    have hcast : (x.shortest.digits : ℚ) =
        Nat.ofDigitChars 10 (significantDigits x.shortest.digits) 0 * 10 ^ zeros := by
      exact_mod_cast hvalue
    have hpower : (10 : ℚ) ^ zeros * 10 ^ p =
        10 ^ (x.shortest.point - (significantDigits x.shortest.digits).length) := by
      rw [← zpow_natCast, ← zpow_add₀ (by norm_num)]
      congr 1
      omega
    rw [← hpower, ← mul_assoc, ← hcast]
  rw [hscaled] at hrounds
  have hbody : Denotes (if -5 ≤ x.shortest.point - 1 ∧ x.shortest.point - 1 ≤ 15
      then pointed (significantDigits x.shortest.digits) x.shortest.point
      else scientific (significantDigits x.shortest.digits) (x.shortest.point - 1))
      (Nat.ofDigitChars 10 (significantDigits x.shortest.digits) 0 *
        10 ^ (x.shortest.point - (significantDigits x.shortest.digits).length)) := by
    split
    · exact denotes_pointed hne hall _
    · have h := denotes_scientific hne hall (x.shortest.point - 1)
      rwa [sub_add_cancel] at h
  refine ⟨_, _, ?_, hbody, hrounds⟩
  unfold text document
  simp

end NumberLayout

end ClusterProbe
