import ClusterProbe.Json.Printer
import ClusterProbe.Proofs.Number.Layout
import ClusterProbe.Yaml.Reading

/-!
# Numbers, truth values and null as plain scalars

What is no text and no collection is printed as a plain scalar. Main statement: the scalar stands
for what was printed.
-/

namespace ClusterProbe.Yaml

open NumberLayout

section Digits

variable {cs : List Char}

/-- Digits are read as the number that they denote. -/
theorem naturalIn?_of_allDigits (h : AllDigits cs) (hne : cs ≠ []) :
    naturalIn? 10 cs = some (Nat.ofDigitChars 10 cs 0) := by
  rw [naturalIn?, if_neg (by simpa using hne), Text.numberIn?_of_allDigits h]

/-- What is no digit stands in no natural number. -/
theorem naturalIn?_eq_none {c : Char} (hc : c ∈ cs) (hdigit : c.isDigit = false) :
    naturalIn? 10 cs = none := by
  rw [naturalIn?, Text.numberIn?_eq_none hc hdigit, ite_self]

end Digits

/-- Whether a text starts with a digit, behind a sign or without one. -/
def startsNumber (cs : List Char) : Bool := ((dropSign cs).head?.map Char.isDigit).getD false

/-- A text that starts as a number is none of the words that stand for something else. -/
theorem resolve_of_startsNumber {s : String} (h : startsNumber s.toList = true) :
    resolve s =
      match integer? s.toList with
      | some i => .integer i
      | none =>
        if hasRedundantZero s.toList then .text s
        else match finite? s.toList with
          | some x => .real (.finite x)
          | none => .text s := by
  have hne (word : String) (hword : startsNumber word.toList = false) : s ≠ word := by
    rintro rfl
    rw [h] at hword
    cases hword
  have hnull : (s.isEmpty || isNullWord s) = false := by
    have hempty : s.isEmpty = false := by
      rw [Bool.eq_false_iff, ne_eq, String.isEmpty_iff]
      exact hne "" rfl
    simp [hempty, isNullWord, hne "null" rfl, hne "Null" rfl, hne "NULL" rfl, hne "~" rfl]
  have htruth : truth? s = none := by
    simp [truth?, hne "true" rfl, hne "True" rfl, hne "TRUE" rfl, hne "false" rfl,
      hne "False" rfl, hne "FALSE" rfl]
  have hreal : real? s = (finite? s.toList).map .finite := by
    simp [real?, hne ".inf" rfl, hne ".Inf" rfl, hne ".INF" rfl, hne "+.inf" rfl, hne "+.Inf" rfl,
      hne "+.INF" rfl, hne "-.inf" rfl, hne "-.Inf" rfl, hne "-.INF" rfl, hne ".nan" rfl,
      hne ".NaN" rfl, hne ".NAN" rfl]
  unfold resolve
  rw [hnull, htruth, hreal]
  cases finite? s.toList <;> rfl

section Integers

variable {d : Char} {r : List Char}

/-- No base is announced by a digit and what follows the digits of a decimal. -/
theorem basedDigits?_eq_none (h : ∀ c ∈ r.head?, c ≠ 'x' ∧ c ≠ 'o' ∧ c ≠ 'b') :
    basedDigits? (d :: r) = none := by
  unfold basedDigits?
  split
  next heq =>
    cases heq
    exact absurd rfl (h 'x' rfl).1
  next heq =>
    cases heq
    exact absurd rfl (h 'o' rfl).2.1
  next heq =>
    cases heq
    exact absurd rfl (h 'b' rfl).2.2
  next => rfl

theorem dropSign_of_isDigit (hd : d.isDigit = true) : dropSign (d :: r) = d :: r := by
  unfold dropSign
  split
  next heq =>
    cases heq
    cases hd
  next heq =>
    cases heq
    cases hd
  next => rfl

theorem integer?_of_sign : integer? ('-' :: r) = (magnitude? r).bind fun n ↦
    if n ≤ Nat.pow 2 127 then some (-(n : Int)) else none := rfl

/-- Digits behind no sign are a natural number. -/
theorem integer?_of_isDigit (hd : d.isDigit = true) :
    integer? (d :: r) = (magnitude? (d :: r)).bind fun n ↦
      if n < Nat.pow 2 128 then some (n : Int) else none := by
  unfold integer?
  split
  next heq =>
    cases heq
    cases hd
  next =>
    split
    next heq =>
      cases heq
      cases hd
    next => rfl

theorem finite?_of_sign : finite? ('-' :: r) = (decimal? r).bind fun d ↦
    Binary64.ofDecimal true d.1 d.2 := rfl

theorem finite?_of_isDigit (hd : d.isDigit = true) : finite? (d :: r) =
    (decimal? (d :: r)).bind fun d ↦ Binary64.ofDecimal false d.1 d.2 := by
  unfold finite?
  split
  next heq =>
    split at heq
    next hsign =>
      cases hsign
      cases hd
    next hsign =>
      cases hsign
      cases hd
    next =>
      cases heq
      rfl

/-- The digits of a number that is not zero start with another digit than zero. -/
theorem head?_toDigits_ne {n : Nat} (hn : n ≠ 0) : (Nat.toDigits 10 n).head? ≠ some '0' := by
  induction n using Nat.strong_induction_on with
  | _ n ih =>
    by_cases hsmall : n < 10
    · have hdigit : ∀ k < 10, k ≠ 0 → Nat.digitChar k ≠ '0' := by decide
      rw [Nat.toDigits_of_lt_base hsmall, List.head?_cons, ne_eq, Option.some.injEq]
      exact hdigit n hsmall hn
    · rw [Nat.toDigits_of_base_le (by decide) (by omega),
        List.head?_append_of_ne_nil _ Nat.toDigits_ne_nil]
      exact ih (n / 10) (by omega) (by omega)

theorem exists_toDigits_eq (n : Nat) :
    ∃ d r, Nat.toDigits 10 n = d :: r ∧ d.isDigit = true ∧ AllDigits r := by
  cases heq : Nat.toDigits 10 n with
  | nil => exact absurd heq Nat.toDigits_ne_nil
  | cons d r =>
    obtain ⟨hd, hr⟩ := List.forall_mem_cons.mp (heq ▸ allDigits_toDigits n)
    exact ⟨d, r, rfl, hd, hr⟩

/-- A natural number has no zero in front that it does not need. -/
theorem hasRedundantZero_toDigits (n : Nat) : hasRedundantZero (Nat.toDigits 10 n) = false := by
  obtain ⟨d, r, heq, hd, -⟩ := exists_toDigits_eq n
  unfold hasRedundantZero
  rw [heq, dropSign_of_isDigit hd]
  split
  next x rest hzero =>
    cases hzero
    by_cases hn : n = 0
    · rw [hn, Nat.toDigits_zero] at heq
      cases heq
    · have hhead := head?_toDigits_ne hn
      rw [heq] at hhead
      exact absurd rfl hhead
  next => rfl

/-- The digits of a natural number are read as it. -/
theorem magnitude?_toDigits (n : Nat) : magnitude? (Nat.toDigits 10 n) = some n := by
  obtain ⟨d, r, heq, -, hr⟩ := exists_toDigits_eq n
  have hbase : basedDigits? (Nat.toDigits 10 n) = none := by
    rw [heq]
    refine basedDigits?_eq_none fun c hc ↦ ?_
    have hdigit := hr c (List.mem_of_mem_head? hc)
    refine ⟨?_, ?_, ?_⟩ <;> rintro rfl <;> cases hdigit
  unfold magnitude?
  rw [hbase, hasRedundantZero_toDigits]
  dsimp only
  rw [if_neg Bool.false_ne_true, naturalIn?_of_allDigits (allDigits_toDigits n) Nat.toDigits_ne_nil,
    Nat.ofDigitChars_ten_toDigits]

/-- A natural number of at most 64 bits is read as it. -/
theorem resolve_natural {n : Nat} (hn : n < 2 ^ 64) :
    resolve (String.ofList (Nat.toDigits 10 n)) = .integer n := by
  obtain ⟨d, r, heq, hd, -⟩ := exists_toDigits_eq n
  have hpow : Nat.pow 2 128 = 2 ^ 128 := rfl
  have hstarts : startsNumber (String.ofList (Nat.toDigits 10 n)).toList = true := by
    rw [String.toList_ofList, heq, startsNumber, dropSign_of_isDigit hd]
    exact hd
  rw [resolve_of_startsNumber hstarts, String.toList_ofList, heq, integer?_of_isDigit hd, ← heq,
    magnitude?_toDigits, Option.bind_some, if_pos (by omega)]

/-- A negative integer of at most 64 bits is read as it. -/
theorem resolve_belowZero {n : Nat} (hn : n ≤ 2 ^ 63) :
    resolve (String.ofList ('-' :: Nat.toDigits 10 n)) = .integer (-n) := by
  obtain ⟨d, r, heq, hd, -⟩ := exists_toDigits_eq n
  have hpow : Nat.pow 2 127 = 2 ^ 127 := rfl
  have hstarts : startsNumber (String.ofList ('-' :: Nat.toDigits 10 n)).toList = true := by
    rw [String.toList_ofList, heq]
    exact hd
  have hinteger : integer? ('-' :: Nat.toDigits 10 n) = some (-(n : Int)) := by
    rw [integer?_of_sign, magnitude?_toDigits, Option.bind_some, if_pos (by omega)]
  rw [resolve_of_startsNumber hstarts, String.toList_ofList, hinteger]

end Integers

section Decimal

variable {body : List Char} {v : ℚ}

/-- How a decimal text looks: a digit, then other digits with a point or an exponent among them. -/
theorem denotes_shape (h : Denotes body v) :
    ∃ d r, body = d :: r ∧ d.isDigit = true ∧
      (∀ c ∈ r, c.isDigit = true ∨ c ∈ ['.', 'e', '+', '-']) ∧ ('.' ∈ r ∨ 'e' ∈ r) := by
  cases h with
  | @pointed whole fraction hwhole hfraction hdigits =>
    obtain ⟨hw, hf⟩ := allDigits_append.mp hdigits
    cases whole with
    | nil => exact absurd rfl hwhole
    | cons d rest =>
      obtain ⟨hd, hrest⟩ := List.forall_mem_cons.mp hw
      refine ⟨d, rest ++ '.' :: fraction, rfl, hd, fun c hc ↦ ?_, .inl (by simp)⟩
      rcases List.mem_append.mp hc with hmem | hmem
      · exact .inl (hrest c hmem)
      · rcases List.mem_cons.mp hmem with rfl | hmem
        · exact .inr (by simp)
        · exact .inl (hf c hmem)
  | @scientific d fraction exponent e hdigits hexponent =>
    obtain ⟨hd, hf⟩ := List.forall_mem_cons.mp hdigits
    have hexp : AllDigits exponent := hexponent ▸ allDigits_toDigits _
    refine ⟨d, (if fraction = [] then [] else '.' :: fraction) ++
      'e' :: (if e < 0 then '-' else '+') :: exponent, ?_, hd, fun c hc ↦ ?_, .inr (by simp)⟩
    · split <;> rfl
    · rcases List.mem_append.mp hc with hmem | hmem
      · split at hmem
        · cases hmem
        · rcases List.mem_cons.mp hmem with rfl | hmem
          · exact .inr (by simp)
          · exact .inl (hf c hmem)
      · rcases List.mem_cons.mp hmem with rfl | hmem
        · exact .inr (by simp)
        · rcases List.mem_cons.mp hmem with rfl | hmem
          · right
            split <;> simp
          · exact .inl (hexp c hmem)

/-- Scientific notation is read as its digits, scaled by its exponent. -/
theorem decimal?_scientific {d : Char} {fraction exponent : List Char} {n : Nat} (below : Bool)
    (hdigits : AllDigits (d :: fraction)) (hexponent : naturalIn? 10 exponent = some n) :
    decimal? ((if fraction = [] then [d] else d :: '.' :: fraction) ++
        'e' :: (if below then '-' else '+') :: exponent) =
      some (Nat.ofDigitChars 10 (d :: fraction) 0,
        -(fraction.length : Int) + if below then -(n : Int) else n) := by
  obtain ⟨hd, hf⟩ := List.forall_mem_cons.mp hdigits
  have hone : AllDigits [d] := by simpa [AllDigits] using hd
  have hnumber := naturalIn?_of_allDigits hdigits (List.cons_ne_nil _ _)
  have hbehind : ∀ c ∈ ('e' :: (if below then '-' else '+') :: exponent).head?,
      c.isDigit = false := by simp
  have hspan := span_digits hf hbehind
  unfold decimal?
  by_cases hnil : fraction = []
  · subst hnil
    rw [if_pos rfl, span_digits hone hbehind]
    cases below <;> simp [hnumber, hexponent]
  · rw [if_neg hnil, List.cons_append, ← List.singleton_append, span_digits hone (by simp)]
    simp only [List.cons_append, hspan]
    cases below <;> simp [hnumber, hexponent]

/-- A decimal text is read as the number that it denotes. -/
theorem decimal?_of_denotes (h : Denotes body v) :
    ∃ digits e, decimal? body = some (digits, e) ∧ (digits * 10 ^ e : ℚ) = v := by
  cases h with
  | @pointed whole fraction hwhole hfraction hdigits =>
    obtain ⟨hw, hf⟩ := allDigits_append.mp hdigits
    refine ⟨Nat.ofDigitChars 10 (whole ++ fraction) 0, -(fraction.length : Int), ?_, rfl⟩
    have hempty : (whole.isEmpty && fraction.isEmpty) = false := by simp [hwhole]
    have hspan := span_digits hf (show ∀ c ∈ ([] : List Char).head?, c.isDigit = false by simp)
    rw [List.append_nil] at hspan
    have hnumber := naturalIn?_of_allDigits hdigits (by simp [hwhole])
    unfold decimal?
    rw [span_digits hw (by simp)]
    simp only [hspan, hempty, hnumber, Bool.false_eq_true, if_false]
    rfl
  | @scientific d fraction exponent e hdigits hexponent =>
    have hexp : naturalIn? 10 exponent = some e.natAbs := by
      rw [hexponent, naturalIn?_of_allDigits (allDigits_toDigits _) Nat.toDigits_ne_nil,
        Nat.ofDigitChars_ten_toDigits]
    have hread := decimal?_scientific (decide (e < 0)) hdigits hexp
    have hscale : (if decide (e < 0) then -(e.natAbs : Int) else e.natAbs) = e := by
      by_cases he : e < 0
      · rw [if_pos (decide_eq_true he)]
        omega
      · rw [if_neg (by simp [he])]
        omega
    rw [hscale, neg_add_eq_sub] at hread
    simp only [decide_eq_true_eq] at hread
    exact ⟨_, _, hread, rfl⟩

/-- A decimal text is no integer, and has no zero in front that it does not need. -/
theorem no_integer_of_denotes (h : Denotes body v) :
    magnitude? body = none ∧ hasRedundantZero body = false := by
  obtain ⟨d, r, rfl, hd, hr, hmark⟩ := denotes_shape h
  obtain ⟨c, hc, hdigit⟩ : ∃ c ∈ r, c.isDigit = false := by
    rcases hmark with hmem | hmem
    · exact ⟨'.', hmem, rfl⟩
    · exact ⟨'e', hmem, rfl⟩
  have hall : r.all Char.isDigit = false := by
    rw [List.all_eq_false]
    exact ⟨c, hc, by simp [hdigit]⟩
  have hzero : hasRedundantZero (d :: r) = false := by
    unfold hasRedundantZero
    rw [dropSign_of_isDigit hd]
    split
    next heq =>
      cases heq
      exact hall
    next => rfl
  have hbase : basedDigits? (d :: r) = none := by
    refine basedDigits?_eq_none fun c hc ↦ ?_
    have hchar := hr c (List.mem_of_mem_head? hc)
    refine ⟨?_, ?_, ?_⟩ <;> rintro rfl <;> simp at hchar
  refine ⟨?_, hzero⟩
  unfold magnitude?
  rw [hbase, hzero]
  exact naturalIn?_eq_none (List.mem_cons_of_mem d hc) hdigit

/-- A decimal text with a sign is read as the double that its decimal rounds to. -/
theorem resolve_of_denotes {negative : Bool} {x : Binary64} {digits : Nat} {e : Int}
    (h : Denotes body v) (hdecimal : decimal? body = some (digits, e))
    (hx : Binary64.ofDecimal negative digits e = some x) :
    resolve (String.ofList (if negative then '-' :: body else body)) = .real (.finite x) := by
  obtain ⟨d, r, hbody, hd, -, -⟩ := denotes_shape h
  obtain ⟨hmagnitude, hzero⟩ := no_integer_of_denotes h
  have hstarts : startsNumber (String.ofList (if negative then '-' :: body else body)).toList =
      true := by
    rw [String.toList_ofList, startsNumber]
    split
    · rw [hbody]
      exact hd
    · rw [hbody, dropSign_of_isDigit hd]
      exact hd
  rw [resolve_of_startsNumber hstarts, String.toList_ofList]
  cases negative with
  | true =>
    have hinteger : integer? ('-' :: body) = none := by
      rw [integer?_of_sign, hmagnitude, Option.bind_none]
    have hfinite : finite? ('-' :: body) = some x := by
      rw [finite?_of_sign, hdecimal, Option.bind_some, hx]
    have hzero' : hasRedundantZero ('-' :: body) = false := by
      rw [hbody, hasRedundantZero, dropSign_of_isDigit hd] at hzero
      rw [hbody]
      exact hzero
    rw [if_pos rfl, hinteger, hzero', hfinite]
    rfl
  | false =>
    have hinteger : integer? body = none := by
      rw [hbody] at hmagnitude ⊢
      rw [integer?_of_isDigit hd, hmagnitude, Option.bind_none]
    have hfinite : finite? body = some x := by
      rw [hbody] at hdecimal ⊢
      rw [finite?_of_isDigit hd, hdecimal, Option.bind_some, hx]
    rw [if_neg Bool.false_ne_true, hinteger, hzero, hfinite]
    rfl

end Decimal

section Printed

/-- A text of letters, digits and what numbers have besides, which starts with a letter or a digit
or has one behind a hyphen. -/
structure IsWord (word : List Char) : Prop where
  chars : ∀ c ∈ word, c.isAlphanum = true ∨ c ∈ ['.', '+', '-']
  starts : ∃ d r, d.isAlphanum = true ∧ (word = d :: r ∨ word = '-' :: d :: r)

/-- Letters and digits are a word. -/
theorem isWord_of_isAlphanum {d : Char} {r : List Char}
    (h : (d :: r).all Char.isAlphanum = true) : IsWord (d :: r) :=
  have hchars := List.all_eq_true.mp h
  ⟨fun c hc ↦ .inl (hchars c hc), d, r, hchars d List.mem_cons_self, .inl rfl⟩

theorem isAlphanum_of_isDigit {c : Char} (h : c.isDigit = true) : c.isAlphanum = true := by
  simp [Char.isAlphanum, h]

/-- A word may have a sign. -/
theorem isWord_of_isDigit {d : Char} {r : List Char} (hd : d.isDigit = true)
    (hr : ∀ c ∈ r, c.isDigit = true ∨ c ∈ ['.', 'e', '+', '-']) (negative : Bool) :
    IsWord (if negative then '-' :: d :: r else d :: r) := by
  have hd' := isAlphanum_of_isDigit hd
  have hchars : ∀ c ∈ d :: r, c.isAlphanum = true ∨ c ∈ ['.', '+', '-'] := by
    intro c hc
    rcases List.mem_cons.mp hc with rfl | hmem
    · exact .inl hd'
    · rcases hr c hmem with hdigit | hmark
      · exact .inl (isAlphanum_of_isDigit hdigit)
      · simp only [List.mem_cons, List.not_mem_nil, or_false] at hmark
        rcases hmark with rfl | rfl | rfl | rfl
        · exact .inr (by simp)
        · exact .inl rfl
        · exact .inr (by simp)
        · exact .inr (by simp)
  cases negative with
  | false => exact ⟨hchars, d, r, hd', .inl rfl⟩
  | true =>
    refine ⟨fun c hc ↦ ?_, d, r, hd', .inr rfl⟩
    rcases List.mem_cons.mp hc with rfl | hmem
    · exact .inr (by simp)
    · exact hchars c hmem

/-- The text of a zero. -/
theorem text_zero (negative : Bool) :
    document.text (.zero negative) = (if negative then '-' :: ['0', '.', '0'] else ['0', '.', '0']) ∧
      resolve (String.ofList (document.text (.zero negative))) =
        .real (.finite (.zero negative)) := by
  revert negative
  decide +kernel

/-- The text of a double is a word, and is read as the double. -/
theorem text_spec (x : Binary64) :
    ∃ d r, d.isDigit = true ∧ (∀ c ∈ r, c.isDigit = true ∨ c ∈ ['.', 'e', '+', '-']) ∧
      document.text x = (if x.negative then '-' :: d :: r else d :: r) ∧
      resolve (String.ofList (document.text x)) = .real (.finite x) := by
  by_cases hx : x.significand = 0
  · have hzero := Binary64.isZero_iff.mpr hx
    obtain ⟨negative, biased, fraction⟩ := x
    obtain ⟨hbiased, hfraction⟩ := Bool.and_eq_true_iff.mp hzero
    obtain rfl : biased = 0 := Fin.ext (of_decide_eq_true hbiased)
    obtain rfl : fraction = 0 := Fin.ext (of_decide_eq_true hfraction)
    obtain ⟨htext, hresolve⟩ := text_zero negative
    have hchars : ∀ c ∈ ['.', '0'], c.isDigit = true ∨ c ∈ ['.', 'e', '+', '-'] :=
      List.forall_mem_cons.mpr ⟨.inr List.mem_cons_self, List.forall_mem_singleton.mpr (.inl rfl)⟩
    exact ⟨'0', ['.', '0'], rfl, hchars, htext, hresolve⟩
  · obtain ⟨body, v, htext, hdenotes, hrounds⟩ := document_text hx
    obtain ⟨digits, e, hdecimal, rfl⟩ := decimal?_of_denotes hdenotes
    obtain ⟨d, r, rfl, hd, hr, -⟩ := denotes_shape hdenotes
    refine ⟨d, r, hd, hr, htext, ?_⟩
    rw [htext]
    exact resolve_of_denotes hdenotes hdecimal (Binary64.ofDecimal_of_roundsTo hx hrounds)

/-- A printed number is one word. -/
theorem isWord_printNumber (n : Number) : IsWord (Json.printNumber n) := by
  cases n with
  | natural n =>
    obtain ⟨d, r, heq, hd, hr⟩ := exists_toDigits_eq n.toNat
    have hword := isWord_of_isDigit hd (fun c hc ↦ .inl (hr c hc)) false
    rw [Json.printNumber, heq]
    exact hword
  | belowZero n =>
    obtain ⟨d, r, heq, hd, hr⟩ := exists_toDigits_eq (n.val + 1)
    have hword := isWord_of_isDigit hd (fun c hc ↦ .inl (hr c hc)) true
    rw [Json.printNumber, heq]
    exact hword
  | double x =>
    obtain ⟨d, r, hd, hr, htext, -⟩ := text_spec x
    rw [Json.printNumber, htext]
    exact isWord_of_isDigit hd hr x.negative

/-- A printed number stands for the number. -/
theorem scalarValue_printNumber (n : Number) :
    Document.scalarValue (resolve (String.ofList (Json.printNumber n))) = pure (.number n) := by
  cases n with
  | natural n =>
    have hn : n.toNat < Nat.pow 2 64 := n.toNat_lt
    have hnumber : Number.ofInt? n.toNat = some (.natural n) := by
      show (if n.toNat < Nat.pow 2 64 then _ else _) = _
      rw [if_pos hn, UInt64.ofNat_toNat]
    rw [Json.printNumber, resolve_natural n.toNat_lt, Document.scalarValue, hnumber]
  | belowZero n =>
    have hn : n.val < 2 ^ 63 := n.isLt
    have hnumber : Number.ofInt? (-(n.val + 1 : Nat)) = some (.belowZero n) := by
      show (if h : n.val < Nat.pow 2 63 then _ else _) = _
      rw [dif_pos n.isLt]
    rw [Json.printNumber, resolve_belowZero (by omega), Document.scalarValue, hnumber]
  | double x =>
    obtain ⟨d, r, -, -, -, hresolve⟩ := text_spec x
    rw [Json.printNumber, hresolve]
    rfl

end Printed

end ClusterProbe.Yaml
