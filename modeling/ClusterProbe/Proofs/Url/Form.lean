import ClusterProbe.Proofs.Text.Cutting
import ClusterProbe.Proofs.Text.Octets
import ClusterProbe.Url.Basic
import Mathlib.Data.List.TakeDrop

/-!
# Parameters of a query, written and read

A parameter is read back from the query that it was written in, whatever its name and its value are:
no character of either can be taken for one that ends them. Main statement: the parameters of a
query with parameters appended are those it had, and then those that were appended.
-/

namespace ClusterProbe.Url

/-- A written name or value with its plus signs read as spaces. -/
def spaced (cs : List Char) : List Char := cs.map fun c ↦ if c = '+' then ' ' else c

section Octets

theorem nibble?_hexDigit {n : Nat} (h : n < 16) : nibble? (hexDigit n) = some n := by
  revert n
  decide

/-- The digits of an octet are none of the marks of a form. -/
theorem hexDigit_ne {n : Nat} (h : n < 16) :
    hexDigit n ≠ '+' ∧ hexDigit n ≠ '&' ∧ hexDigit n ≠ '=' := by
  revert n
  decide

/-- An encoded octet is read back, whatever follows. -/
theorem decode_encodeOctet (b : UInt8) (r : List Char) :
    decode (encodeOctet b ++ r) = b :: decode r := by
  have hb : b.toNat < 256 := b.toNat_lt
  have hvalue : b.toNat / 16 * 16 + b.toNat % 16 = b.toNat := by omega
  rw [encodeOctet, List.cons_append, List.cons_append, List.singleton_append, decode,
    nibble?_hexDigit (by omega), nibble?_hexDigit (by omega)]
  dsimp only
  rw [hvalue, UInt8.ofNat_toNat]

theorem decode_flatMap_encodeOctet (bs : List UInt8) (r : List Char) :
    decode (bs.flatMap encodeOctet ++ r) = bs ++ decode r := by
  induction bs with
  | nil => rfl
  | cons b bs ih =>
    rw [List.flatMap_cons, List.append_assoc, decode_encodeOctet, ih, List.cons_append]

/-- Every character but the percent sign stands for itself. -/
theorem decode_of_ne {c : Char} (h : c ≠ '%') (r : List Char) :
    decode (c :: r) = String.utf8EncodeChar c ++ decode r := by
  rw [decode]
  rintro a b r' rfl
  exact absurd rfl h

/-- An encoded octet holds no mark of a form. -/
theorem ne_of_mem_encodeOctet {b : UInt8} {c : Char} (h : c ∈ encodeOctet b) :
    c ≠ '+' ∧ c ≠ '&' ∧ c ≠ '=' := by
  have hb : b.toNat < 256 := b.toNat_lt
  rw [encodeOctet, List.mem_cons, List.mem_cons, List.mem_singleton] at h
  rcases h with rfl | rfl | rfl
  · decide
  · exact hexDigit_ne (by omega)
  · exact hexDigit_ne (by omega)

end Octets

section Encoding

/-- The characters that a form writes for one character. -/
theorem formEncode_cons (c : Char) (cs : List Char) :
    formEncode (c :: cs) =
      (if c = ' ' then ['+']
        else if isPlainInForm c then [c]
        else (String.utf8EncodeChar c).flatMap encodeOctet) ++ formEncode cs :=
  List.flatMap_cons

/-- A character that stands for itself in a form is no mark of it. -/
theorem ne_of_isPlainInForm {c d : Char} (h : isPlainInForm c = true)
    (hd : isPlainInForm d = false) : c ≠ d := by
  rintro rfl
  exact Bool.false_ne_true (hd.symm.trans h)

/-- What is written holds nothing that ends a name or a value. -/
theorem ne_of_mem_formEncode {cs : List Char} {c : Char} (h : c ∈ formEncode cs) :
    c ≠ '&' ∧ c ≠ '=' := by
  rw [formEncode, List.mem_flatMap] at h
  obtain ⟨d, -, hc⟩ := h
  split at hc
  · obtain rfl := List.mem_singleton.mp hc
    decide
  split at hc
  next hplain =>
    obtain rfl := List.mem_singleton.mp hc
    exact ⟨ne_of_isPlainInForm hplain rfl, ne_of_isPlainInForm hplain rfl⟩
  next =>
    obtain ⟨b, -, hb⟩ := List.mem_flatMap.mp hc
    exact (ne_of_mem_encodeOctet hb).2

theorem spaced_append (a b : List Char) : spaced (a ++ b) = spaced a ++ spaced b := List.map_append

/-- A text without plus signs is read as it is. -/
theorem spaced_of_forall_ne {cs : List Char} (h : ∀ c ∈ cs, c ≠ '+') : spaced cs = cs :=
  (List.map_congr_left fun c hc ↦ if_neg (h c hc)).trans (List.map_id' cs)

/-- The octets of a text are read back from what is written for it. -/
theorem decode_spaced_formEncode (cs : List Char) :
    decode (spaced (formEncode cs)) = Text.utf8 cs := by
  induction cs with
  | nil => rfl
  | cons c cs ih =>
    rw [formEncode_cons, spaced_append, Text.utf8, List.flatMap_cons, ← Text.utf8, ← ih]
    split
    next hspace =>
      subst hspace
      exact decode_of_ne (by decide) _
    split
    next hplain =>
      have hplus : spaced [c] = [c] :=
        spaced_of_forall_ne (List.forall_mem_singleton.mpr (ne_of_isPlainInForm hplain rfl))
      rw [hplus]
      exact decode_of_ne (ne_of_isPlainInForm hplain rfl) _
    next =>
      have hplus : ∀ d ∈ (String.utf8EncodeChar c).flatMap encodeOctet, d ≠ '+' := by
        intro d hd
        obtain ⟨b, -, hb⟩ := List.mem_flatMap.mp hd
        exact (ne_of_mem_encodeOctet hb).1
      rw [spaced_of_forall_ne hplus, decode_flatMap_encodeOctet]

/-- A text is read back from what is written for it. -/
theorem formDecode_formEncode (s : String) : formDecode (formEncode s.toList) = s := by
  have hoctets := decode_spaced_formEncode s.toList
  rw [spaced] at hoctets
  rw [formDecode, hoctets, Text.decodeLossy_utf8, String.ofList_toList]

end Encoding

section Parameters

/-- An ampersand separates parameters. -/
theorem parameters_append (a b : List Char) :
    parameters (a ++ '&' :: b) = parameters a ++ parameters b := by
  rw [parameters, Text.pieces_append_sep, List.filter_append, List.map_append, ← parameters,
    ← parameters]

/-- A parameter is read back from what is written for it. -/
theorem parameters_formPair (p : String × String) : parameters (formPair p) = [p] := by
  obtain ⟨name, value⟩ := p
  have hname : ∀ c ∈ formEncode name.toList, c ≠ '=' := fun c hc ↦ (ne_of_mem_formEncode hc).2
  have hamp : '&' ∉ formPair (name, value) := by
    rw [formPair, List.mem_append, List.mem_cons]
    rintro (h | h | h)
    · exact (ne_of_mem_formEncode h).1 rfl
    · exact absurd h (by decide)
    · exact (ne_of_mem_formEncode h).1 rfl
  have hspan : (formPair (name, value)).span (· ≠ '=') =
      (formEncode name.toList, '=' :: formEncode value.toList) := by
    rw [List.span_eq_takeWhile_dropWhile, formPair,
      List.takeWhile_append_of_pos (by simpa using hname),
      List.dropWhile_append_of_pos (by simpa using hname), List.takeWhile_cons_of_neg (by decide),
      List.dropWhile_cons_of_neg (by decide), List.append_nil]
  rw [parameters, Text.pieces_of_notMem hamp, List.filter_cons_of_pos (by simp [formPair]),
    List.filter_nil, List.map_singleton, hspan]
  dsimp only
  rw [formDecode_formEncode, List.drop_succ_cons, List.drop_zero, formDecode_formEncode]

/-- Parameters that are written behind a query are read behind those of the query. -/
theorem parameters_join (query : List Char) (pairs : List (String × String)) :
    parameters (Text.join ['&'] (query :: pairs.map formPair)) = parameters query ++ pairs := by
  rw [Text.join_cons]
  induction pairs generalizing query with
  | nil => rw [List.map_nil, List.flatMap_nil, List.append_nil, List.append_nil]
  | cons p pairs ih =>
    rw [List.map_cons, List.flatMap_cons, ← List.append_assoc, ih, parameters_append,
      parameters_formPair, List.append_assoc, List.singleton_append]

/-- The parameters of a query that may be missing. -/
def parametersOf (query : Option (List Char)) : List (String × String) :=
  (query.map parameters).getD []

/-- The parameters of a query with parameters appended are those it had and those that were
appended. -/
theorem parametersOf_appendPairs (query : Option (List Char)) (pairs : List (String × String)) :
    parametersOf (appendPairs query pairs) = parametersOf query ++ pairs := by
  -- an empty query is dropped before anything is appended, so it is as good as none
  have hnone (pairs : List (String × String)) : parametersOf (appendPairs none pairs) = pairs := by
    cases pairs with
    | nil => rfl
    | cons p pairs =>
      have hquery : parametersOf (appendPairs none (p :: pairs)) =
          parameters (Text.join ['&'] (formPair p :: pairs.map formPair)) := rfl
      rw [hquery, parameters_join, parameters_formPair, List.singleton_append]
  cases query with
  | none => exact hnone pairs
  | some q =>
    cases q with
    | nil => exact hnone pairs
    | cons c q => exact parameters_join (c :: q) pairs

end Parameters

end ClusterProbe.Url
