import ClusterProbe.Template

/-!
# Delimiters

A delimiter is two characters in a row. A text is split at the first delimiter that it holds, and
not at all if it holds none.
-/

namespace ClusterProbe.Template

/-- Two characters in a row stand in a text at its beginning or further on. -/
theorem pair_infix_cons {a b c : Char} {cs : List Char} :
    [a, b] <:+: c :: cs ↔ (c = a ∧ cs.head? = some b) ∨ [a, b] <:+: cs := by
  rw [List.infix_cons_iff, List.cons_prefix_cons]
  refine or_congr (and_congr eq_comm ?_) Iff.rfl
  cases cs with
  | nil => simp
  | cons d r => simp [List.cons_prefix_cons, eq_comm]

/-- Two characters in a row stand in one of two texts, or where the second one follows the first. -/
theorem pair_infix_append {a b : Char} {x y : List Char} :
    [a, b] <:+: x ++ y ↔
      [a, b] <:+: x ∨ [a, b] <:+: y ∨ (x.getLast? = some a ∧ y.head? = some b) := by
  induction x with
  | nil => simp
  | cons c r ih =>
    rw [List.cons_append, pair_infix_cons, ih, pair_infix_cons]
    cases r with
    | nil => simp [or_comm]
    | cons d r =>
      rw [List.getLast?_cons_cons, or_assoc]
      rfl

/-- The text before two characters in a row is empty where they stand at the beginning. -/
theorem before?_cons (a b c : Char) (cs : List Char) :
    before? a b (c :: cs) =
      if c = a ∧ cs.head? = some b then some [] else (before? a b cs).map (c :: ·) := by
  cases cs with
  | nil => simp [before?]
  | cons d r => simp [before?]

/-- There is no text before two characters in a row if they stand nowhere. -/
theorem before?_eq_none_iff {a b : Char} {cs : List Char} :
    before? a b cs = none ↔ ¬ [a, b] <:+: cs := by
  induction cs with
  | nil => simp [before?]
  | cons c r ih =>
    rw [before?_cons, pair_infix_cons, not_or, ← ih]
    by_cases h : c = a ∧ r.head? = some b
    · simp [h]
    · simp [h]

/-- Behind a text without them, the first two characters in a row are found. -/
theorem before?_append {a b : Char} {front : List Char} (rest : List Char)
    (h : ¬ [a, b] <:+: front ++ [a]) : before? a b (front ++ a :: b :: rest) = some front := by
  induction front with
  | nil => simp [before?]
  | cons c r ih =>
    rw [List.cons_append, pair_infix_cons, not_or] at h
    have hhead : (r ++ a :: b :: rest).head? = (r ++ [a]).head? := by cases r <;> rfl
    rw [List.cons_append, before?_cons, hhead, if_neg h.1, ih h.2]
    rfl

/-- What is found before two characters in a row is followed by them and does not hold them. -/
theorem eq_append_of_before? {a b : Char} {cs front : List Char}
    (h : before? a b cs = some front) :
    cs = front ++ a :: b :: cs.drop (front.length + 2) ∧ ¬ [a, b] <:+: front ++ [a] := by
  induction cs generalizing front with
  | nil => cases h
  | cons c r ih =>
    rw [before?_cons] at h
    split at h
    · rename_i hopen
      obtain rfl := Option.some.inj h
      obtain ⟨rfl, hb⟩ := hopen
      cases r with
      | nil => cases hb
      | cons d r =>
        obtain rfl := Option.some.inj hb
        exact ⟨rfl, by simp [pair_infix_cons]⟩
    · rename_i hopen
      obtain ⟨tail, htail, rfl⟩ := Option.map_eq_some_iff.mp h
      obtain ⟨hr, hno⟩ := ih htail
      have hhead : (tail ++ [a]).head? = r.head? := by
        rw [hr]
        cases tail <;> rfl
      refine ⟨congrArg (c :: ·) hr, ?_⟩
      rw [List.cons_append, pair_infix_cons, hhead, not_or]
      exact ⟨hopen, hno⟩

/-- A text is split at the first place where two characters stand in a row. -/
theorem splitAt?_eq_some_iff {a b : Char} {cs front rest : List Char} :
    splitAt? a b cs = some (front, rest) ↔
      cs = front ++ a :: b :: rest ∧ ¬ [a, b] <:+: front ++ [a] := by
  simp only [splitAt?, Option.map_eq_some_iff, Prod.mk.injEq]
  constructor
  · rintro ⟨_, h, rfl, rfl⟩
    exact eq_append_of_before? h
  · rintro ⟨rfl, h⟩
    refine ⟨front, before?_append rest h, rfl, ?_⟩
    rw [← List.drop_drop, List.drop_left]
    rfl

end ClusterProbe.Template
