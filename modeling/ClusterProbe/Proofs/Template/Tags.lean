import ClusterProbe.Proofs.Template.Delimiters

/-!
# Tags

A template is cut at its tags. What a tag is can be said without the cutting: an opening delimiter,
a text without the closing one, and the closing one. A text begins with at most one tag, and cutting
takes the tag that stands at the beginning, or else one character.
-/

namespace ClusterProbe.Template

/-- A stretch of a template that is no literal text. -/
inductive Tag where
  | comment (body : List Char)
  | expression (body : List Char)

namespace Tag

/-- A tag with its delimiters. -/
def text : Tag → List Char
  | .comment body => '{' :: '#' :: body ++ ['#', '}']
  | .expression body => '{' :: '{' :: body ++ ['}', '}']

/-- The text between the delimiters. -/
def body : Tag → List Char
  | .comment body => body
  | .expression body => body

/-- The closing delimiter stands nowhere earlier. -/
def Complete : Tag → Prop
  | .comment body => ¬ ['#', '}'] <:+: body
  | .expression body => ¬ ['}', '}'] <:+: body ++ ['}']

instance : DecidablePred Complete
  | .comment body => inferInstanceAs (Decidable (¬ ['#', '}'] <:+: body))
  | .expression body => inferInstanceAs (Decidable (¬ ['}', '}'] <:+: body ++ ['}']))

/-- The segment of a tag that begins on a line. -/
def segment (line : Nat) : Tag → Segment
  | .comment body => .comment body
  | .expression body => .expression line body

theorem length_text_pos (t : Tag) : 0 < t.text.length := by
  cases t <;> exact Nat.zero_lt_succ _

theorem text_comment_append (body after : List Char) :
    (comment body).text ++ after = '{' :: '#' :: (body ++ '#' :: '}' :: after) := by
  simp [text]

theorem text_expression_append (body after : List Char) :
    (expression body).text ++ after = '{' :: '{' :: (body ++ '}' :: '}' :: after) := by
  simp [text]

/-- A text behind the opening delimiter of a comment is split at the end of the comment. -/
theorem splitAt?_comment_iff {rest body after : List Char} :
    splitAt? '#' '}' rest = some (body, after) ↔
      (comment body).Complete ∧ rest = body ++ '#' :: '}' :: after := by
  rw [splitAt?_eq_some_iff, pair_infix_append, and_comm]
  simp [Complete, pair_infix_cons]

/-- A text behind the opening delimiter of an expression is split at the end of the expression. -/
theorem splitAt?_expression_iff {rest body after : List Char} :
    splitAt? '}' '}' rest = some (body, after) ↔
      (expression body).Complete ∧ rest = body ++ '}' :: '}' :: after := by
  rw [splitAt?_eq_some_iff, and_comm]
  rfl

/-- A text begins with at most one tag. -/
theorem text_append_inj {t t' : Tag} {after after' : List Char} (ht : t.Complete)
    (ht' : t'.Complete) (h : t.text ++ after = t'.text ++ after') : t = t' ∧ after = after' := by
  cases t with
  | comment body =>
    rw [text_comment_append] at h
    have hs : splitAt? '#' '}' (body ++ '#' :: '}' :: after) = some (body, after) :=
      splitAt?_comment_iff.mpr ⟨ht, rfl⟩
    cases t' with
    | comment body' =>
      rw [text_comment_append] at h
      rw [(List.cons.inj (List.cons.inj h).2).2, splitAt?_comment_iff.mpr ⟨ht', rfl⟩] at hs
      obtain ⟨rfl, rfl⟩ := Prod.mk.inj (Option.some.inj hs)
      exact ⟨rfl, rfl⟩
    | expression body' => cases (List.cons.inj (List.cons.inj h).2).1
  | expression body =>
    rw [text_expression_append] at h
    have hs : splitAt? '}' '}' (body ++ '}' :: '}' :: after) = some (body, after) :=
      splitAt?_expression_iff.mpr ⟨ht, rfl⟩
    cases t' with
    | comment body' => cases (List.cons.inj (List.cons.inj h).2).1
    | expression body' =>
      rw [text_expression_append] at h
      rw [(List.cons.inj (List.cons.inj h).2).2, splitAt?_expression_iff.mpr ⟨ht', rfl⟩] at hs
      obtain ⟨rfl, rfl⟩ := Prod.mk.inj (Option.some.inj hs)
      exact ⟨rfl, rfl⟩

end Tag

/-- A statement or a complete tag stands at the beginning of a text. -/
inductive Tagged : List Char → Prop
  | statement (rest : List Char) : Tagged ('{' :: '%' :: rest)
  | tag {t : Tag} (complete : t.Complete) (after : List Char) : Tagged (t.text ++ after)

/-- An opening delimiter stands at the beginning of a text. -/
def Opens (cs : List Char) : Prop :=
  ∃ d rest, cs = '{' :: d :: rest ∧ (d = '{' ∨ d = '#' ∨ d = '%')

/-- What begins with a statement or a tag begins with an opening delimiter. -/
theorem Tagged.opens {cs : List Char} (h : Tagged cs) : Opens cs := by
  cases h with
  | statement rest => exact ⟨'%', rest, rfl, .inr (.inr rfl)⟩
  | @tag t _ after =>
    cases t with
    | comment body => exact ⟨'#', _, rfl, .inr (.inl rfl)⟩
    | expression body => exact ⟨'{', _, rfl, .inl rfl⟩

/-- A tag begins with two braces exactly if something closes them. -/
theorem tagged_expression_iff {rest : List Char} :
    Tagged ('{' :: '{' :: rest) ↔ ['}', '}'] <:+: rest := by
  constructor
  · generalize hs : '{' :: '{' :: rest = s
    intro ht
    cases ht with
    | statement _ => cases hs
    | @tag t complete after =>
      cases t with
      | comment body => cases hs
      | expression body =>
        rw [Tag.text_expression_append] at hs
        obtain rfl := (List.cons.inj (List.cons.inj hs).2).2
        exact ⟨body, after, by simp⟩
  · intro h
    cases hs : splitAt? '}' '}' rest with
    | none => exact absurd h (before?_eq_none_iff.mp (Option.map_eq_none_iff.mp hs))
    | some parts =>
      obtain ⟨complete, rfl⟩ := Tag.splitAt?_expression_iff.mp hs
      exact Tag.text_expression_append .. ▸ .tag complete _

/-- A tag begins with a brace and a number sign exactly if something closes them. -/
theorem tagged_comment_iff {rest : List Char} :
    Tagged ('{' :: '#' :: rest) ↔ ['#', '}'] <:+: rest := by
  constructor
  · generalize hs : '{' :: '#' :: rest = s
    intro ht
    cases ht with
    | statement _ => cases hs
    | @tag t complete after =>
      cases t with
      | comment body =>
        rw [Tag.text_comment_append] at hs
        obtain rfl := (List.cons.inj (List.cons.inj hs).2).2
        exact ⟨body, after, by simp⟩
      | expression body => cases hs
  · intro h
    cases hs : splitAt? '#' '}' rest with
    | none => exact absurd h (before?_eq_none_iff.mp (Option.map_eq_none_iff.mp hs))
    | some parts =>
      obtain ⟨complete, rfl⟩ := Tag.splitAt?_comment_iff.mp hs
      exact Tag.text_comment_append .. ▸ .tag complete _

/-- A template is empty, or begins with a statement, with a tag and a shorter template behind it, or
with a character at which no tag begins. -/
@[elab_as_elim]
theorem source_induction {motive : List Char → Prop} (nil : motive [])
    (statement : ∀ rest, motive ('{' :: '%' :: rest))
    (tag : ∀ (t : Tag) after, t.Complete → motive after → motive (t.text ++ after))
    (literal : ∀ c rest, ¬ Tagged (c :: rest) → motive rest → motive (c :: rest))
    (source : List Char) : motive source := by
  by_cases h : Tagged source
  · cases h with
    | statement rest => exact statement rest
    | @tag t complete after =>
      have htext : 0 < t.text.length := t.length_text_pos
      exact tag t after complete (source_induction nil statement tag literal after)
  · cases source with
    | nil => exact nil
    | cons c rest => exact literal c rest h (source_induction nil statement tag literal rest)
termination_by source.length

/-! ### Cutting -/

theorem cut_nil (line : Nat) : cut line [] = ([], []) := by
  rw [cut]

/-- Nothing is cut from a statement on. -/
theorem cut_statement (line : Nat) (rest : List Char) :
    cut line ('{' :: '%' :: rest) = ([], [.flaw ⟨line, .statement⟩]) := by
  rw [cut]

/-- A tag at the beginning is cut off, and then the text behind it is cut. -/
theorem cut_tag (line : Nat) {t : Tag} (ht : t.Complete) (after : List Char) :
    cut line (t.text ++ after) =
      ([], t.segment line ::
        lead (line + lineFeeds t.body) (cut (line + lineFeeds t.body) after)) := by
  cases t with
  | comment body =>
    have hs : splitAt? '#' '}' (body ++ '#' :: '}' :: after) = some (body, after) :=
      Tag.splitAt?_comment_iff.mpr ⟨ht, rfl⟩
    rw [Tag.text_comment_append, cut]
    split
    · rename_i h
      obtain ⟨rfl, rfl⟩ := Prod.mk.inj (Option.some.inj (h.symm.trans hs))
      rfl
    · rename_i h
      cases h.symm.trans hs
  | expression body =>
    have hs : splitAt? '}' '}' (body ++ '}' :: '}' :: after) = some (body, after) :=
      Tag.splitAt?_expression_iff.mpr ⟨ht, rfl⟩
    rw [Tag.text_expression_append, cut]
    split
    · rename_i h
      obtain ⟨rfl, rfl⟩ := Prod.mk.inj (Option.some.inj (h.symm.trans hs))
      rfl
    · rename_i h
      cases h.symm.trans hs

/-- Where no tag begins, one character is literal text. -/
theorem cut_literal (line : Nat) {c : Char} {rest : List Char} (h : ¬ Tagged (c :: rest)) :
    cut line (c :: rest) =
      (c :: (cut (if c = '\n' then line + 1 else line) rest).1,
        (cut (if c = '\n' then line + 1 else line) rest).2) := by
  rw [cut.eq_def line (c :: rest)]
  split
  · rename_i opened heq
    obtain ⟨rfl, rfl⟩ := List.cons.inj heq
    split
    · rename_i hs
      obtain ⟨ht, rfl⟩ := Tag.splitAt?_expression_iff.mp hs
      exact absurd (Tag.text_expression_append .. ▸ Tagged.tag ht _) h
    · rfl
  · rename_i opened heq
    obtain ⟨rfl, rfl⟩ := List.cons.inj heq
    split
    · rename_i hs
      obtain ⟨ht, rfl⟩ := Tag.splitAt?_comment_iff.mp hs
      exact absurd (Tag.text_comment_append .. ▸ Tagged.tag ht _) h
    · rfl
  · rename_i heq
    obtain ⟨rfl, rfl⟩ := List.cons.inj heq
    exact absurd (.statement _) h
  · rename_i heq
    obtain ⟨rfl, rfl⟩ := List.cons.inj heq
    rfl
  · rename_i heq
    cases heq

end ClusterProbe.Template
