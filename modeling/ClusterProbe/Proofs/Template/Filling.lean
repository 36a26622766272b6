import ClusterProbe.Proofs.Template.Expressions
import ClusterProbe.Renderer

/-!
# Filling a template

What a template renders to, said without lines and without segments: by reading it from the left,
tag by tag and character by character. Literal text must be clean as soon as it is complete, that
is, in front of a tag or at the end.
-/

namespace ClusterProbe.Template

/-- No delimiter is open in a literal text. -/
def Clean (text : List Char) : Prop := ¬ ['{', '{'] <:+: text ∧ ¬ ['{', '#'] <:+: text

/-- Of two texts, the first of which does not end in a brace, both are clean if they are so
together. -/
theorem clean_append {x y : List Char} (h : x.getLast? ≠ some '{') :
    Clean (x ++ y) ↔ Clean x ∧ Clean y := by
  have hpair (b : Char) : ['{', b] <:+: x ++ y ↔ ['{', b] <:+: x ∨ ['{', b] <:+: y := by
    simp [pair_infix_append, h]
  rw [Clean, Clean, Clean, hpair, hpair, not_or, not_or, and_and_and_comm]

/-- Literal text stands for itself if it is clean, and else for nothing. -/
theorem expand_literalSegment_iff {values : Json} {line : Nat} {text out : List Char} :
    (literalSegment line text).expand values = .ok out ↔ Clean text ∧ out = text := by
  rw [literalSegment, Clean, ← before?_eq_none_iff, ← before?_eq_none_iff]
  cases before? '{' '{' text with
  | some front => simp [Segment.expand]
  | none =>
    cases before? '{' '#' text with
    | some front => simp [Segment.expand]
    | none => simp [Segment.expand, eq_comm]

/-- Segments stand for texts, and these for the whole. -/
theorem expandAll_cons_iff {values : Json} {s : Segment} {rest : List Segment}
    {out : List Char} :
    expandAll values (s :: rest) = .ok out ↔
      ∃ text more, s.expand values = .ok text ∧ expandAll values rest = .ok more ∧
        out = text ++ more := by
  rw [expandAll]
  cases s.expand values with
  | error f => simp [bind, Except.bind]
  | ok text =>
    cases expandAll values rest with
    | error f => simp [bind, Except.bind]
    | ok more => simp [bind, Except.bind, eq_comm]

/-- What a template is filled to if the literal text `pending` stands in front of it and belongs to
its first literal text. -/
inductive Fills (values : Json) : (pending source out : List Char) → Prop
  | done {pending : List Char} (clean : Clean pending) : Fills values pending [] pending
  | tag {pending after text out : List Char} {t : Tag} (clean : Clean pending)
      (complete : t.Complete) (stands : t.Stands values text) (rest : Fills values [] after out) :
      Fills values pending (t.text ++ after) (pending ++ text ++ out)
  | literal {pending source out : List Char} {c : Char} (plain : ¬ Tagged (c :: source))
      (rest : Fills values (pending ++ [c]) source out) : Fills values pending (c :: source) out

section Steps

variable {values : Json} {pending source after out : List Char} {c : Char} {t : Tag}

/-- An empty template is filled to the text in front of it. -/
theorem fills_nil_iff : Fills values pending [] out ↔ Clean pending ∧ out = pending := by
  constructor
  · generalize hs : ([] : List Char) = s
    intro h
    cases h with
    | done clean => exact ⟨clean, rfl⟩
    | @tag _ _ _ _ t => cases t <;> cases hs
    | literal _ _ => cases hs
  · rintro ⟨h, rfl⟩
    exact .done h

/-- Nothing is filled from a statement on. -/
theorem not_fills_statement : ¬ Fills values pending ('{' :: '%' :: source) out := by
  generalize hs : '{' :: '%' :: source = s
  intro h
  cases h with
  | done _ => cases hs
  | @tag _ _ _ _ t => cases t <;> cases hs
  | literal plain _ =>
    rw [← hs] at plain
    exact plain (.statement _)

/-- A tag at the beginning is filled if the text in front of it is clean and the tag stands for
something. -/
theorem fills_tag_iff (ht : t.Complete) :
    Fills values pending (t.text ++ after) out ↔
      Clean pending ∧ ∃ text more, t.Stands values text ∧ Fills values [] after more ∧
        out = pending ++ text ++ more := by
  constructor
  · generalize hs : t.text ++ after = s
    intro h
    cases h with
    | done _ => cases t <;> cases hs
    | tag clean complete stands rest =>
      obtain ⟨rfl, rfl⟩ := Tag.text_append_inj ht complete hs
      exact ⟨clean, _, _, stands, rest, rfl⟩
    | literal plain _ =>
      rw [← hs] at plain
      exact absurd (.tag ht after) plain
  · rintro ⟨clean, text, more, stands, rest, rfl⟩
    exact .tag clean ht stands rest

/-- A character where no tag begins belongs to the literal text. -/
theorem fills_literal_iff (h : ¬ Tagged (c :: source)) :
    Fills values pending (c :: source) out ↔ Fills values (pending ++ [c]) source out := by
  constructor
  · generalize hs : c :: source = s at h
    intro hf
    cases hf with
    | done _ => cases hs
    | tag _ complete _ _ => exact absurd (.tag complete _) h
    | literal _ rest =>
      cases hs
      exact rest
  · exact .literal h

end Steps

/-- A text in front of a template that is filled is clean. -/
theorem Fills.clean {values : Json} {pending source out : List Char}
    (h : Fills values pending source out) : Clean pending := by
  induction h with
  | done clean => exact clean
  | tag clean _ _ _ _ => exact clean
  | @literal pending source out c _ _ ih =>
    have hprefix := (List.prefix_append pending [c]).isInfix
    exact ⟨fun hi ↦ ih.1 (hi.trans hprefix), fun hi ↦ ih.2 (hi.trans hprefix)⟩

/-- A text in front of a template that does not end in a brace is filled in by itself. -/
theorem fills_append_iff {values : Json} {x y source out : List Char}
    (hx : x.getLast? ≠ some '{') :
    Fills values (x ++ y) source out ↔
      Clean x ∧ ∃ more, Fills values y source more ∧ out = x ++ more := by
  induction source using source_induction generalizing y out with
  | nil => simp only [fills_nil_iff, clean_append hx, and_assoc, exists_and_left, exists_eq_left]
  | statement rest => simp [not_fills_statement]
  | tag t after complete _ =>
    simp only [fills_tag_iff complete, clean_append hx]
    constructor
    · rintro ⟨⟨cleanx, cleany⟩, text, more, stands, rest, rfl⟩
      exact ⟨cleanx, _, ⟨cleany, text, more, stands, rest, rfl⟩, by simp⟩
    · rintro ⟨cleanx, _, ⟨cleany, text, more, stands, rest, rfl⟩, rfl⟩
      exact ⟨⟨cleanx, cleany⟩, text, more, stands, rest, by simp⟩
  | literal c rest plain ih =>
    simp only [fills_literal_iff plain]
    rw [List.append_assoc, ih]

/-- The segments of a template, with a text in front of them, expand to what the template is filled
to, whatever the lines are. -/
theorem expandAll_lead_cut_iff {values : Json} (start line : Nat) (pending source : List Char)
    {out : List Char} :
    expandAll values (lead start (pending ++ (cut line source).1, (cut line source).2)) = .ok out ↔
      Fills values pending source out := by
  induction source using source_induction generalizing start line pending out with
  | nil =>
    rw [cut_nil, lead, expandAll_cons_iff, fills_nil_iff, List.append_nil]
    simp only [expand_literalSegment_iff, expandAll, Except.ok.injEq]
    constructor
    · rintro ⟨_, _, ⟨clean, rfl⟩, rfl, rfl⟩
      exact ⟨clean, List.append_nil _⟩
    · rintro ⟨clean, rfl⟩
      exact ⟨_, [], ⟨clean, rfl⟩, rfl, (List.append_nil _).symm⟩
  | statement rest =>
    rw [cut_statement]
    refine iff_of_false ?_ not_fills_statement
    rw [lead, expandAll_cons_iff]
    rintro ⟨_, _, _, hflaw, _⟩
    obtain ⟨_, _, hflaw, _⟩ := expandAll_cons_iff.mp hflaw
    cases hflaw
  | tag t after complete ih =>
    have hafter : ∀ more, expandAll values (lead (line + lineFeeds t.body)
          (cut (line + lineFeeds t.body) after)) = .ok more ↔ Fills values [] after more :=
      fun more ↦ ih _ _ []
    rw [cut_tag line complete, lead, expandAll_cons_iff, fills_tag_iff complete, List.append_nil]
    simp only [expand_literalSegment_iff, expandAll_cons_iff, Tag.expand_segment_iff, hafter]
    constructor
    · rintro ⟨_, _, ⟨clean, rfl⟩, ⟨text, more, stands, rest, rfl⟩, rfl⟩
      exact ⟨clean, text, more, stands, rest, (List.append_assoc ..).symm⟩
    · rintro ⟨clean, text, more, stands, rest, rfl⟩
      exact ⟨_, _, ⟨clean, rfl⟩, ⟨text, more, stands, rest, rfl⟩, List.append_assoc ..⟩
  | literal c rest plain ih =>
    rw [cut_literal line plain, fills_literal_iff plain, ← ih start, List.append_assoc]
    rfl

/-- A template renders to a text exactly if it is filled to that text. -/
theorem render_eq_ok_iff {identifier source out : String} {values : Json} :
    render identifier source values = .ok out ↔ Fills values [] source.toList out.toList := by
  rw [← expandAll_lead_cut_iff 1 1]
  change _ ↔ expand values source.toList = .ok out.toList
  rw [render]
  cases expand values source.toList with
  | error f => simp
  | ok text => simp [← String.toList_inj]

end ClusterProbe.Template
