import ClusterProbe.Proofs.Template.Filling

/-!
# What a template comes to

A template comes to a text or to a flaw. Both can be told from a place on, with the literal text
that is not complete there and the line on which that text starts: one equation for each way in
which a template begins. Everything about flaws and their lines is derived from these equations.
-/

namespace ClusterProbe.Template

/-- What a template comes to if the literal text `pending`, which starts on line `line`, stands in
front of it and belongs to its first literal text. -/
def outcome (values : Json) (line : Nat) (pending source : List Char) :
    Except Flaw (List Char) :=
  let parts := cut (line + lineFeeds pending) source
  expandAll values (lead line (pending ++ parts.1, parts.2))

/-- A template renders to the text that it comes to, or is refused for the flaw. -/
theorem render_eq_outcome (identifier source : String) (values : Json) :
    render identifier source values =
      match outcome values 1 [] source.toList with
      | .ok text => .ok (String.ofList text)
      | .error f => .error (.template identifier f.message) := rfl

theorem lineFeeds_append (x y : List Char) : lineFeeds (x ++ y) = lineFeeds x + lineFeeds y :=
  List.count_append

/-- There are no line feeds in delimiters. -/
theorem Tag.lineFeeds_text (t : Tag) : lineFeeds t.text = lineFeeds t.body := by
  cases t <;> simp [text, body, lineFeeds]

variable {values : Json} {line : Nat} {pending source after text : List Char} {c : Char}
  {t : Tag}

/-- At the end of a template its last literal text is looked at. -/
theorem outcome_nil :
    outcome values line pending [] = (literalSegment line pending).expand values := by
  rw [outcome, cut_nil, lead, List.append_nil, expandAll]
  cases (literalSegment line pending).expand values with
  | error f => rfl
  | ok text => exact congrArg Except.ok (List.append_nil text)

/-- In front of a statement the literal text is looked at first. -/
theorem outcome_statement :
    outcome values line pending ('{' :: '%' :: source) =
      (literalSegment line pending).expand values >>= fun _ ↦
        .error ⟨line + lineFeeds pending, .statement⟩ := by
  rw [outcome, cut_statement, lead, List.append_nil, expandAll]
  rfl

/-- In front of a tag the literal text is looked at first, then the tag, and then the rest. -/
theorem outcome_tag (ht : t.Complete) :
    outcome values line pending (t.text ++ after) =
      (literalSegment line pending).expand values >>= fun front ↦
        (t.segment (line + lineFeeds pending)).expand values >>= fun text ↦
          (outcome values (line + lineFeeds (pending ++ t.text)) [] after).map
            (front ++ text ++ ·) := by
  rw [outcome, cut_tag _ ht, lead, List.append_nil, expandAll, expandAll, lineFeeds_append,
    t.lineFeeds_text, ← Nat.add_assoc]
  cases (literalSegment line pending).expand values with
  | error f => rfl
  | ok front =>
    cases (t.segment (line + lineFeeds pending)).expand values with
    | error f => rfl
    | ok text =>
      change (outcome values _ [] after >>= fun more ↦ Except.ok (text ++ more)) >>=
        (fun more ↦ Except.ok (front ++ more)) = _
      cases outcome values (line + lineFeeds pending + lineFeeds t.body) [] after with
      | error f => rfl
      | ok more => exact congrArg Except.ok (List.append_assoc ..).symm

/-- The ways to come to a flaw in front of a statement. -/
theorem outcome_statement_error_cases {f : Flaw}
    (h : outcome values line pending ('{' :: '%' :: source) = .error f) :
    (literalSegment line pending).expand values = .error f ∨
      (literalSegment line pending).expand values = .ok pending ∧
        f = ⟨line + lineFeeds pending, .statement⟩ := by
  rw [outcome_statement] at h
  cases hliteral : (literalSegment line pending).expand values with
  | error g =>
    rw [hliteral] at h
    exact .inl h
  | ok front =>
    rw [hliteral] at h
    obtain ⟨-, rfl⟩ := expand_literalSegment_iff.mp hliteral
    exact .inr ⟨rfl, (Except.error.inj h).symm⟩

/-- The ways to come to a flaw in front of a tag. -/
theorem outcome_tag_error_cases {f : Flaw} (ht : t.Complete)
    (h : outcome values line pending (t.text ++ after) = .error f) :
    (literalSegment line pending).expand values = .error f ∨
      (literalSegment line pending).expand values = .ok pending ∧
        ((t.segment (line + lineFeeds pending)).expand values = .error f ∨
          ∃ text, t.Stands values text ∧
            outcome values (line + lineFeeds (pending ++ t.text)) [] after = .error f) := by
  rw [outcome_tag ht] at h
  cases hliteral : (literalSegment line pending).expand values with
  | error g =>
    rw [hliteral] at h
    exact .inl h
  | ok front =>
    rw [hliteral] at h
    obtain ⟨-, rfl⟩ := expand_literalSegment_iff.mp hliteral
    refine .inr ⟨rfl, ?_⟩
    change ((t.segment (line + lineFeeds front)).expand values >>= _) = _ at h
    cases hsegment : (t.segment (line + lineFeeds front)).expand values with
    | error g =>
      rw [hsegment] at h
      exact .inl h
    | ok text =>
      rw [hsegment] at h
      refine .inr ⟨text, Tag.expand_segment_iff.mp hsegment, ?_⟩
      change (outcome values (line + lineFeeds (front ++ t.text)) [] after).map _ = _ at h
      cases hafter : outcome values (line + lineFeeds (front ++ t.text)) [] after with
      | error g =>
        rw [hafter] at h
        exact h
      | ok more =>
        rw [hafter] at h
        cases h

/-- A character where no tag begins belongs to the literal text. -/
theorem outcome_literal (h : ¬ Tagged (c :: source)) :
    outcome values line pending (c :: source) = outcome values line (pending ++ [c]) source := by
  have hline : (if c = '\n' then line + lineFeeds pending + 1 else line + lineFeeds pending) =
      line + lineFeeds (pending ++ [c]) := by
    rw [lineFeeds_append, ← Nat.add_assoc]
    split
    next hc => rw [hc]; rfl
    next hc => rw [lineFeeds, lineFeeds, List.count_singleton, if_neg (by simpa using hc)]; rfl
  rw [outcome, cut_literal _ h, hline, outcome, List.append_assoc]
  rfl

end ClusterProbe.Template
