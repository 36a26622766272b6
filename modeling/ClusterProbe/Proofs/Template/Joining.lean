import ClusterProbe.Proofs.Template.Grammar
import ClusterProbe.Proofs.Template.Outcome

/-!
# Templates one behind the other

A template that renders can be put in front of another one. Main statement: unless a delimiter could
reach over the seam, the text in front renders as it does alone, and the template behind it renders
as it does alone, or is refused for the same flaw, only as many lines further down.
-/

namespace ClusterProbe.Template

/-- A flaw so many lines further down. -/
def Flaw.below (n : Nat) (f : Flaw) : Flaw := { f with line := f.line + n }

/-! ### Further down -/

section Below

variable {values : Json} {line : Nat} {pending source : List Char}

private theorem mapError_bind {α β : Type} (n : Nat) (x : Except Flaw α)
    (f : α → Except Flaw β) :
    (x >>= f).mapError (Flaw.below n) =
      x.mapError (Flaw.below n) >>= fun a ↦ (f a).mapError (Flaw.below n) := by
  cases x <;> rfl

private theorem mapError_map {α β : Type} (n : Nat) (x : Except Flaw α) (f : α → β) :
    (x.map f).mapError (Flaw.below n) = (x.mapError (Flaw.below n)).map f := by
  cases x <;> rfl

/-- Where a literal text starts further down, its flaw is further down. -/
theorem expand_literalSegment_add (values : Json) (line n : Nat) (text : List Char) :
    (literalSegment (line + n) text).expand values =
      ((literalSegment line text).expand values).mapError (Flaw.below n) := by
  have hflaw (front : List Char) (o : Opener) :
      (⟨line + n + lineFeeds front, .unterminated o⟩ : Flaw) =
        Flaw.below n ⟨line + lineFeeds front, .unterminated o⟩ :=
    congrArg (Flaw.mk · _) (Nat.add_right_comm ..)
  rw [literalSegment, literalSegment]
  cases before? '{' '{' text with
  | some front => exact congrArg Except.error (hflaw front .expression)
  | none =>
    cases before? '{' '#' text with
    | some front => exact congrArg Except.error (hflaw front .comment)
    | none => rfl

/-- Where a tag begins further down, its flaw is further down. -/
theorem expand_segment_add (values : Json) (line n : Nat) (t : Tag) :
    (t.segment (line + n)).expand values =
      ((t.segment line).expand values).mapError (Flaw.below n) := by
  cases t with
  | comment body => rfl
  | expression body =>
    change substitute values (line + n) body =
      (substitute values line body).mapError (Flaw.below n)
    rw [substitute, substitute]
    split
    · rfl
    · cases values.lookup? (Text.trim body) <;> rfl

/-- Where a template begins further down, its flaw is further down. -/
theorem outcome_add (n : Nat) :
    outcome values (line + n) pending source =
      (outcome values line pending source).mapError (Flaw.below n) := by
  induction source using source_induction generalizing line pending with
  | nil => rw [outcome_nil, outcome_nil, expand_literalSegment_add]
  | statement rest =>
    rw [outcome_statement, outcome_statement, expand_literalSegment_add, mapError_bind,
      Nat.add_right_comm]
    rfl
  | tag t after complete ih =>
    rw [outcome_tag complete, outcome_tag complete, expand_literalSegment_add, mapError_bind,
      Nat.add_right_comm line n, expand_segment_add, Nat.add_right_comm line n, ih]
    simp only [mapError_bind, mapError_map]
  | literal c rest plain ih => rw [outcome_literal plain, outcome_literal plain, ih]

end Below

/-! ### Over the seam -/

/-- The text before two characters in a row is found behind a text that holds no first character
of them at its end and does not hold them. -/
theorem before?_append_of_not {a b : Char} {x : List Char} (hx : ¬ [a, b] <:+: x)
    (hlast : x.getLast? ≠ some a) (y : List Char) :
    before? a b (x ++ y) = (before? a b y).map (x ++ ·) := by
  induction x with
  | nil => simp
  | cons c r ih =>
    rw [pair_infix_cons, not_or] at hx
    have hopen : ¬ (c = a ∧ (r ++ y).head? = some b) := by
      cases r with
      | nil => exact fun h ↦ hlast (congrArg some h.1)
      | cons d r => exact hx.1
    have htail : r.getLast? ≠ some a := by
      cases r with
      | nil => simp
      | cons d r => rwa [List.getLast?_cons_cons] at hlast
    rw [List.cons_append, before?_cons, if_neg hopen, ih hx.2 htail]
    cases before? a b y <;> rfl

/-- A clean text that does not end in a brace is passed over where literal text is looked at. -/
theorem expand_literalSegment_append (values : Json) (line : Nat) {x : List Char} (hx : Clean x)
    (hlast : x.getLast? ≠ some '{') (y : List Char) :
    (literalSegment line (x ++ y)).expand values =
      ((literalSegment (line + lineFeeds x) y).expand values).map (x ++ ·) := by
  have hflaw (front : List Char) (o : Opener) :
      (⟨line + lineFeeds (x ++ front), .unterminated o⟩ : Flaw) =
        ⟨line + lineFeeds x + lineFeeds front, .unterminated o⟩ := by
    rw [lineFeeds_append, Nat.add_assoc]
  rw [literalSegment, literalSegment, before?_append_of_not hx.1 hlast,
    before?_append_of_not hx.2 hlast]
  cases before? '{' '{' y with
  | some front => exact congrArg Except.error (hflaw front .expression)
  | none =>
    cases before? '{' '#' y with
    | some front => exact congrArg Except.error (hflaw front .comment)
    | none => rfl

variable {values : Json} {line : Nat} {pending source a b out : List Char}

/-- A clean text that does not end in a brace stands for itself in front of a template. -/
theorem outcome_append_of_clean {x y : List Char} (hx : Clean x) (hlast : x.getLast? ≠ some '{') :
    outcome values line (x ++ y) source =
      (outcome values (line + lineFeeds x) y source).map (x ++ ·) := by
  have hline (z : List Char) : line + lineFeeds (x ++ z) = line + lineFeeds x + lineFeeds z := by
    rw [lineFeeds_append, Nat.add_assoc]
  induction source using source_induction generalizing y with
  | nil => rw [outcome_nil, outcome_nil, expand_literalSegment_append values line hx hlast]
  | statement rest =>
    rw [outcome_statement, outcome_statement, expand_literalSegment_append values line hx hlast,
      hline]
    cases (literalSegment (line + lineFeeds x) y).expand values <;> rfl
  | tag t after complete _ =>
    rw [outcome_tag complete, outcome_tag complete,
      expand_literalSegment_append values line hx hlast, List.append_assoc, hline, hline]
    cases (literalSegment (line + lineFeeds x) y).expand values with
    | error f => rfl
    | ok front =>
      cases (t.segment (line + lineFeeds x + lineFeeds y)).expand values with
      | error f => rfl
      | ok text =>
        cases outcome values (line + lineFeeds x + lineFeeds (y ++ t.text)) [] after with
        | error f => rfl
        | ok more =>
          refine congrArg Except.ok ?_
          simp only [List.append_assoc]
  | literal c rest plain ih =>
    rw [outcome_literal plain, outcome_literal plain, List.append_assoc, ih]

/-- Where a brace is literal text of a template that is filled, what makes it an opening delimiter
is a second brace, which belongs to a comment. -/
theorem exists_comment_of_opens {d : Char} {rest : List Char}
    (plain : ¬ Tagged ('{' :: d :: rest)) (hd : d = '{' ∨ d = '#' ∨ d = '%')
    (hf : Fills values (pending ++ ['{']) (d :: rest) out) :
    d = '{' ∧ ∃ more, rest = '#' :: more := by
  rcases hd with rfl | rfl | rfl
  · refine ⟨rfl, ?_⟩
    by_cases ht : Tagged ('{' :: rest)
    · generalize hs : '{' :: rest = s at ht
      cases ht with
      | statement r =>
        obtain rfl := (List.cons.inj hs).2
        exact absurd hf not_fills_statement
      | @tag t complete after =>
        cases t with
        | comment body => exact ⟨_, (List.cons.inj hs).2⟩
        | expression body =>
          rw [Tag.text_expression_append] at hs
          obtain rfl := (List.cons.inj hs).2
          exact absurd (tagged_expression_iff.mpr ⟨'{' :: body, after, by simp⟩) plain
    · rw [fills_literal_iff ht] at hf
      exact absurd ⟨pending, [], by simp⟩ hf.clean.1
  · have ht : ¬ Tagged ('#' :: rest) := by
      intro ht
      obtain ⟨_, _, heq, _⟩ := ht.opens
      cases heq
    rw [fills_literal_iff ht] at hf
    exact absurd ⟨pending, [], by simp⟩ hf.clean.2
  · exact absurd (.statement rest) plain

/-- No tag reaches over the seam of two templates from a literal character of the first one. -/
theorem not_tagged_append {c : Char} (plain : ¬ Tagged (c :: a))
    (hf : Fills values (pending ++ [c]) a out) (hno : ¬ ['{', '{', '#'] <:+: c :: a)
    (hlast : (c :: a).getLast? ≠ some '{') : ¬ Tagged (c :: (a ++ b)) := by
  intro ht
  obtain ⟨d, r, heq, hd⟩ := ht.opens
  obtain ⟨rfl, hr⟩ := List.cons.inj heq
  cases a with
  | nil => exact hlast rfl
  | cons e rest =>
    obtain rfl : e = d := (List.cons.inj hr).1
    obtain ⟨rfl, more, rfl⟩ := exists_comment_of_opens plain hd hf
    exact hno ⟨[], more, rfl⟩

/-- Behind a template that is filled comes what the template behind it comes to by itself. -/
theorem Fills.outcome_append (h : Fills values pending a out)
    (hno : ¬ ['{', '{', '#'] <:+: a) (hlast : (pending ++ a).getLast? ≠ some '{') :
    outcome values line pending (a ++ b) =
      (outcome values (line + lineFeeds (pending ++ a)) [] b).map (out ++ ·) := by
  induction h generalizing line with
  | @done pending clean =>
    rw [List.append_nil] at hlast ⊢
    rw [List.nil_append, ← outcome_append_of_clean clean hlast, List.append_nil]
  | @tag pending after text out t clean complete stands _ ih =>
    have hafter : ¬ ['{', '{', '#'] <:+: after :=
      fun hi ↦ hno (hi.trans (List.suffix_append _ _).isInfix)
    have hend : ([] ++ after).getLast? ≠ some '{' := by
      intro hl
      rw [List.nil_append] at hl
      rw [List.getLast?_append, List.getLast?_append, hl] at hlast
      exact hlast rfl
    rw [List.append_assoc, outcome_tag complete, ih hafter hend, List.nil_append,
      expand_literalSegment_iff.mpr ⟨clean, rfl⟩, Nat.add_assoc, ← lineFeeds_append,
      List.append_assoc]
    change ((t.segment _).expand values >>= _) = _
    rw [Tag.expand_segment_iff.mpr stands]
    cases outcome values (line + lineFeeds (pending ++ (t.text ++ after))) [] b with
    | error f => rfl
    | ok more => exact congrArg Except.ok (List.append_assoc (pending ++ text) out more).symm
  | @literal pending source out c plain rest ih =>
    have hsource : ¬ ['{', '{', '#'] <:+: source :=
      fun hi ↦ hno (hi.trans (List.suffix_cons c source).isInfix)
    have hend : (c :: source).getLast? ≠ some '{' := by
      intro hl
      rw [List.getLast?_append, hl] at hlast
      exact hlast rfl
    rw [List.append_cons] at hlast ⊢
    rw [List.cons_append, outcome_literal (not_tagged_append plain rest hno hend),
      ih hsource hlast]

/-- A template in front of which another one stands. Where the one in front renders, does not end in
a brace, and nowhere has a brace in front of a comment, both render as they do alone: to one text
behind the other, or else to the error of the template behind, so many lines further down. -/
theorem render_append {identifier a b x : String} {values : Json}
    (h : render identifier a values = .ok x) (hlast : a.toList.getLast? ≠ some '{')
    (hno : ¬ ['{', '{', '#'] <:+: a.toList) :
    (∀ y, render identifier (a ++ b) values = .ok (x ++ y) ↔
        render identifier b values = .ok y) ∧
      ((∀ y, render identifier b values ≠ .ok y) → ∃ line problem,
        render identifier b values =
          .error (.template identifier (Flaw.message ⟨line, problem⟩)) ∧
        render identifier (a ++ b) values =
          .error (.template identifier (Flaw.message ⟨line + lineFeeds a.toList, problem⟩))) := by
  have happend : outcome values 1 [] (a ++ b).toList =
      ((outcome values 1 [] b.toList).mapError (Flaw.below (lineFeeds a.toList))).map
        (x.toList ++ ·) := by
    rw [String.toList_append, (render_eq_ok_iff.mp h).outcome_append hno hlast, outcome_add]
    rfl
  rw [render_eq_outcome, render_eq_outcome, happend]
  cases outcome values 1 [] b.toList with
  | ok text =>
    refine ⟨fun y ↦ ?_, fun hfails ↦ absurd rfl (hfails (String.ofList text))⟩
    change Except.ok (String.ofList (x.toList ++ text)) = _ ↔ Except.ok (String.ofList text) = _
    simp [← String.toList_inj]
  | error f =>
    refine ⟨fun y ↦ iff_of_false (by rintro ⟨⟩) (by rintro ⟨⟩), fun _ ↦ ?_⟩
    exact ⟨f.line, f.problem, rfl, rfl⟩

/-- A comment over two lines in front of a template that renders, and of one that does not. -/
theorem render_append_comment :
    render "t" "\x7b#\n#\x7dp: " (.object []) = .ok "p: " ∧
      "\x7b#\n#\x7dp: ".toList.getLast? ≠ some '{' ∧
      ¬ ['{', '{', '#'] <:+: "\x7b#\n#\x7dp: ".toList ∧
      render "t" ("\x7b#\n#\x7dp: " ++ "q") (.object []) = .ok ("p: " ++ "q") ∧
      ∃ line problem,
        render "t" "\x7b\x7b y \x7d\x7d" (.object []) =
          .error (.template "t" (Flaw.message ⟨line, problem⟩)) ∧
        render "t" ("\x7b#\n#\x7dp: " ++ "\x7b\x7b y \x7d\x7d") (.object []) =
          .error (.template "t" (Flaw.message ⟨line + 1, problem⟩)) := by
  have h : render "t" "\x7b#\n#\x7dp: " (.object []) = .ok "p: " := by
    have complete : (Tag.comment ['\n']).Complete := by decide
    have hplain : Plain ['p', ':', ' '] := ⟨⟨by decide, by decide⟩, by decide⟩
    have hclean : Clean [] := by simp [Clean]
    refine render_eq_ok_iff.mpr (Fills.tag hclean complete (.comment _) ?_)
    exact .behind_plain hplain (fun _ ↦ rfl) (.done hplain.1)
  have hlast : "\x7b#\n#\x7dp: ".toList.getLast? ≠ some '{' := by decide
  have hno : ¬ ['{', '{', '#'] <:+: "\x7b#\n#\x7dp: ".toList := by simp [List.infix_cons_iff]
  have hplain : render "t" "q" (.object []) = .ok "q" :=
    render_of_plain "t" _ ⟨⟨by decide, by decide⟩, by decide⟩
  have hflaw (y : String) : render "t" "\x7b\x7b y \x7d\x7d" (.object []) ≠ .ok y := by
    have complete : (Tag.expression [' ', 'y', ' ']).Complete := by decide
    have hsource : "\x7b\x7b y \x7d\x7d".toList =
        (Tag.expression [' ', 'y', ' ']).text ++ [] := by decide
    have houtcome : outcome (.object []) 1 [] "\x7b\x7b y \x7d\x7d".toList =
        .error ⟨1, .undefined ['y']⟩ := by
      rw [hsource, outcome_tag complete]
      rfl
    rw [render_eq_outcome, houtcome]
    rintro ⟨⟩
  exact ⟨h, hlast, hno, ((render_append h hlast hno).1 "q").mpr hplain,
    (render_append h hlast hno).2 hflaw⟩

end ClusterProbe.Template
