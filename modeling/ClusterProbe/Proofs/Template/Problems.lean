import ClusterProbe.Proofs.Template.Outcome

/-!
# Where a problem begins

A template that is refused is refused for a problem at some place, and the line of the flaw is the
line of that place. Main statement: it is the first problem of the template, so that the text in
front of it renders, with one exception: of the delimiters that stay open in one literal text, one
of an expression is reported before one of a comment, although it stands further on.
-/

namespace ClusterProbe.Template

/-- A problem begins where a text begins. -/
inductive Begins (values : Json) : Problem → List Char → Prop
  | expression {rest : List Char} (unclosed : ¬ ['}', '}'] <:+: rest) :
      Begins values (.unterminated .expression) ('{' :: '{' :: rest)
  | comment {rest : List Char} (unclosed : ¬ ['#', '}'] <:+: rest) :
      Begins values (.unterminated .comment) ('{' :: '#' :: rest)
  | statement (rest : List Char) : Begins values .statement ('{' :: '%' :: rest)
  | unsupported {body after : List Char} (complete : (Tag.expression body).Complete)
      (form : ¬ DottedPath (Text.trim body)) :
      Begins values (.unsupported (Text.trim body)) ((Tag.expression body).text ++ after)
  | undefined {body after : List Char} (complete : (Tag.expression body).Complete)
      (form : DottedPath (Text.trim body)) (missing : values.lookup? (Text.trim body) = none) :
      Begins values (.undefined (Text.trim body)) ((Tag.expression body).text ++ after)

/-- A problem begins with an opening delimiter. -/
theorem Begins.eq_cons {values : Json} {problem : Problem} {rest : List Char}
    (h : Begins values problem rest) :
    ∃ d more, rest = '{' :: d :: more ∧
      (d = '{' ∨ d = '#' ∧ problem = .unterminated .comment ∨ d = '%') := by
  cases h with
  | @expression rest _ => exact ⟨'{', rest, rfl, .inl rfl⟩
  | @comment rest _ => exact ⟨'#', rest, rfl, .inr (.inl ⟨rfl, rfl⟩)⟩
  | statement rest => exact ⟨'%', rest, rfl, .inr (.inr rfl)⟩
  | @unsupported body after _ _ => exact ⟨'{', _, Tag.text_expression_append body after, .inl rfl⟩
  | @undefined body after _ _ _ => exact ⟨'{', _, Tag.text_expression_append body after, .inl rfl⟩

/-! ### Literal text -/

/-- No tag begins in a text that stands in front of another one. -/
def Untagged : (text rest : List Char) → Prop
  | [], _ => True
  | c :: text, rest => ¬ Tagged (c :: (text ++ rest)) ∧ Untagged text rest

/-- What begins with a statement or a tag does so with more behind it. -/
theorem Tagged.append {cs : List Char} (h : Tagged cs) (rest : List Char) :
    Tagged (cs ++ rest) := by
  cases h with
  | statement more => exact .statement (more ++ rest)
  | tag complete after =>
    rw [List.append_assoc]
    exact .tag complete (after ++ rest)

theorem untagged_append {x y rest : List Char} :
    Untagged (x ++ y) rest ↔ Untagged x (y ++ rest) ∧ Untagged y rest := by
  induction x with
  | nil => simp [Untagged]
  | cons c x ih => simp [Untagged, ih, and_assoc]

/-- No tag begins in a text where none would begin with more behind it. -/
theorem Untagged.of_append {x y rest : List Char} (h : Untagged x (y ++ rest)) :
    Untagged x y := by
  induction x with
  | nil => trivial
  | cons c x ih =>
    refine ⟨fun ht ↦ h.1 ?_, ih h.2⟩
    have htagged := ht.append rest
    rwa [List.cons_append, List.append_assoc] at htagged

variable {values : Json} {line : Nat} {pending source front rest : List Char} {f : Flaw}

/-- A text in which no tag begins is literal text in front of a template. -/
theorem outcome_append_of_untagged {text : List Char} (h : Untagged text source) :
    outcome values line pending (text ++ source) =
      outcome values line (pending ++ text) source := by
  induction text generalizing pending with
  | nil => rw [List.nil_append, List.append_nil]
  | cons c text ih =>
    rw [List.cons_append, outcome_literal h.1, ih h.2, List.append_assoc]
    rfl

/-- What a text in which no tag begins comes to. -/
theorem outcome_of_untagged {text : List Char} (h : Untagged text []) :
    outcome values line [] text = (literalSegment line text).expand values := by
  have hall : outcome values line [] (text ++ []) = outcome values line text [] :=
    outcome_append_of_untagged h
  rw [List.append_nil] at hall
  rw [hall, outcome_nil]

/-- Two braces in literal text are not closed. -/
theorem Untagged.unclosed_expression (h : Untagged (front ++ '{' :: '{' :: rest) source) :
    Begins values (.unterminated .expression) ('{' :: '{' :: (rest ++ source)) :=
  .expression fun hi ↦ (untagged_append.mp h).2.1 (tagged_expression_iff.mpr hi)

/-- A brace and a number sign in literal text are not closed. -/
theorem Untagged.unclosed_comment (h : Untagged (front ++ '{' :: '#' :: rest) source) :
    Begins values (.unterminated .comment) ('{' :: '#' :: (rest ++ source)) :=
  .comment fun hi ↦ (untagged_append.mp h).2.1 (tagged_comment_iff.mpr hi)

/-- Where a problem is found, and what is in front of it: text that renders, so that it is the first
problem, or, where delimiters of both kinds stay open in one literal text, a comment that is opened
behind text that renders and is open still. -/
inductive FoundAt (values : Json) (line : Nat) (front rest : List Char) : Problem → Prop
  | first {problem : Problem} (begins : Begins values problem rest)
      (renders : ∃ out, outcome values line [] front = .ok out) :
      FoundAt values line front rest problem
  | behindComment {read gap : List Char}
      (begins : Begins values (.unterminated .expression) rest) (split : front = read ++ gap)
      (comment : Begins values (.unterminated .comment) (gap ++ rest))
      (renders : ∃ out, outcome values line [] read = .ok out)
      (refused : outcome values line [] front =
        .error ⟨line + lineFeeds read, .unterminated .comment⟩) :
      FoundAt values line front rest (.unterminated .expression)

/-- Two characters in a row do not stand in a text where they do not stand with more behind it. -/
private theorem not_pair_of_append {a b : Char} {x y : List Char} (h : ¬ [a, b] <:+: x ++ y) :
    ¬ [a, b] <:+: x := fun hi ↦ h (hi.trans (List.prefix_append x y).isInfix)

/-- The flaw of a literal text is found in it. -/
theorem foundAt_of_literal (hp : Untagged pending source)
    (h : (literalSegment line pending).expand values = .error f) :
    ∃ front rest, pending ++ source = front ++ rest ∧ f.line = line + lineFeeds front ∧
      FoundAt values line front rest f.problem := by
  have hfront {x y : List Char} (heq : pending = x ++ y) : Untagged x [] := by
    rw [heq] at hp
    exact Untagged.of_append (y := []) (untagged_append.mp hp).1
  have hclean {x y : List Char} (heq : pending = x ++ y) (hx : Clean x) :
      outcome values line [] x = .ok x := by
    rw [outcome_of_untagged (hfront heq)]
    exact expand_literalSegment_iff.mpr ⟨hx, rfl⟩
  rw [literalSegment] at h
  cases hbraces : before? '{' '{' pending with
  | some front =>
    rw [hbraces] at h
    obtain rfl := Except.error.inj h
    obtain ⟨heq, hno⟩ := eq_append_of_before? hbraces
    obtain ⟨tail, rfl⟩ : ∃ tail, pending = front ++ '{' :: '{' :: tail := ⟨_, heq⟩
    have hdouble := not_pair_of_append hno
    refine ⟨front, '{' :: '{' :: (tail ++ source), by simp, rfl, ?_⟩
    cases hsign : before? '{' '#' front with
    | none =>
      exact .first hp.unclosed_expression
        ⟨_, hclean rfl ⟨hdouble, before?_eq_none_iff.mp hsign⟩⟩
    | some read =>
      obtain ⟨heq, hread⟩ := eq_append_of_before? hsign
      have hrefused : outcome values line [] front =
          .error ⟨line + lineFeeds read, .unterminated .comment⟩ := by
        rw [outcome_of_untagged (hfront rfl), literalSegment, before?_eq_none_iff.mpr hdouble, hsign]
        rfl
      obtain ⟨gap, rfl⟩ : ∃ gap, front = read ++ '{' :: '#' :: gap := ⟨_, heq⟩
      have hcomment : Begins values (.unterminated .comment)
          ('{' :: '#' :: (gap ++ '{' :: '{' :: tail ++ source)) := by
        rw [List.append_assoc] at hp
        exact hp.unclosed_comment
      refine .behindComment hp.unclosed_expression rfl (by simpa using hcomment)
        ⟨read, hclean (List.append_assoc ..)
          ⟨not_pair_of_append hdouble, not_pair_of_append hread⟩⟩ hrefused
  | none =>
    rw [hbraces] at h
    cases hsign : before? '{' '#' pending with
    | none =>
      rw [hsign] at h
      cases h
    | some front =>
      rw [hsign] at h
      obtain rfl := Except.error.inj h
      obtain ⟨heq, hno⟩ := eq_append_of_before? hsign
      obtain ⟨tail, rfl⟩ : ∃ tail, pending = front ++ '{' :: '#' :: tail := ⟨_, heq⟩
      have hdouble := not_pair_of_append (before?_eq_none_iff.mp hbraces)
      exact ⟨front, '{' :: '#' :: (tail ++ source), by simp, rfl,
        .first hp.unclosed_comment ⟨front, hclean rfl ⟨hdouble, not_pair_of_append hno⟩⟩⟩

/-- A problem that is found behind a tag is found behind what is in front of the tag as well. -/
theorem FoundAt.behind_tag {t : Tag} {text : List Char} {problem : Problem}
    (hp : Untagged pending (t.text ++ (front ++ rest))) (clean : Clean pending)
    (complete : t.Complete) (stands : t.Stands values text)
    (h : FoundAt values (line + lineFeeds (pending ++ t.text)) front rest problem) :
    FoundAt values line (pending ++ t.text ++ front) rest problem := by
  -- what a part of the text behind the tag comes to, told from the beginning
  have hbehind {x y : List Char} (heq : front = x ++ y) :
      outcome values line [] (pending ++ t.text ++ x) =
        (outcome values (line + lineFeeds (pending ++ t.text)) [] x).map
          (pending ++ text ++ ·) := by
    have hpx : Untagged pending (t.text ++ x) := by
      rw [heq, List.append_assoc, ← List.append_assoc] at hp
      exact hp.of_append
    rw [List.append_assoc, outcome_append_of_untagged hpx, List.nil_append, outcome_tag complete,
      expand_literalSegment_iff.mpr ⟨clean, rfl⟩]
    change ((t.segment _).expand values >>= _) = _
    rw [Tag.expand_segment_iff.mpr stands]
    rfl
  cases h with
  | first begins renders =>
    obtain ⟨out, hout⟩ := renders
    refine .first begins ⟨pending ++ text ++ out, ?_⟩
    rw [hbehind (List.append_nil front).symm, hout]
    rfl
  | @behindComment read gap begins split comment renders refused =>
    subst split
    obtain ⟨out, hout⟩ := renders
    refine .behindComment begins (List.append_assoc ..).symm comment
      ⟨pending ++ text ++ out, ?_⟩ ?_
    · rw [hbehind rfl, hout]
      rfl
    · rw [hbehind (List.append_nil _).symm, refused, lineFeeds_append _ read, ← Nat.add_assoc]
      rfl

/-- A tag that stands for nothing is where its problem begins. -/
theorem begins_of_expand_segment {t : Tag} (complete : t.Complete) (after : List Char)
    (h : (t.segment line).expand values = .error f) :
    f.line = line ∧ Begins values f.problem (t.text ++ after) := by
  cases t with
  | comment body => cases h
  | expression body =>
    change substitute values line body = .error f at h
    rw [substitute] at h
    by_cases hpath : isTemplatePath (Text.trim body) = true
    · rw [hpath] at h
      cases hv : values.lookup? (Text.trim body) with
      | some v =>
        rw [hv] at h
        cases h
      | none =>
        rw [hv] at h
        obtain rfl := Except.error.inj h
        exact ⟨rfl, .undefined complete (isTemplatePath_iff.mp hpath) hv⟩
    · rw [Bool.eq_false_iff.mpr hpath] at h
      obtain rfl := Except.error.inj h
      exact ⟨rfl, .unsupported complete (hpath ∘ isTemplatePath_iff.mpr)⟩

/-- What a template is refused for is found in it. -/
theorem foundAt_of_outcome (hp : Untagged pending source)
    (h : outcome values line pending source = .error f) :
    ∃ front rest, pending ++ source = front ++ rest ∧ f.line = line + lineFeeds front ∧
      FoundAt values line front rest f.problem := by
  have hrenders {x : List Char} {l : Nat} {s : List Char} (hx : Untagged x s)
      (hliteral : (literalSegment l x).expand values = .ok x) :
      ∃ out, outcome values l [] x = .ok out :=
    ⟨x, by rw [outcome_of_untagged (Untagged.of_append (y := []) hx), hliteral]⟩
  induction source using source_induction generalizing line pending with
  | nil =>
    rw [outcome_nil] at h
    exact foundAt_of_literal hp h
  | statement more =>
    rcases outcome_statement_error_cases h with hliteral | ⟨hliteral, rfl⟩
    · exact foundAt_of_literal hp hliteral
    · exact ⟨pending, _, rfl, rfl, .first (.statement more) (hrenders hp hliteral)⟩
  | tag t after complete ih =>
    rcases outcome_tag_error_cases complete h with hliteral | ⟨hliteral, hsegment | htext⟩
    · exact foundAt_of_literal hp hliteral
    · obtain ⟨hline, hbegins⟩ := begins_of_expand_segment complete after hsegment
      exact ⟨pending, _, rfl, hline, .first hbegins (hrenders hp hliteral)⟩
    · obtain ⟨text, stands, hafter⟩ := htext
      obtain ⟨clean, -⟩ := expand_literalSegment_iff.mp hliteral
      have hnil : Untagged [] after := trivial
      obtain ⟨front, rest, rfl, hline, hfound⟩ := ih hnil hafter
      refine ⟨pending ++ t.text ++ front, rest, by simp, ?_,
        hfound.behind_tag hp clean complete stands⟩
      rw [hline, lineFeeds_append (pending ++ t.text), Nat.add_assoc]
  | literal c more plain ih =>
    rw [outcome_literal plain] at h
    have huntagged : Untagged (pending ++ [c]) more := untagged_append.mpr ⟨hp, plain, trivial⟩
    obtain ⟨front, rest, heq, hfound⟩ := ih huntagged h
    exact ⟨front, rest, by rw [← heq, List.append_assoc]; rfl, hfound⟩

/-- Where the problem is that a template is refused for. The line is that of the place where it
begins, and what is in front of it renders, so that it is the first problem; or else it is an
expression that nothing closes, and what is in front of it is refused for a comment, which is opened
behind text that renders and which nothing closes either. -/
theorem render_error_located {identifier source : String} {values : Json} {e : Error}
    (h : render identifier source values = .error e) :
    ∃ front rest problem, source.toList = front ++ rest ∧ Begins values problem rest ∧
      e = .template identifier (Flaw.message ⟨lineFeeds front + 1, problem⟩) ∧
      ((∃ out, render identifier (String.ofList front) values = .ok out) ∨
        problem = .unterminated .expression ∧ ∃ read gap, front = read ++ gap ∧
          Begins values (.unterminated .comment) (gap ++ rest) ∧
          (∃ out, render identifier (String.ofList read) values = .ok out) ∧
          render identifier (String.ofList front) values =
            .error (.template identifier
              (Flaw.message ⟨lineFeeds read + 1, .unterminated .comment⟩))) := by
  have hok {text : List Char} (hout : ∃ out, outcome values 1 [] text = .ok out) :
      ∃ out, render identifier (String.ofList text) values = .ok out := by
    obtain ⟨out, hout⟩ := hout
    exact ⟨String.ofList out, by rw [render_eq_outcome, String.toList_ofList, hout]⟩
  rw [render_eq_outcome] at h
  cases hflaw : outcome values 1 [] source.toList with
  | ok text =>
    rw [hflaw] at h
    cases h
  | error f =>
    rw [hflaw] at h
    obtain rfl := Except.error.inj h
    have hnil : Untagged [] source.toList := trivial
    obtain ⟨front, rest, heq, hline, hfound⟩ := foundAt_of_outcome hnil hflaw
    obtain ⟨line, problem⟩ := f
    obtain rfl : line = lineFeeds front + 1 := hline.trans (Nat.add_comm ..)
    refine ⟨front, rest, problem, heq, ?_, rfl, ?_⟩
    · cases hfound with
      | first begins _ => exact begins
      | behindComment begins _ _ _ _ => exact begins
    · cases hfound with
      | first _ renders => exact .inl (hok renders)
      | @behindComment read gap _ split comment renders refused =>
        refine .inr ⟨rfl, read, gap, split, comment, hok renders, ?_⟩
        rw [render_eq_outcome, String.toList_ofList, refused, Nat.add_comm]

/-- An expression in the third line, behind a comment over two lines. -/
theorem render_error_third_line :
    ∃ e, render "t" "\x7b#\n\n#\x7d\x7b\x7b a b \x7d\x7d" (.object []) = .error e ∧
      ∃ front rest problem, "\x7b#\n\n#\x7d\x7b\x7b a b \x7d\x7d".toList = front ++ rest ∧
        Begins (.object []) problem rest ∧
        e = .template "t" (Flaw.message ⟨lineFeeds front + 1, problem⟩) ∧
        ((∃ out, render "t" (String.ofList front) (.object []) = .ok out) ∨
          problem = .unterminated .expression ∧ ∃ read gap, front = read ++ gap ∧
            Begins (.object []) (.unterminated .comment) (gap ++ rest) ∧
            (∃ out, render "t" (String.ofList read) (.object []) = .ok out) ∧
            render "t" (String.ofList front) (.object []) =
              .error (.template "t" (Flaw.message ⟨lineFeeds read + 1, .unterminated .comment⟩))) := by
  have hcomment : (Tag.comment ['\n', '\n']).Complete := by decide
  have hexpression : (Tag.expression [' ', 'a', ' ', 'b', ' ']).Complete := by decide
  have hsource : "\x7b#\n\n#\x7d\x7b\x7b a b \x7d\x7d".toList =
      (Tag.comment ['\n', '\n']).text ++ ((Tag.expression [' ', 'a', ' ', 'b', ' ']).text ++ []) := by
    decide
  have h : render "t" "\x7b#\n\n#\x7d\x7b\x7b a b \x7d\x7d" (.object []) =
      .error (.template "t" (Flaw.message ⟨3, .unsupported ['a', ' ', 'b']⟩)) := by
    rw [render_eq_outcome, hsource, outcome_tag hcomment, outcome_tag hexpression]
    rfl
  exact ⟨_, h, render_error_located h⟩

/-- The problem that is reported need not be the first one: of a comment and of two braces in the
line below, neither of which is closed, the braces are reported. -/
theorem render_error_behind_comment :
    render "t" "\x7b#\n\x7b\x7b" (.object []) =
        .error (.template "t" (Flaw.message ⟨2, .unterminated .expression⟩)) ∧
      ¬ ∃ front rest problem, "\x7b#\n\x7b\x7b".toList = front ++ rest ∧
        Begins (.object []) problem rest ∧
        Error.template "t" (Flaw.message ⟨2, .unterminated .expression⟩) =
          .template "t" (Flaw.message ⟨lineFeeds front + 1, problem⟩) ∧
        ∃ out, render "t" (String.ofList front) (.object []) = .ok out := by
  have huntagged : Untagged ['{', '#', '\n', '{', '{'] [] := by
    refine ⟨?_, ?_, ?_, ?_, ?_, trivial⟩
    · exact fun ht ↦ absurd (tagged_comment_iff.mp ht) (by decide)
    · exact fun ht ↦ absurd ht.opens (by rintro ⟨_, _, heq, _⟩; cases heq)
    · exact fun ht ↦ absurd ht.opens (by rintro ⟨_, _, heq, _⟩; cases heq)
    · exact fun ht ↦ absurd (tagged_expression_iff.mp ht) (by decide)
    · exact fun ht ↦ absurd ht.opens (by rintro ⟨_, _, heq, _⟩; cases heq)
  have houtcome : outcome (.object []) 1 [] "\x7b#\n\x7b\x7b".toList =
      .error ⟨2, .unterminated .expression⟩ := outcome_of_untagged huntagged
  refine ⟨by rw [render_eq_outcome, houtcome], ?_⟩
  rintro ⟨front, rest, problem, heq, begins, hmessage, out, hout⟩
  obtain ⟨d, more, rfl, hd⟩ := begins.eq_cons
  have hlist : ['{', '#', '\n', '{', '{'] = front ++ '{' :: d :: more := heq
  -- an opening delimiter stands at the beginning and in the second line only
  have hfront : front = [] ∧ d = '#' ∨ front = ['{', '#', '\n'] := by
    rcases front with _ | ⟨a, _ | ⟨b, _ | ⟨c, _ | ⟨e, front⟩⟩⟩⟩
    · obtain rfl := (List.cons.inj (List.cons.inj hlist).2).1
      exact .inl ⟨rfl, rfl⟩
    · cases hlist
    · cases hlist
    · cases hlist
      exact .inr rfl
    · have hlength := congrArg List.length hlist
      simp only [List.length_append, List.length_cons, List.length_nil] at hlength
      omega
  rcases hfront with ⟨rfl, rfl⟩ | rfl
  · have hproblem : problem = .unterminated .comment := by simpa using hd
    rw [hproblem] at hmessage
    have hne : Flaw.message ⟨2, .unterminated .expression⟩ ≠
        Flaw.message ⟨lineFeeds [] + 1, .unterminated .comment⟩ := by decide
    exact hne (Error.template.inj hmessage).2
  · have hfront : outcome (.object []) 1 [] ['{', '#', '\n'] =
        .error ⟨1, .unterminated .comment⟩ :=
      outcome_of_untagged (Untagged.of_append (y := [])
        (untagged_append (x := ['{', '#', '\n']).mp huntagged).1)
    rw [render_eq_outcome, String.toList_ofList, hfront] at hout
    cases hout

end ClusterProbe.Template
