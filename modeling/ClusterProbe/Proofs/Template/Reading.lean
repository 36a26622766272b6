import ClusterProbe.Proofs.Template.Filling

/-!
# Delimiters that dangle

A template can be read from left to right with every opening delimiter taken at its word: what it
opens must be closed, and statements cannot be. Where that reading fails, the template does not
render, with one exception: a brace in front of a comment is a brace.
-/

namespace ClusterProbe.Template

/-- What a reading from left to right has read of a template, and the rest: whole tags, and
characters at which no opening delimiter stands. -/
inductive Reads : (source read rest : List Char) → Prop
  | stop (rest : List Char) : Reads rest [] rest
  | tag {after read rest : List Char} {t : Tag} (complete : t.Complete)
      (more : Reads after read rest) : Reads (t.text ++ after) (t.text ++ read) rest
  | literal {source read rest : List Char} {c : Char} (plain : ¬ Opens (c :: source))
      (more : Reads source read rest) : Reads (c :: source) (c :: read) rest

/-- An opening delimiter stands at the beginning of a text, and nothing closes it. -/
inductive Dangling : List Char → Prop
  | expression {rest : List Char} (unclosed : ¬ ['}', '}'] <:+: rest) :
      Dangling ('{' :: '{' :: rest)
  | comment {rest : List Char} (unclosed : ¬ ['#', '}'] <:+: rest) :
      Dangling ('{' :: '#' :: rest)
  | statement (rest : List Char) : Dangling ('{' :: '%' :: rest)

/-- A reading takes nothing away. -/
theorem Reads.eq_append {source read rest : List Char} (h : Reads source read rest) :
    source = read ++ rest := by
  induction h with
  | stop rest => rfl
  | tag _ _ ih => rw [ih, List.append_assoc]
  | literal _ _ ih => rw [ih, List.cons_append]

theorem Dangling.head?_eq {rest : List Char} (h : Dangling rest) : rest.head? = some '{' := by
  cases h <;> rfl

variable {values : Json} {pending source read rest out : List Char}

/-- A template is filled in two parts, what was read of it and the rest, if the rest begins with a
brace. No tag begins before the rest and ends behind its beginning, and no literal text before the
rest ends in a brace. -/
theorem Reads.fills_iff (h : Reads source read rest) (hrest : rest.head? = some '{')
    (hp : read = [] → pending.getLast? ≠ some '{') :
    Fills values pending source out ↔
      ∃ x y, Fills values pending read x ∧ Fills values [] rest y ∧ out = x ++ y := by
  induction h generalizing pending out with
  | stop rest =>
    rw [← List.append_nil pending, fills_append_iff (hp rfl), List.append_nil]
    simp only [fills_nil_iff]
    constructor
    · rintro ⟨clean, y, hy, rfl⟩
      exact ⟨pending, y, ⟨clean, rfl⟩, hy, rfl⟩
    · rintro ⟨x, y, ⟨clean, rfl⟩, hy, rfl⟩
      exact ⟨clean, y, hy, rfl⟩
  | @tag after read rest t complete more ih =>
    have hafter {z : List Char} :
        Fills values [] after z ↔
          ∃ x y, Fills values [] read x ∧ Fills values [] rest y ∧ z = x ++ y :=
      ih hrest (by simp)
    simp only [fills_tag_iff complete, hafter]
    constructor
    · rintro ⟨clean, text, _, stands, ⟨x, y, hx, hy, rfl⟩, rfl⟩
      exact ⟨_, y, ⟨clean, text, x, stands, hx, rfl⟩, hy, by simp⟩
    · rintro ⟨_, y, ⟨clean, text, x, stands, hx, rfl⟩, hy, rfl⟩
      exact ⟨clean, text, _, stands, ⟨x, y, hx, hy, rfl⟩, by simp⟩
  | @literal source read rest c plain more ih =>
    have hread : ¬ Opens (c :: read) := by
      rintro ⟨d, r, heq, hd⟩
      obtain ⟨rfl, rfl⟩ := List.cons.inj heq
      exact plain ⟨d, r ++ rest, by rw [more.eq_append, List.cons_append], hd⟩
    rw [fills_literal_iff fun ht ↦ plain ht.opens]
    simp only [fills_literal_iff fun ht ↦ hread ht.opens]
    refine ih hrest fun hnil ↦ ?_
    rw [List.getLast?_concat]
    intro hc
    obtain rfl := Option.some.inj hc
    obtain ⟨r, rfl⟩ : ∃ r, rest = '{' :: r := List.head?_eq_some_iff.mp hrest
    exact plain ⟨'{', r, by rw [more.eq_append, hnil, List.nil_append], .inl rfl⟩

/-- A template that begins with a dangling delimiter is filled in one case only: a brace stands in
front of a comment. -/
theorem Dangling.fills_iff (h : Dangling rest) :
    Fills values [] rest out ↔
      ∃ body after more, rest = '{' :: ((Tag.comment body).text ++ after) ∧
        (Tag.comment body).Complete ∧ Fills values [] after more ∧ out = '{' :: more := by
  cases h with
  | statement rest =>
    refine iff_of_false not_fills_statement ?_
    rintro ⟨_, _, _, heq, _⟩
    cases heq
  | @comment rest unclosed =>
    refine iff_of_false ?_ ?_
    · rw [fills_literal_iff fun ht ↦ unclosed (tagged_comment_iff.mp ht),
        fills_literal_iff fun ht ↦ ?_]
      · intro hf
        exact hf.clean.2 (by simp)
      · obtain ⟨_, _, heq, _⟩ := ht.opens
        cases heq
    · rintro ⟨_, _, _, heq, _⟩
      cases heq
  | @expression rest unclosed =>
    rw [fills_literal_iff fun ht ↦ unclosed (tagged_expression_iff.mp ht), List.nil_append]
    by_cases ht : Tagged ('{' :: rest)
    · generalize hs : '{' :: rest = s at ht
      cases ht with
      | statement r =>
        refine iff_of_false not_fills_statement ?_
        rintro ⟨_, _, _, heq, _⟩
        cases (List.cons.inj heq).2
      | @tag t complete after =>
        cases t with
        | expression body =>
          rw [Tag.text_expression_append] at hs
          obtain rfl := (List.cons.inj hs).2
          exact absurd ⟨'{' :: body, after, by simp⟩ unclosed
        | comment body =>
          have hclean : Clean ['{'] := by simp [Clean, pair_infix_cons]
          rw [fills_tag_iff complete]
          constructor
          · rintro ⟨-, _, more, ⟨⟩, hf, rfl⟩
            exact ⟨body, after, more, rfl, complete, hf, rfl⟩
          · rintro ⟨body', after', more, heq, complete', hf, rfl⟩
            obtain ⟨-, rfl⟩ := Tag.text_append_inj complete complete' (List.cons.inj heq).2
            exact ⟨hclean, [], more, .comment body, hf, rfl⟩
    · rw [fills_literal_iff ht]
      refine iff_of_false (fun hf ↦ hf.clean.1 (by simp)) ?_
      rintro ⟨body, after, _, heq, complete, _⟩
      rw [(List.cons.inj heq).2] at ht
      exact ht (.tag complete after)

/-- What a template renders to whose reading ends at a dangling delimiter: a brace stands in front
of a comment, what was read renders, and so does what is behind the comment. -/
def SlipsThrough (identifier : String) (values : Json) (read rest : List Char) (out : String) :
    Prop :=
  ∃ body after x y, rest = '{' :: ((Tag.comment body).text ++ after) ∧
    ¬ ['#', '}'] <:+: body ∧ render identifier (String.ofList read) values = .ok x ∧
    render identifier (String.ofList after) values = .ok y ∧ out = x ++ "\x7b" ++ y

/-- A template whose reading from left to right ends at a dangling delimiter is refused, unless a
brace in front of a comment is all that dangles and everything around the two renders. -/
theorem render_of_dangling (identifier : String) (values : Json) {source : String}
    {read rest : List Char} (h : Reads source.toList read rest) (hd : Dangling rest) :
    ((∃ message, render identifier source values = .error (.template identifier message)) ↔
        ∀ out, ¬ SlipsThrough identifier values read rest out) ∧
      ∀ out, render identifier source values = .ok out ↔
        SlipsThrough identifier values read rest out := by
  have hok : ∀ out, render identifier source values = .ok out ↔
      SlipsThrough identifier values read rest out := by
    intro out
    rw [render_eq_ok_iff, h.fills_iff hd.head?_eq fun _ ↦ by simp]
    simp only [hd.fills_iff, SlipsThrough, render_eq_ok_iff, String.toList_ofList]
    constructor
    · rintro ⟨x, _, hx, ⟨body, after, y, rfl, complete, hy, rfl⟩, hout⟩
      refine ⟨body, after, String.ofList x, String.ofList y, rfl, complete, ?_, ?_, ?_⟩
      · rwa [String.toList_ofList]
      · rwa [String.toList_ofList]
      · rw [← String.toList_inj, hout]
        simp
    · rintro ⟨body, after, x, y, rfl, complete, hx, hy, rfl⟩
      exact ⟨x.toList, _, hx, ⟨body, after, y.toList, rfl, complete, hy, rfl⟩, by simp⟩
  refine ⟨⟨?_, ?_⟩, hok⟩
  · rintro ⟨message, herror⟩ out hslip
    rw [(hok out).mpr hslip] at herror
    cases herror
  · intro hnone
    rw [render] at hok ⊢
    cases hexpand : expand values source.toList with
    | ok text =>
      rw [hexpand] at hok
      exact absurd ((hok _).mp rfl) (hnone _)
    | error f => exact ⟨f.message, rfl⟩

/-- An expression that nothing closes is refused, here behind one letter. -/
theorem render_unclosed_expression :
    Reads "a\x7b\x7b b".toList ['a'] ['{', '{', ' ', 'b'] ∧ Dangling ['{', '{', ' ', 'b'] ∧
      ∃ message, render "t" "a\x7b\x7b b" .null = .error (.template "t" message) := by
  have hreads : Reads "a\x7b\x7b b".toList ['a'] ['{', '{', ' ', 'b'] :=
    .literal (by rintro ⟨_, _, heq, _⟩; cases heq) (.stop _)
  have hdangling : Dangling ['{', '{', ' ', 'b'] := .expression (by decide)
  refine ⟨hreads, hdangling, (render_of_dangling "t" .null hreads hdangling).1.mpr ?_⟩
  rintro _ ⟨_, _, _, _, heq, _⟩
  cases heq

/-- Not every dangling delimiter is refused: a brace in front of a comment renders to a brace. -/
theorem render_brace_comment :
    Reads "\x7b\x7b#c#\x7d".toList [] ['{', '{', '#', 'c', '#', '}'] ∧
      Dangling ['{', '{', '#', 'c', '#', '}'] ∧
      render "t" "\x7b\x7b#c#\x7d" (.object []) = .ok "\x7b" := by
  have hdangling : Dangling ['{', '{', '#', 'c', '#', '}'] := .expression (by decide)
  refine ⟨.stop _, hdangling, render_eq_ok_iff.mpr ?_⟩
  refine hdangling.fills_iff.mpr ⟨['c'], [], [], rfl, ?_, ?_, rfl⟩
  · change ¬ ['#', '}'] <:+: ['c']
    decide
  · exact .done (by simp [Clean])

end ClusterProbe.Template
