import ClusterProbe.Proofs.Template.Filling

/-!
# The grammar of templates

A template that renders is literal text and tags in turn, and it renders to the literal text with
each tag replaced by what it stands for. In the other direction, all literal text and tags in turn
render so if no literal text holds an opening delimiter or runs into the tag behind it.
-/

namespace ClusterProbe.Template

/-- No opening delimiter stands in a literal text. -/
def Plain (text : List Char) : Prop := Clean text ∧ ¬ ['{', '%'] <:+: text

/-- A tag, what it stands for, and the literal text behind it. -/
structure Part where
  tag : Tag
  text : List Char
  literal : List Char

/-- A literal text and parts as they are written. -/
def written (first : List Char) (parts : List Part) : List Char :=
  first ++ parts.flatMap fun p ↦ p.tag.text ++ p.literal

/-- A literal text and parts as they are filled. -/
def filled (first : List Char) (parts : List Part) : List Char :=
  first ++ parts.flatMap fun p ↦ p.text ++ p.literal

theorem written_nil (first : List Char) : written first [] = first := List.append_nil first

theorem filled_nil (first : List Char) : filled first [] = first := List.append_nil first

theorem written_cons (first : List Char) (p : Part) (parts : List Part) :
    written first (p :: parts) = first ++ (p.tag.text ++ written p.literal parts) := by
  rw [written, written, List.flatMap_cons, List.append_assoc p.tag.text]

theorem filled_cons (first : List Char) (p : Part) (parts : List Part) :
    filled first (p :: parts) = first ++ p.text ++ filled p.literal parts := by
  rw [filled, filled, List.flatMap_cons, List.append_assoc first, List.append_assoc p.text]

variable {values : Json}

/-- A template that is filled is literal text and tags in turn. The literal text in front of it must
not run into a statement. -/
theorem Fills.exists_parts {pending source out : List Char} (h : Fills values pending source out)
    (hp : ¬ ['{', '%'] <:+: pending)
    (hs : ¬ (pending.getLast? = some '{' ∧ source.head? = some '%')) :
    ∃ first parts, pending ++ source = written first parts ∧ out = filled first parts ∧
      Plain first ∧
      ∀ p ∈ parts, p.tag.Complete ∧ p.tag.Stands values p.text ∧ Plain p.literal := by
  induction h with
  | @done pending clean =>
    refine ⟨pending, [], ?_, (filled_nil pending).symm, ⟨clean, hp⟩, by simp⟩
    rw [written_nil, List.append_nil]
  | @tag pending after text out t clean complete stands _ ih =>
    obtain ⟨first, parts, hafter, hout, hfirst, hparts⟩ := ih (by simp) (by simp)
    rw [List.nil_append] at hafter
    refine ⟨pending, ⟨t, text, first⟩ :: parts, ?_, ?_, ⟨clean, hp⟩, ?_⟩
    · rw [written_cons, hafter]
    · rw [filled_cons, hout]
    · exact List.forall_mem_cons.mpr ⟨⟨complete, stands, hfirst⟩, hparts⟩
  | @literal pending source out c plain _ ih =>
    rw [List.append_cons]
    refine ih ?_ ?_
    · rw [pair_infix_append, not_or, not_or]
      exact ⟨hp, by simp [pair_infix_cons], hs⟩
    · rintro ⟨hlast, hhead⟩
      rw [List.getLast?_concat] at hlast
      obtain rfl := Option.some.inj hlast
      cases source with
      | nil => cases hhead
      | cons d r =>
        obtain rfl := Option.some.inj hhead
        exact plain (.statement r)

theorem Plain.of_cons {c : Char} {text : List Char} (h : Plain (c :: text)) : Plain text := by
  have hsuffix := (List.suffix_cons c text).isInfix
  exact ⟨⟨fun hi ↦ h.1.1 (hi.trans hsuffix), fun hi ↦ h.1.2 (hi.trans hsuffix)⟩,
    fun hi ↦ h.2 (hi.trans hsuffix)⟩

/-- No opening delimiter begins in a plain text that does not run into what is behind it. -/
theorem Plain.not_opens {c : Char} {text rest : List Char} (h : Plain (c :: text))
    (hs : (c :: text).getLast? = some '{' → rest = []) : ¬ Opens (c :: (text ++ rest)) := by
  rintro ⟨d, r, heq, hd⟩
  obtain ⟨rfl, htail⟩ := List.cons.inj heq
  cases text with
  | nil =>
    obtain rfl := hs rfl
    cases htail
  | cons e text =>
    obtain rfl : e = d := (List.cons.inj htail).1
    rcases hd with rfl | rfl | rfl
    · exact h.1.1 (pair_infix_cons.mpr (.inl ⟨rfl, rfl⟩))
    · exact h.1.2 (pair_infix_cons.mpr (.inl ⟨rfl, rfl⟩))
    · exact h.2 (pair_infix_cons.mpr (.inl ⟨rfl, rfl⟩))

/-- A plain text in front of a template is literal text if it does not run into the template. -/
theorem Fills.behind_plain {pending text source out : List Char} (h : Plain text)
    (hs : text.getLast? = some '{' → source = []) (hf : Fills values (pending ++ text) source out) :
    Fills values pending (text ++ source) out := by
  induction text generalizing pending with
  | nil =>
    rw [List.append_nil] at hf
    exact hf
  | cons c r ih =>
    rw [List.append_cons] at hf
    refine .literal (fun ht ↦ h.not_opens hs ht.opens) (ih h.of_cons (fun hl ↦ hs ?_) hf)
    rw [List.getLast?_cons, hl]
    rfl

/-- Literal text and tags in turn are filled. -/
theorem fills_written {first : List Char} {parts : List Part} (hfirst : Plain first)
    (hparts : ∀ p ∈ parts, p.tag.Complete ∧ p.tag.Stands values p.text ∧ Plain p.literal)
    (hends : ∀ l ∈ (first :: parts.map (·.literal)).dropLast, l.getLast? ≠ some '{') :
    Fills values [] (written first parts) (filled first parts) := by
  induction parts generalizing first with
  | nil =>
    rw [filled_nil]
    exact .behind_plain hfirst (fun _ ↦ rfl) (.done hfirst.1)
  | cons p parts ih =>
    obtain ⟨⟨complete, stands, hliteral⟩, hrest⟩ := List.forall_mem_cons.mp hparts
    rw [List.map_cons, List.dropLast_cons_cons, List.forall_mem_cons] at hends
    rw [written_cons, filled_cons]
    exact .behind_plain hfirst (fun hl ↦ absurd hl hends.1)
      (.tag hfirst.1 complete stands (ih hliteral hrest hends.2))

/-- A text without an opening delimiter renders to itself. -/
theorem render_of_plain (identifier : String) (values : Json) {source : String}
    (h : Plain source.toList) : render identifier source values = .ok source := by
  have hfills : Fills values [] (written _ []) (filled _ []) := fills_written h (by simp) (by simp)
  rw [written_nil, filled_nil] at hfills
  exact render_eq_ok_iff.mpr hfills

/-- What a template renders to. If it renders, it is literal text and tags in turn: no literal text
holds an opening delimiter, every tag is closed at the first chance and stands for something, and
what comes out is the literal text with each tag replaced by that. In the other direction, literal
text and tags in turn render to just this if no literal text holds an opening delimiter or ends in
a brace in front of a tag, and no comment holds what would close it. -/
theorem render_eq_ok_grammar (identifier : String) (values : Json) :
    (∀ source out, render identifier source values = .ok out →
      ∃ first parts, source.toList = written first parts ∧ out.toList = filled first parts ∧
        Plain first ∧
        ∀ p ∈ parts, p.tag.Complete ∧ p.tag.Stands values p.text ∧ Plain p.literal) ∧
      ∀ first parts, Plain first →
        (∀ p ∈ parts, (∀ body, p.tag = .comment body → ¬ ['#', '}'] <:+: body) ∧
          p.tag.Stands values p.text ∧ Plain p.literal) →
        (∀ l ∈ (first :: parts.map (·.literal)).dropLast, l.getLast? ≠ some '{') →
        render identifier (String.ofList (written first parts)) values =
          .ok (String.ofList (filled first parts)) := by
  constructor
  · intro source out h
    exact (render_eq_ok_iff.mp h).exists_parts (by simp) (by simp)
  · intro first parts hfirst hparts hends
    rw [render_eq_ok_iff, String.toList_ofList, String.toList_ofList]
    refine fills_written hfirst (fun p hp ↦ ?_) hends
    obtain ⟨hcomment, stands, hliteral⟩ := hparts p hp
    exact ⟨stands.complete hcomment, stands, hliteral⟩

/-- Closing delimiters stay in literal text, opening ones are dropped with a comment, and a value
that looks like a tag is not looked at again. -/
theorem render_value_like_tag :
    render "t" "a \x7d\x7d\x7b\x7b x \x7d\x7d\x7b# \x7b\x7b #\x7db"
        (.object [("x", .string "\x7b\x7b y \x7d\x7d")]) =
      .ok "a \x7d\x7d\x7b\x7b y \x7d\x7db" ∧
    ∃ first parts,
      "a \x7d\x7d\x7b\x7b x \x7d\x7d\x7b# \x7b\x7b #\x7db".toList = written first parts ∧
        "a \x7d\x7d\x7b\x7b y \x7d\x7db".toList = filled first parts ∧ Plain first ∧
        ∀ p ∈ parts, p.tag.Complete ∧
          p.tag.Stands (.object [("x", .string "\x7b\x7b y \x7d\x7d")]) p.text ∧
          Plain p.literal := by
  have hgrammar := render_eq_ok_grammar "t" (.object [("x", .string "\x7b\x7b y \x7d\x7d")])
  have hrender := hgrammar.2 ['a', ' ', '}', '}']
    [⟨.expression [' ', 'x', ' '], "\x7b\x7b y \x7d\x7d".toList, []⟩,
      ⟨.comment [' ', '{', '{', ' '], [], ['b']⟩]
    ⟨⟨by decide, by decide⟩, by decide⟩
    (by
      refine List.forall_mem_cons.mpr ⟨⟨?_, ?_, ⟨by decide, by decide⟩, by decide⟩,
        List.forall_mem_singleton.mpr ⟨?_, .comment _, ⟨by decide, by decide⟩, by decide⟩⟩
      · rintro _ ⟨⟩
      · have hpath : DottedPath ['x'] := isTemplatePath_iff.mp (by decide)
        have hblank : ∀ c ∈ [' '], Text.isBlank c = true := List.forall_mem_singleton.mpr rfl
        exact .expression hblank hblank hpath rfl (.string _)
      · rintro _ ⟨⟩
        decide)
    (by decide)
  exact ⟨hrender, hgrammar.1 _ _ hrender⟩

end ClusterProbe.Template
