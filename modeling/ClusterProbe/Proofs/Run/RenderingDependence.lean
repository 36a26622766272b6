import ClusterProbe.Proofs.Json.Navigation
import ClusterProbe.Proofs.Run.Confinement
import ClusterProbe.Proofs.Template.Outcome

/-!
# What a rendering depends on

A template mentions paths, those of its expressions, and nothing else of the values is ever looked
at: not what stands in a comment, and not what looks like a tag in a text that was filled in. Main
statement: where the paths that a template mentions lead to the same in two sets of values, the
rendering is the same, its error and the files that it leaves included. So it is where the values
are alike but for one entry, which no path that is mentioned leads to or past.
-/

namespace ClusterProbe

namespace Json

/-- Two documents are alike but for what is at an address: the entry or item there may be another
one, or be in one of the two documents only. -/
inductive AlikeBut : List Step → Json → Json → Prop
  | entry {es fs : List (String × Json)} {k : String}
      (others : ∀ l, l ≠ k → find? l es = find? l fs) :
      AlikeBut [.key k] (.object es) (.object fs)
  | item {xs ys : List Json} {i : Nat} (others : ∀ j, j ≠ i → xs[j]? = ys[j]?) :
      AlikeBut [.index i] (.array xs) (.array ys)
  | inEntry {es fs : List (String × Json)} {k : String} {v w : Json} {steps : List Step}
      (others : ∀ l, l ≠ k → find? l es = find? l fs) (left : find? k es = some v)
      (right : find? k fs = some w) (rest : AlikeBut steps v w) :
      AlikeBut (.key k :: steps) (.object es) (.object fs)
  | inItem {xs ys : List Json} {i : Nat} {v w : Json} {steps : List Step}
      (others : ∀ j, j ≠ i → xs[j]? = ys[j]?) (left : xs[i]? = some v) (right : ys[i]? = some w)
      (rest : AlikeBut steps v w) : AlikeBut (.index i :: steps) (.array xs) (.array ys)

/-- A path takes another way than an address: one of its segments does not name the step there. -/
inductive Misses : List (List Char) → List Step → Prop
  | here {segment : List Char} {s : Step} {segments : List (List Char)} {steps : List Step}
      (other : ¬ Names segment s) : Misses (segment :: segments) (s :: steps)
  | later {segment : List Char} {s : Step} {segments : List (List Char)} {steps : List Step}
      (rest : Misses segments steps) : Misses (segment :: segments) (s :: steps)

variable {v w : Json} {segments : List (List Char)} {steps : List Step}

/-- Where entries are alike but for one key, a segment that does not name the key leads to the same
value in both. -/
theorem child?_object_congr {es fs : List (String × Json)} {k : String} {segment : List Char}
    (others : ∀ l, l ≠ k → find? l es = find? l fs) (h : ¬ Names segment (.key k)) :
    (object es).child? segment = (object fs).child? segment := by
  refine others _ ?_
  rintro rfl
  have hnames := Names.key (String.ofList segment)
  rw [String.toList_ofList] at hnames
  exact h hnames

/-- Where items are alike but for one index, a segment that does not name the index leads to the
same value in both. -/
theorem child?_array_congr {xs ys : List Json} {i : Nat} {segment : List Char}
    (others : ∀ j, j ≠ i → xs[j]? = ys[j]?) (h : ¬ Names segment (.index i)) :
    (array xs).child? segment = (array ys).child? segment := by
  rw [child?, child?]
  cases hindex : decimalIndex? segment with
  | none => rfl
  | some j =>
    refine others j ?_
    rintro rfl
    exact h (.index (decimalIndex?_eq_some_iff.mp hindex))

/-- Paths that take another way than an address lead to the same value in documents that are alike
but for what is at the address. -/
theorem AlikeBut.follow?_eq (h : AlikeBut steps v w) (hm : Misses segments steps) :
    v.follow? segments = w.follow? segments := by
  induction h generalizing segments with
  | entry others =>
    cases hm with
    | here other => rw [follow?_cons, follow?_cons, child?_object_congr others other]
    | later rest => cases rest
  | item others =>
    cases hm with
    | here other => rw [follow?_cons, follow?_cons, child?_array_congr others other]
    | later rest => cases rest
  | @inEntry es fs k _ _ _ others left right _ ih =>
    cases hm with
    | here other => rw [follow?_cons, follow?_cons, child?_object_congr others other]
    | @later segment _ _ _ rest =>
      by_cases hname : Names segment (.key k)
      · cases hname
        rw [follow?_cons, follow?_cons, child?, child?, String.ofList_toList, left, right]
        exact ih rest
      · rw [follow?_cons, follow?_cons, child?_object_congr others hname]
  | @inItem xs ys i _ _ _ others left right _ ih =>
    cases hm with
    | here other => rw [follow?_cons, follow?_cons, child?_array_congr others other]
    | @later segment _ _ _ rest =>
      by_cases hname : Names segment (.index i)
      · cases hname with
        | index numeral =>
          rw [follow?_cons, follow?_cons, child?, child?, decimalIndex?_eq_some_iff.mpr numeral]
          change (xs[i]?.bind _) = (ys[i]?.bind _)
          rw [left, right]
          exact ih rest
      · rw [follow?_cons, follow?_cons, child?_array_congr others hname]

end Json

namespace Template

/-- The paths that a template mentions: the trimmed texts of its expressions, as they are found from
left to right. -/
inductive Mentions : (source path : List Char) → Prop
  | here {body after : List Char} (complete : (Tag.expression body).Complete) :
      Mentions ((Tag.expression body).text ++ after) (Text.trim body)
  | behind_tag {t : Tag} {after path : List Char} (complete : t.Complete)
      (rest : Mentions after path) : Mentions (t.text ++ after) path
  | behind_literal {c : Char} {source path : List Char} (plain : ¬ Tagged (c :: source))
      (rest : Mentions source path) : Mentions (c :: source) path

variable {V W : Json}

/-- An empty template mentions nothing. -/
theorem not_mentions_nil {path : List Char} : ¬ Mentions [] path := by
  generalize hs : ([] : List Char) = s
  intro h
  cases h with
  | here _ => cases hs
  | @behind_tag t _ _ _ _ => cases t <;> cases hs
  | behind_literal _ _ => cases hs

/-- A template that begins with a tag mentions the text of the tag, if that is an expression, and
what is mentioned behind the tag. -/
theorem mentions_tag_iff {t : Tag} {after path : List Char} (ht : t.Complete) :
    Mentions (t.text ++ after) path ↔
      t = .expression t.body ∧ path = Text.trim t.body ∨ Mentions after path := by
  constructor
  · generalize hs : t.text ++ after = s
    intro h
    cases h with
    | here complete =>
      obtain ⟨rfl, -⟩ := Tag.text_append_inj ht complete hs
      exact .inl ⟨rfl, rfl⟩
    | behind_tag complete rest =>
      obtain ⟨-, rfl⟩ := Tag.text_append_inj ht complete hs
      exact .inr rest
    | behind_literal plain _ =>
      rw [← hs] at plain
      exact absurd (.tag ht after) plain
  · rintro (⟨heq, rfl⟩ | hafter)
    · rw [heq] at ht ⊢
      exact .here ht
    · exact .behind_tag ht hafter

/-- Literal text does not depend on values. -/
theorem expand_literalSegment_congr (V W : Json) (line : Nat) (text : List Char) :
    (literalSegment line text).expand V = (literalSegment line text).expand W := by
  rw [literalSegment]
  cases before? '{' '{' text with
  | some front => rfl
  | none => cases before? '{' '#' text <;> rfl

/-- A tag depends on the value that its text leads to, if it is an expression, and on no other. -/
theorem expand_segment_congr {t : Tag} {line : Nat}
    (h : ∀ body, t = .expression body →
      V.lookup? (Text.trim body) = W.lookup? (Text.trim body)) :
    (t.segment line).expand V = (t.segment line).expand W := by
  cases t with
  | comment body => rfl
  | expression body =>
    change substitute V line body = substitute W line body
    rw [substitute, substitute, h body rfl]

/-- What a template comes to depends on what the paths lead to that it mentions. -/
theorem outcome_congr {source : List Char} (line : Nat) (pending : List Char)
    (h : ∀ path, Mentions source path → V.lookup? path = W.lookup? path) :
    outcome V line pending source = outcome W line pending source := by
  induction source using source_induction generalizing line pending with
  | nil => rw [outcome_nil, outcome_nil, expand_literalSegment_congr V W]
  | statement rest =>
    rw [outcome_statement, outcome_statement, expand_literalSegment_congr V W]
  | tag t after complete ih =>
    have htag : ∀ body, t = .expression body →
        V.lookup? (Text.trim body) = W.lookup? (Text.trim body) := by
      rintro body rfl
      exact h _ (.here complete)
    have hafter := fun path hpath ↦ h path (.behind_tag complete hpath)
    rw [outcome_tag complete, outcome_tag complete, expand_literalSegment_congr V W,
      expand_segment_congr htag, ih _ _ hafter]
  | literal c rest plain ih =>
    rw [outcome_literal plain, outcome_literal plain]
    exact ih _ _ fun path hpath ↦ h path (.behind_literal plain hpath)

/-- A template renders to the same, be it a text or an error, with values in which the paths that it
mentions lead to the same. -/
theorem render_congr (identifier source : String)
    (h : ∀ path, Mentions source.toList path → V.lookup? path = W.lookup? path) :
    render identifier source V = render identifier source W := by
  rw [render_eq_outcome, render_eq_outcome, outcome_congr 1 [] h]

end Template

namespace Renderer

open Json (AlikeBut Misses)
open Template (Mentions)

variable {V W : Values} {identifier : String} {w : World}

/-- Renderers of one directory do the same in a world if the template in it renders to the same. -/
theorem rehearse_render_congr (colours : Bool) (home : HomeDir)
    (h : ∀ source, w.files.readText (home.templateFile identifier) = .ok source →
      Template.render identifier source V.toJson = Template.render identifier source W.toJson) :
    ((⟨home, V⟩ : Renderer).render (Rehearsal.machine colours) identifier).rehearse w =
      ((⟨home, W⟩ : Renderer).render (Rehearsal.machine colours) identifier).rehearse w := by
  have htext : (⟨home, V⟩ : Renderer).textIn w.files identifier =
      (⟨home, W⟩ : Renderer).textIn w.files identifier := by
    unfold textIn
    cases hread : w.files.readText (home.templateFile identifier) with
    | ok source => exact h source hread
    | error e => rfl
  rw [rehearse_render, rehearse_render, htext]

/-- What a rendering depends on. Where every path that a template mentions leads to the same value in
two documents, or to none in either, the template renders to the same text or fails with the same
error. In a suite, the manifest is the same then, and all else that a rendering does; and so it is
where the values are alike but for one entry, be it added, removed or changed, which is not on the
way of any path that is mentioned. -/
theorem render_depends_on_mentioned (identifier : String) :
    (∀ source (V W : Json),
      (∀ path, Mentions source.toList path → V.lookup? path = W.lookup? path) →
        Template.render identifier source V = Template.render identifier source W) ∧
    ∀ colours home (V W : Values) (w : World) source,
      w.files.readText (home.templateFile identifier) = .ok source →
      ((∀ path, Mentions source.toList path → V.toJson.lookup? path = W.toJson.lookup? path) ∨
        ∃ steps, AlikeBut steps V.toJson W.toJson ∧
          ∀ path, Mentions source.toList path → Misses (Text.pieces '.' path) steps) →
        ((⟨home, V⟩ : Renderer).render (Rehearsal.machine colours) identifier).rehearse w =
          ((⟨home, W⟩ : Renderer).render (Rehearsal.machine colours) identifier).rehearse w := by
  refine ⟨fun source V W h ↦ Template.render_congr identifier source h,
    fun colours home V W w source hread h ↦ ?_⟩
  have hagree : ∀ path, Mentions source.toList path →
      V.toJson.lookup? path = W.toJson.lookup? path := by
    rcases h with h | ⟨steps, halike, hmisses⟩
    · exact h
    · exact fun path hpath ↦ halike.follow?_eq (hmisses path hpath)
  refine rehearse_render_congr colours home fun other hother ↦ ?_
  obtain rfl := Except.ok.inj (hread.symm.trans hother)
  exact Template.render_congr identifier source hagree

/-- A suite with a template that mentions one path. -/
def mentioningWorld : World :=
  ⟨suiteFiles "a: 1".toUTF8 "\x7b\x7b a \x7d\x7d".toUTF8, .smooth, #[]⟩

/-- An entry that the template does not mention is removed. -/
theorem render_without_other_entry :
    (∀ path, Mentions "\x7b\x7b a \x7d\x7d".toList path →
        (Json.object [("a", .null), ("b", .null)]).lookup? path =
          (Json.object [("a", .null)]).lookup? path) ∧
      Template.render "service" "\x7b\x7b a \x7d\x7d" (.object [("a", .null), ("b", .null)]) =
        Template.render "service" "\x7b\x7b a \x7d\x7d" (.object [("a", .null)]) ∧
      AlikeBut [.key "b"] (.object [("a", .null), ("b", .null)]) (.object [("a", .null)]) ∧
      ((⟨⟨⟨"suite"⟩⟩, ⟨[("a", .null), ("b", .null)]⟩⟩ : Renderer).render (Rehearsal.machine false)
          "service").rehearse mentioningWorld =
        ((⟨⟨⟨"suite"⟩⟩, ⟨[("a", .null)]⟩⟩ : Renderer).render (Rehearsal.machine false)
          "service").rehearse mentioningWorld := by
  have hpath {path : List Char} (h : Mentions "\x7b\x7b a \x7d\x7d".toList path) : path = ['a'] := by
    have complete : (Template.Tag.expression [' ', 'a', ' ']).Complete := by decide
    have hsource : "\x7b\x7b a \x7d\x7d".toList =
        (Template.Tag.expression [' ', 'a', ' ']).text ++ [] := by decide
    rw [hsource, Template.mentions_tag_iff complete] at h
    rcases h with ⟨-, rfl⟩ | hnil
    · decide
    · exact absurd hnil Template.not_mentions_nil
  have hagree : ∀ path, Mentions "\x7b\x7b a \x7d\x7d".toList path →
      (Json.object [("a", .null), ("b", .null)]).lookup? path =
        (Json.object [("a", .null)]).lookup? path := by
    intro path h
    rw [hpath h]
    rfl
  have hmisses : ∀ path, Mentions "\x7b\x7b a \x7d\x7d".toList path →
      Misses (Text.pieces '.' path) [.key "b"] := by
    intro path h
    rw [hpath h]
    refine .here ?_
    generalize hs : ['a'] = segment
    rintro ⟨⟩
    exact absurd hs (by decide)
  have halike : AlikeBut [.key "b"] (.object [("a", .null), ("b", .null)])
      (.object [("a", .null)]) := by
    refine .entry fun l hl ↦ ?_
    simp [Json.find?, hl.symm]
  have hread : mentioningWorld.files.readText ((⟨⟨"suite"⟩⟩ : HomeDir).templateFile "service") =
      .ok "\x7b\x7b a \x7d\x7d" := by
    have hlocate : mentioningWorld.files.locate ((⟨⟨"suite"⟩⟩ : HomeDir).templateFile "service") =
        .ok ["suite", "templates", "service.yaml.j2"] :=
      FileSystem.locate_of_names ["suite", "templates", "service.yaml.j2"] rfl (by decide +kernel)
        (by decide +kernel) rfl
    exact FileSystem.readText_eq_ok_iff.mpr ⟨_, false, hlocate, by decide +kernel, rfl⟩
  have hdepends := render_depends_on_mentioned "service"
  exact ⟨hagree, hdepends.1 _ _ _ hagree, halike,
    hdepends.2 false _ _ _ _ _ hread (.inr ⟨_, halike, hmisses⟩)⟩

end Renderer

end ClusterProbe
