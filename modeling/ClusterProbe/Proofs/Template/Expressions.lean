import ClusterProbe.Proofs.Template.Tags
import ClusterProbe.Proofs.Text.Cutting

/-!
# What tags stand for

A comment stands for nothing. An expression stands for the text of a value if it is a dotted path,
with blanks around it or without, and the path leads to that value.
-/

namespace ClusterProbe

/-- A dotted path: words of letters, digits, underscores and hyphens with a dot between each two.
The first word begins with a letter or an underscore, and no word is empty. -/
def DottedPath (path : List Char) : Prop :=
  ∃ (c : Char) (word : List Char) (words : List (List Char)),
    path = c :: word ++ words.flatMap ('.' :: ·) ∧ isNameStart c = true ∧
      (∀ d ∈ word, isNameChar d = true) ∧
      ∀ w ∈ words, w ≠ [] ∧ ∀ d ∈ w, isNameChar d = true

private theorem isNameChar_of_isNameStart {c : Char} (h : isNameStart c = true) :
    isNameChar c = true := by
  simp only [isNameStart, isNameChar, Bool.or_eq_true] at h ⊢
  rcases h with h | h
  · exact .inl (.inl (Bool.or_eq_true_iff.mpr (.inl h)))
  · exact .inl (.inr h)

/-- Letters and digits by their code points. -/
theorem toNat_of_isAlphanum {c : Char} (h : c.isAlphanum = true) :
    (65 ≤ c.toNat ∧ c.toNat ≤ 90) ∨ (97 ≤ c.toNat ∧ c.toNat ≤ 122) ∨
      (48 ≤ c.toNat ∧ c.toNat ≤ 57) := by
  rcases Bool.or_eq_true_iff.mp h with halpha | hdigit
  · rcases Bool.or_eq_true_iff.mp halpha with hupper | hlower
    · exact .inl (of_decide_eq_true hupper)
    · obtain ⟨hge, hle⟩ := Bool.and_eq_true_iff.mp hlower
      exact .inr (.inl ⟨of_decide_eq_true hge, of_decide_eq_true hle⟩)
  · exact .inr (.inr (Char.isDigit_iff_toNat.mp hdigit))

private theorem isBlank_of_isNameChar {c : Char} (h : isNameChar c = true) :
    Text.isBlank c = false := by
  simp only [isNameChar, Bool.or_eq_true, decide_eq_true_eq] at h
  rcases h with (h | rfl) | rfl
  · have hn := toNat_of_isAlphanum h
    simp only [Text.isBlank, Bool.or_eq_false_iff, Bool.and_eq_false_iff,
      decide_eq_false_iff_not, beq_eq_false_iff_ne]
    omega
  · decide
  · decide

private theorem notMem_of_isNameChar {word : List Char} (h : ∀ c ∈ word, isNameChar c = true) :
    '.' ∉ word := by
  intro hm
  have := h '.' hm
  revert this
  decide

/-- The paths that a template may name are the dotted paths. -/
theorem isTemplatePath_iff {path : List Char} : isTemplatePath path = true ↔ DottedPath path := by
  constructor
  · intro h
    rw [isTemplatePath] at h
    have hjoin := Text.join_pieces '.' path
    cases hp : Text.pieces '.' path with
    | nil => exact absurd hp (Text.pieces_ne_nil '.' path)
    | cons first rest =>
      rw [hp] at h hjoin
      rw [Text.join_cons] at hjoin
      simp only [Bool.and_eq_true, List.all_eq_true, Bool.not_eq_true',
        List.isEmpty_eq_false_iff] at h
      obtain ⟨⟨hstart, hfirst⟩, hrest⟩ := h
      cases first with
      | nil => cases hstart
      | cons c word =>
        exact ⟨c, word, rest, hjoin.symm, hstart,
          fun d hd ↦ hfirst d (List.mem_cons_of_mem c hd), hrest⟩
  · rintro ⟨c, word, words, rfl, hc, hword, hwords⟩
    have hfirst : ∀ d ∈ c :: word, isNameChar d = true :=
      List.forall_mem_cons.mpr ⟨isNameChar_of_isNameStart hc, hword⟩
    rw [isTemplatePath, Text.pieces_append_flatMap (notMem_of_isNameChar hfirst)
      fun w hw ↦ notMem_of_isNameChar (hwords w hw).2]
    simp only [Bool.and_eq_true, List.all_eq_true, Bool.not_eq_true', List.isEmpty_eq_false_iff]
    exact ⟨⟨hc, hfirst⟩, hwords⟩

/-- A dotted path consists of the characters of its words and of dots. -/
theorem DottedPath.isNameChar_or_eq_dot {path : List Char} (h : DottedPath path) :
    ∀ d ∈ path, isNameChar d = true ∨ d = '.' := by
  obtain ⟨c, word, words, rfl, hc, hword, hwords⟩ := h
  intro d hd
  rw [List.mem_append, List.mem_cons, List.mem_flatMap] at hd
  rcases hd with (rfl | hd) | ⟨w, hw, hd⟩
  · exact .inl (isNameChar_of_isNameStart hc)
  · exact .inl (hword d hd)
  · rcases List.mem_cons.mp hd with rfl | hd
    · exact .inr rfl
    · exact .inl ((hwords w hw).2 d hd)

/-- No blank stands in a dotted path. -/
theorem DottedPath.isBlank_eq_false {path : List Char} (h : DottedPath path) :
    ∀ d ∈ path, Text.isBlank d = false := by
  intro d hd
  rcases h.isNameChar_or_eq_dot d hd with hd | rfl
  · exact isBlank_of_isNameChar hd
  · decide

theorem DottedPath.ne_nil {path : List Char} (h : DottedPath path) : path ≠ [] := by
  obtain ⟨c, word, words, rfl, -⟩ := h
  exact List.cons_ne_nil _ _

namespace Template

/-- The text that stands for a value: nothing for null, the string itself for a string, and the
compact notation for everything else. -/
inductive TextOf : Json → List Char → Prop
  | null : TextOf .null []
  | string (s : String) : TextOf (.string s) s.toList
  | bool (b : Bool) : TextOf (.bool b) (toString b).toList
  | number (n : Number) : TextOf (.number n) (Json.printNumber n)
  | array (items : List Json) : TextOf (.array items) (Json.print (.array items))
  | object (entries : List (String × Json)) :
    TextOf (.object entries) (Json.print (.object entries))

theorem textOf_iff {v : Json} {text : List Char} : TextOf v text ↔ v.plainText.toList = text := by
  constructor
  · intro h
    cases h with
    | null => rfl
    | string s => rfl
    | bool b => cases b <;> rfl
    | number n => exact String.toList_ofList
    | array items => exact String.toList_ofList
    | object entries => exact String.toList_ofList
  · rintro rfl
    cases v with
    | null => exact .null
    | bool b => cases b <;> exact .bool _
    | number n => exact String.toList_ofList ▸ .number n
    | string s => exact .string s
    | array items => exact String.toList_ofList ▸ .array items
    | object entries => exact String.toList_ofList ▸ .object entries

namespace Tag

/-- What a tag stands for. -/
inductive Stands (values : Json) : Tag → List Char → Prop
  | comment (body : List Char) : Stands values (.comment body) []
  | expression {front path back text : List Char} {v : Json}
      (front_blank : ∀ c ∈ front, Text.isBlank c = true)
      (back_blank : ∀ c ∈ back, Text.isBlank c = true)
      (dotted : DottedPath path) (lookup : values.lookup? path = some v)
      (shown : TextOf v text) : Stands values (.expression (front ++ path ++ back)) text

/-- An expression that stands for something holds no closing brace, so that a tag that stands for
something is complete if it is no comment. -/
theorem Stands.complete {values : Json} {t : Tag} {text : List Char} (h : t.Stands values text)
    (hc : ∀ body, t = .comment body → ¬ ['#', '}'] <:+: body) : t.Complete := by
  cases h with
  | comment body => exact hc body rfl
  | @expression front path back _ v hf hb hpath _ _ =>
    have hbrace : '}' ∉ front ++ path ++ back := by
      intro hm
      rw [List.mem_append, List.mem_append] at hm
      rcases hm with (hm | hm) | hm
      · exact absurd (hf _ hm) (by decide)
      · exact absurd (hpath.isNameChar_or_eq_dot _ hm) (by decide)
      · exact absurd (hb _ hm) (by decide)
    rw [Complete, pair_infix_append]
    rintro (hin | hin | ⟨hlast, -⟩)
    · exact hbrace (hin.subset List.mem_cons_self)
    · exact absurd hin (by simp [pair_infix_cons])
    · exact hbrace (List.mem_of_getLast? hlast)

/-- The segment of a tag expands to what the tag stands for. -/
theorem expand_segment_iff {values : Json} {line : Nat} {t : Tag} {text : List Char} :
    (t.segment line).expand values = .ok text ↔ t.Stands values text := by
  cases t with
  | comment body =>
    constructor
    · intro h
      obtain rfl := Except.ok.inj h
      exact .comment body
    · rintro ⟨⟩
      rfl
  | expression body =>
    change substitute values line body = .ok text ↔ _
    constructor
    · intro h
      rw [substitute] at h
      by_cases hp : isTemplatePath (Text.trim body) = true
      · rw [hp] at h
        cases hv : values.lookup? (Text.trim body) with
        | none =>
          rw [hv] at h
          cases h
        | some v =>
          rw [hv] at h
          obtain ⟨front, back, hbody, hf, hb⟩ := Text.exists_eq_append_trim body
          have := Stands.expression hf hb (isTemplatePath_iff.mp hp) hv
            (textOf_iff.mpr (Except.ok.inj h))
          rw [← hbody] at this
          exact this
      · rw [Bool.eq_false_iff.mpr hp] at h
        cases h
    · intro h
      cases h with
      | expression hf hb hpath hv hshown =>
        rw [substitute, Text.trim_append hf hpath.ne_nil hpath.isBlank_eq_false hb,
          isTemplatePath_iff.mpr hpath, hv]
        exact congrArg Except.ok (textOf_iff.mp hshown)

end Tag

end Template

end ClusterProbe
