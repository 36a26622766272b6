import ClusterProbe.Proofs.Json.Navigation
import ClusterProbe.Proofs.Template.Filling

/-!
# Addresses in templates

An expression names the value at an address by its dotted path. Main statement: the dotted path of
an address leads to the value at the address, so that an expression renders to the text of that
value if a template may name the path; and what a dotted path leads to is always at an address that
its segments name.
-/

namespace ClusterProbe.Template

open Json (Step At Names dotted)

/-- The dotted path of an address whose steps are words is one that a template may name. -/
theorem dottedPath_dotted {first : Step} {rest : List Step}
    (hfirst : ∃ c word, first.text = c :: word ∧ isNameStart c = true ∧
      ∀ d ∈ word, isNameChar d = true)
    (hrest : ∀ s ∈ rest, s.text ≠ [] ∧ ∀ d ∈ s.text, isNameChar d = true) :
    DottedPath (dotted (first :: rest)) := by
  obtain ⟨c, word, htext, hc, hword⟩ := hfirst
  refine ⟨c, word, rest.map Step.text, ?_, hc, hword, fun w hw ↦ ?_⟩
  · rw [dotted, List.map_cons, Text.join_cons, htext]
  · obtain ⟨s, hs, rfl⟩ := List.mem_map.mp hw
    exact hrest s hs

/-- A template that is one expression renders to the text of the value that its path leads to. -/
theorem render_expression {v w : Json} {path front back text : List Char} (identifier : String)
    (hfront : ∀ c ∈ front, Text.isBlank c = true) (hback : ∀ c ∈ back, Text.isBlank c = true)
    (hpath : DottedPath path) (hlookup : v.lookup? path = some w) (htext : TextOf w text) :
    render identifier (String.ofList ('{' :: '{' :: (front ++ path ++ back) ++ ['}', '}'])) v =
      .ok (String.ofList text) := by
  have stands : (Tag.expression (front ++ path ++ back)).Stands v text :=
    .expression hfront hback hpath hlookup htext
  have complete : (Tag.expression (front ++ path ++ back)).Complete :=
    stands.complete fun _ h ↦ by cases h
  have clean : Clean [] := by simp [Clean]
  have hfills := Fills.tag clean complete stands (.done clean)
  rw [List.append_nil, List.append_nil, List.nil_append] at hfills
  rw [render_eq_ok_iff, String.toList_ofList, String.toList_ofList]
  exact hfills

/-- Dotted paths and the tree of a document. The dotted path of an address whose keys hold no dot
leads to the value at the address, and where the steps are words, an expression with blanks around
the path renders to the text of that value. In the other direction, whatever a path leads to is at
an address whose steps its segments name, cut at every dot: a key names itself, and an index is
named by every decimal numeral that denotes it. A path of two parts is followed part by part. -/
theorem lookup_navigates (v : Json) :
    (∀ first rest w, (∀ k, Step.key k ∈ first :: rest → '.' ∉ k.toList) →
      At v (first :: rest) w →
        v.lookup? (dotted (first :: rest)) = some w ∧
          ((∃ c word, first.text = c :: word ∧ isNameStart c = true ∧
              ∀ d ∈ word, isNameChar d = true) →
            (∀ s ∈ rest, s.text ≠ [] ∧ ∀ d ∈ s.text, isNameChar d = true) →
            ∀ identifier front back, (∀ c ∈ front, Text.isBlank c = true) →
              (∀ c ∈ back, Text.isBlank c = true) → ∃ text, TextOf w text ∧
                render identifier (String.ofList
                    ('{' :: '{' :: (front ++ dotted (first :: rest) ++ back) ++ ['}', '}'])) v =
                  .ok (String.ofList text))) ∧
    (∀ path w, v.lookup? path = some w ↔
      ∃ segments steps, segments ≠ [] ∧ (∀ s ∈ segments, '.' ∉ s) ∧
        path = Text.join ['.'] segments ∧ List.Forall₂ Names segments steps ∧ At v steps w) ∧
    ∀ p q, v.lookup? (p ++ '.' :: q) = (v.lookup? p).bind (·.lookup? q) := by
  refine ⟨fun first rest w hdots hat ↦ ?_, fun path w ↦ Json.lookup?_eq_some_iff,
    v.lookup?_append⟩
  have hlookup := Json.lookup?_dotted (List.cons_ne_nil first rest) hdots hat
  refine ⟨hlookup, fun hfirst hrest identifier front back hfront hback ↦ ?_⟩
  have htext : TextOf w w.plainText.toList := textOf_iff.mpr rfl
  exact ⟨_, htext, render_expression identifier hfront hback (dottedPath_dotted hfirst hrest)
    hlookup htext⟩

/-- Values with one service in a list. -/
def oneService : Json := .object [("services", .array [.object [("name", .string "gateway")]])]

/-- The name of the service, by the path of its address and by another path. -/
theorem lookup_navigates_name :
    At oneService [.key "services", .index 0, .key "name"] (.string "gateway") ∧
      oneService.lookup? "services.0.name".toList = some (.string "gateway") ∧
      oneService.lookup? "services.+00.name".toList = some (.string "gateway") ∧
      ∃ text, TextOf (.string "gateway") text ∧
        render "t" (String.ofList
            ('{' :: '{' :: ([' '] ++ "services.0.name".toList ++ ['\n']) ++ ['}', '}'])) oneService =
          .ok (String.ofList text) := by
  have hfirst (k : String) : k ∉ ([] : List (String × Json)).map Prod.fst := List.not_mem_nil
  have hservices : Json.Child oneService (.key "services")
      (.array [.object [("name", .string "gateway")]]) := .key (hfirst "services")
  have hname : Json.Child (.object [("name", .string "gateway")]) (.key "name")
      (.string "gateway") := .key (hfirst "name")
  have hat := At.step hservices (.step (.index (i := 0) rfl) (.step hname (.here _)))
  have hpath : dotted [.key "services", .index 0, .key "name"] = "services.0.name".toList := by
    decide
  have hdots : ∀ k, Step.key k ∈ [.key "services", .index 0, .key "name"] → '.' ∉ k.toList := by
    intro k hk
    have hkeys : k = "services" ∨ k = "name" := by simpa using hk
    rcases hkeys with rfl | rfl <;> decide
  have hlooked := (lookup_navigates oneService).1 _ _ _ hdots hat
  rw [hpath] at hlooked
  refine ⟨hat, hlooked.1, ?_, ?_⟩
  · have hzeros : Json.Numeral ['+', '0', '0'] 0 := .plus (by simp) (List.all_eq_true.mp rfl)
    have hnodot : ∀ s ∈ ["services".toList, ['+', '0', '0'], "name".toList], '.' ∉ s := by
      refine List.forall_mem_cons.mpr ⟨by decide, ?_⟩
      exact List.forall_mem_cons.mpr ⟨by decide, List.forall_mem_singleton.mpr (by decide)⟩
    exact ((lookup_navigates oneService).2.1 _ _).mpr ⟨_, _, List.cons_ne_nil _ _, hnodot, by decide,
      .cons (.key _) (.cons (.index hzeros) (.cons (.key _) .nil)), hat⟩
  · have hwords : ∀ s ∈ [Step.index 0, .key "name"],
        s.text ≠ [] ∧ ∀ d ∈ s.text, isNameChar d = true := by
      refine List.forall_mem_cons.mpr ⟨⟨by decide, List.all_eq_true.mp rfl⟩, ?_⟩
      exact List.forall_mem_singleton.mpr ⟨by decide, List.all_eq_true.mp rfl⟩
    exact hlooked.2 ⟨'s', "ervices".toList, by decide, rfl, List.all_eq_true.mp rfl⟩ hwords "t" [' ']
      ['\n'] (List.forall_mem_singleton.mpr rfl) (List.forall_mem_singleton.mpr rfl)

end ClusterProbe.Template
