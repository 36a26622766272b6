import ClusterProbe.Proofs.Template.Grammar
import ClusterProbe.Proofs.Yaml.Tree
import ClusterProbe.Renderer

/-!
# Structures inside documents

A template can put a list or a mapping into a document by naming it behind a colon: it is rendered
in compact notation. Main statement: such a line always renders, and reading it gives the mapping
with the one entry back if the quotes carry all texts and the keys are short; if a text holds a
character that no document may hold, the line is refused. Nothing is said of texts with characters
that end a line: a next-line character is read as a space, and a line or paragraph separator comes
back or not by where it stands.
-/

namespace ClusterProbe

/-- The template of one entry, which names its value by a path. -/
def entryTemplate (path : String) : String := "v: \x7b\x7b " ++ path ++ " \x7d\x7d"

/-- The template of an entry renders to the entry with the value in compact notation. -/
theorem render_entryTemplate (identifier : String) {path : String} {values w : Json}
    (hpath : isTemplatePath path.toList = true) (hw : values.lookup? path.toList = some w)
    (hkind : ¬ w.IsScalar) :
    Template.render identifier (entryTemplate path) values =
      .ok (String.ofList (Yaml.entryLine w)) := by
  have hblank : ∀ c ∈ [' '], Text.isBlank c = true := List.forall_mem_singleton.mpr rfl
  have hshown : Template.TextOf w (Json.print w) := by
    cases w with
    | array items => exact .array items
    | object entries => exact .object entries
    | _ => exact absurd trivial hkind
  have hstands : (Template.Tag.expression ([' '] ++ path.toList ++ [' '])).Stands values
      (Json.print w) := .expression hblank hblank (isTemplatePath_iff.mp hpath) hw hshown
  have hcomplete := hstands.complete (by simp)
  have hfirst : Template.Plain ['v', ':', ' '] := ⟨⟨by decide, by decide⟩, by decide⟩
  have hempty : Template.Plain [] := ⟨⟨by decide, by decide⟩, by decide⟩
  let part : Template.Part := ⟨.expression ([' '] ++ path.toList ++ [' ']), Json.print w, []⟩
  have hfills : Template.Fills values [] (Template.written ['v', ':', ' '] [part])
      (Template.filled ['v', ':', ' '] [part]) :=
    Template.fills_written hfirst (List.forall_mem_singleton.mpr ⟨hcomplete, hstands, hempty⟩)
      (List.forall_mem_singleton.mpr (by simp))
  have hsource : (entryTemplate path).toList = Template.written ['v', ':', ' '] [part] := by
    simp [entryTemplate, Template.written, part, Template.Tag.text]
  have hout : (String.ofList (Yaml.entryLine w)).toList =
      Template.filled ['v', ':', ' '] [part] := by
    simp [Yaml.entryLine, Template.filled, part]
  rw [Template.render_eq_ok_iff, hsource, hout]
  exact hfills

namespace Values

variable {w : Json} {text : String}

/-- A text with the lexemes of one entry holds the one value. -/
theorem parse_of_lexemes {k : String} (hblank : Text.isAllBlank text = false)
    (hsorted : w.SortedKeys) (hwithin : w.Within (Yaml.nestingLimit - 1))
    (hlexemes : (Yaml.tokens text.toList).map (List.map Yaml.Token.lexeme) =
      some (Yaml.lineLexemes k w)) :
    parse text = .ok ⟨[(k, w)]⟩ := by
  obtain ⟨ts, htokens, hts⟩ := Option.map_eq_some_iff.mp hlexemes
  obtain ⟨d, hd, hroot⟩ := Yaml.ofText?_of_tokens hsorted htokens hts
  have hdocument : (Json.object [(k, w)]).Within Yaml.nestingLimit :=
    .object (List.forall_mem_singleton.mpr hwithin)
  rw [parse, hblank, hd]
  simp only [Bool.false_eq_true, if_false, ofDocument, Yaml.Document.read_of_spells hroot hdocument]
  rfl

/-- The line of an entry is no blank text. -/
theorem isAllBlank_entryLine (w : Json) :
    Text.isAllBlank (String.ofList (Yaml.entryLine w)) = false := by
  rw [Text.isAllBlank, String.toList_ofList, Yaml.entryLine]
  rfl

/-- The line of a list or a mapping holds the one value, if the quotes carry what is in it. -/
theorem parse_entryLine (hkind : ¬ w.IsScalar) (hsorted : w.SortedKeys)
    (hwithin : w.Within (Yaml.nestingLimit - 1)) (hcarried : Yaml.CarriedValue w) :
    parse (String.ofList (Yaml.entryLine w)) = .ok ⟨[("v", w)]⟩ := by
  obtain ⟨ts, htokens, hts⟩ := Yaml.tokens_entryLine hcarried hkind
  refine parse_of_lexemes (isAllBlank_entryLine w) hsorted hwithin ?_
  rw [String.toList_ofList, htokens, Option.map_some, hts]

/-- The line of an entry is refused if there is a character in it that no document may hold. -/
theorem parse_entryLine_of_not_permitted (h : ∃ x ∈ Yaml.entryLine w, Yaml.isPermitted x = false) :
    parse (String.ofList (Yaml.entryLine w)) = .error (.configParse malformed) := by
  have hall : (Yaml.entryLine w).all Yaml.isPermitted = false := by
    obtain ⟨x, hx, hpermitted⟩ := h
    exact List.all_eq_false.mpr ⟨x, hx, by simp [hpermitted]⟩
  have hdocument : Yaml.Document.ofText? (String.ofList (Yaml.entryLine w)) = none := by
    rw [Yaml.Document.ofText?, String.toList_ofList, Yaml.tokens_entryLine_eq, hall]
    rfl
  rw [parse, isAllBlank_entryLine, hdocument]
  rfl

/-- A list or a mapping among the values of a text can always be put into a document by naming it
behind a colon. The rendered line holds the one entry with the same value if the quotes carry every
text in it and no key is too long; and it is refused if there is a character in it that no document
may hold. -/
theorem parse_rendered_entry (identifier path : String) {config : String} {values : Values}
    {w : Json} (hconfig : parse config = .ok values) (hpath : isTemplatePath path.toList = true)
    (hw : values.toJson.lookup? path.toList = some w) (hkind : ¬ w.IsScalar) :
    ∃ out, Template.render identifier (entryTemplate path) values.toJson = .ok out ∧
      (Yaml.CarriedValue w → parse out = .ok ⟨[("v", w)]⟩) ∧
      ((∃ x ∈ out.toList, Yaml.isPermitted x = false) →
        parse out = .error (.configParse malformed)) := by
  obtain ⟨hsorted, hwithin⟩ := (wellFormed_of_parse hconfig).lookup? hw
  refine ⟨_, render_entryTemplate identifier hpath hw hkind, parse_entryLine hkind hsorted hwithin,
    fun h ↦ ?_⟩
  rw [String.toList_ofList] at h
  exact parse_entryLine_of_not_permitted h

/-- A list inside a mapping comes back. -/
theorem parse_rendered_list :
    let w := Json.array [.number (.natural 1), .string "x"]
    let values : Values := ⟨[("a", .object [("b", w)])]⟩
    parse "a: \x7b\"b\": [1, \"x\"]\x7d\n" = .ok values ∧
      isTemplatePath "a.b".toList = true ∧ values.toJson.lookup? "a.b".toList = some w ∧
      ∃ out, Template.render "t" (entryTemplate "a.b") values.toJson = .ok out ∧
        parse out = .ok ⟨[("v", w)]⟩ := by
  intro w values
  have hwithin : (Json.object [("b", w)]).Within (Yaml.nestingLimit - 1) :=
    .object (List.forall_mem_singleton.mpr (.array (List.forall_mem_cons.mpr
      ⟨.scalar trivial, List.forall_mem_singleton.mpr (.scalar trivial)⟩)))
  have hconfig : parse "a: \x7b\"b\": [1, \"x\"]\x7d\n" = .ok values :=
    parse_of_lexemes (by decide) (by decide) hwithin (by decide +kernel)
  have hcarried : Yaml.CarriedValue w := ⟨trivial, (by decide : Yaml.CarriedText "x"), trivial⟩
  obtain ⟨out, hrender, hparse, -⟩ :=
    parse_rendered_entry "t" "a.b" hconfig (by decide) rfl not_false
  exact ⟨hconfig, by decide, rfl, out, hrender, hparse hcarried⟩

/-- A delete character, which a configuration may hold as an escape, is put into the line as it is,
and then the line is refused. -/
theorem parse_rendered_delete :
    let w := Json.array [.string "\x7f"]
    let values : Values := ⟨[("a", w)]⟩
    parse "a: [\"\\x7f\"]\n" = .ok values ∧ isTemplatePath "a".toList = true ∧
      values.toJson.lookup? "a".toList = some w ∧
      Template.render "t" (entryTemplate "a") values.toJson = .ok "v: [\"\x7f\"]" ∧
      parse "v: [\"\x7f\"]" = .error (.configParse malformed) := by
  intro w values
  have hwithin : w.Within (Yaml.nestingLimit - 1) :=
    .array (List.forall_mem_singleton.mpr (.scalar trivial))
  have hlookup : values.toJson.lookup? "a".toList = some w := rfl
  have hline : String.ofList (Yaml.entryLine w) = "v: [\"\x7f\"]" := by decide
  have hrender := render_entryTemplate "t" (by decide) hlookup not_false
  have hparse := parse_entryLine_of_not_permitted (w := w) ⟨'\x7f', by decide, by decide⟩
  rw [hline] at hrender hparse
  exact ⟨parse_of_lexemes (by decide) (by decide) hwithin (by decide +kernel), by decide, hlookup,
    hrender, hparse⟩

end Values

end ClusterProbe
