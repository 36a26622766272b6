import ClusterProbe.Proofs.FileSystem.Changes
import ClusterProbe.Proofs.Run.Rendering
import ClusterProbe.Proofs.Template.Grammar

/-!
# Where rendering writes

A rendering that succeeds changes one file, and that file is where the rendered path leads. Main
statement: all files outside the directory for everything rendered are as they were exactly if the
path leads to something inside it, or to a file that held the rendered text before; it does lead
inside for every identifier that is a relative path and never names the directory above. For other
identifiers it need not, and then a rendering may replace the values it was made with.
-/

namespace ClusterProbe

namespace Renderer

variable {colours : Bool} {r : Renderer} {identifier : String} {w v : World} {path : Path}

/-- A rendering succeeds if the text of its template is there, the directory can be made and the file
written. -/
theorem rehearse_render_eq_ok_iff :
    (r.render (Rehearsal.machine colours) identifier).rehearse w = (.ok path, v) ↔
      ∃ text fs gs, r.textIn w.files identifier = .ok text ∧
        w.files.makeDirs r.home.depsDir = (fs, .ok ()) ∧
        fs.writeText (r.home.renderedFile identifier) text = .ok gs ∧
        path = r.home.renderedFile identifier ∧
        v = ({ w with files := gs } : World).push (.wrote (r.home.renderedFile identifier) text) := by
  rw [rehearse_render]
  cases htext : r.textIn w.files identifier with
  | error e => simp
  | ok text =>
    rcases hdirs : w.files.makeDirs r.home.depsDir with ⟨fs, e | u⟩
    · simp
    · cases hwrite : fs.writeText (r.home.renderedFile identifier) text with
      | error e => simp [hwrite]
      | ok gs => simp [hwrite, eq_comm]

/-- What a rendering that succeeds does to the files: the rendered text is at the place of its path,
and the files at all other places are as they were. -/
structure Placed (r : Renderer) (identifier : String) (fs gs : FileSystem) (text : String) :
    Prop where
  renders : r.textIn fs identifier = .ok text
  output : gs.content? (fs.place (r.home.renderedFile identifier)) = some text.toUTF8
  other : ∀ loc, loc ≠ fs.place (r.home.renderedFile identifier) →
    gs.content? loc = fs.content? loc

theorem placed_of_render
    (h : (r.render (Rehearsal.machine colours) identifier).rehearse w = (.ok path, v)) :
    ∃ text, r.Placed identifier w.files v.files text := by
  obtain ⟨text, fs, gs, htext, hdirs, hwrite, -, rfl⟩ := rehearse_render_eq_ok_iff.mp h
  have hextends := w.files.extends_makeDirs r.home.depsDir
  rw [hdirs] at hextends
  obtain ⟨loc, executable, hlocate, -, hbefore, rfl⟩ := FileSystem.writeText_eq_ok_iff.mp hwrite
  obtain rfl : loc = w.files.place (r.home.renderedFile identifier) :=
    (FileSystem.eq_place_of_locate hlocate).trans (FileSystem.place_congr hextends.workDir _)
  have hne : w.files.place (r.home.renderedFile identifier) ≠ [] := by
    intro hroot
    rw [hroot, FileSystem.entry?_nil] at hbefore
    simp at hbefore
  refine ⟨text, htext, FileSystem.content?_put_self hne, fun l hl ↦ ?_⟩
  exact (FileSystem.content?_put_of_ne hl).trans (hextends.content?_eq l)

section Places

variable (fs : FileSystem) (home : HomeDir)

theorem place_depsDir : fs.place home.depsDir = fs.place home.root ++ ["deps"] :=
  FileSystem.place_join_fileName ⟨by decide, by decide, by decide, by decide⟩

theorem place_valuesFile : fs.place home.valuesFile = fs.place home.root ++ ["config.yaml"] :=
  FileSystem.place_join_fileName ⟨by decide, by decide, by decide, by decide⟩

theorem place_templates :
    fs.place (home.root.join "templates") = fs.place home.root ++ ["templates"] :=
  FileSystem.place_join_fileName ⟨by decide, by decide, by decide, by decide⟩

/-- What is inside another directory of the suite is not inside the one for everything rendered. -/
theorem not_below_depsDir {name : String} {loc : Location} (hname : name ≠ "deps")
    (h : fs.place home.root ++ [name] <+: loc) : ¬ fs.Below home.depsDir loc := by
  intro hbelow
  rw [FileSystem.Below, place_depsDir] at hbelow
  have hprefix := List.prefix_of_prefix_length_le h hbelow (by simp)
  have heq := hprefix.eq_of_length (by simp)
  simp [hname] at heq

end Places

/-- The files outside the directory for everything rendered are as they were exactly if the rendered
path leads inside it, or to a file that held the rendered text before. It leads inside for every
identifier that stands for a relative path and never names the directory above. The values are
outside, and so are the templates of all such identifiers. -/
theorem render_confined_iff
    (h : (r.render (Rehearsal.machine colours) identifier).rehearse w = (.ok path, v)) :
    ((∀ loc, ¬ w.files.Below r.home.depsDir loc → v.files.content? loc = w.files.content? loc) ↔
      w.files.Below r.home.depsDir (w.files.place path) ∨
        ∃ text, r.textIn w.files identifier = .ok text ∧
          w.files.content? (w.files.place path) = some text.toUTF8) ∧
    ((Path.mk (identifier ++ ".yaml")).Descends →
      w.files.Below r.home.depsDir (w.files.place path)) ∧
    ¬ w.files.Below r.home.depsDir (w.files.place r.home.valuesFile) ∧
    ∀ other, (Path.mk (other ++ ".yaml.j2")).Descends →
      ¬ w.files.Below r.home.depsDir (w.files.place (r.home.templateFile other)) := by
  obtain rfl := eq_renderedFile_of_render h
  obtain ⟨text, hplaced⟩ := placed_of_render h
  refine ⟨⟨fun hsame ↦ ?_, fun hwhere loc hloc ↦ ?_⟩, FileSystem.below_join, ?_, fun other hother ↦ ?_⟩
  · by_cases hbelow : w.files.Below r.home.depsDir
        (w.files.place (r.home.renderedFile identifier))
    · exact .inl hbelow
    · refine .inr ⟨text, hplaced.renders, ?_⟩
      rw [← hsame _ hbelow, hplaced.output]
  · by_cases hplace : loc = w.files.place (r.home.renderedFile identifier)
    · rcases hwhere with hbelow | ⟨text', htext', hheld⟩
      · exact absurd (hplace ▸ hbelow) hloc
      · obtain rfl := Except.ok.inj (hplaced.renders.symm.trans htext')
        rw [hplace, hplaced.output, hheld]
    · exact hplaced.other loc hplace
  · have hconfig : "config.yaml" ≠ "deps" := by decide
    rw [place_valuesFile]
    exact not_below_depsDir w.files r.home hconfig (List.prefix_refl _)
  · have htemplates : "templates" ≠ "deps" := by decide
    refine not_below_depsDir w.files r.home htemplates ?_
    rw [← place_templates]
    exact FileSystem.below_join hother

section Suite

/-- The files of a suite with one template, which is there once more beside the values. -/
def suiteFiles (values template : ByteArray) : FileSystem :=
  ⟨[(["suite"], .directory), (["suite", "templates"], .directory),
    (["suite", "config.yaml"], .file values false),
    (["suite", "config.yaml.j2"], .file template false),
    (["suite", "templates", "service.yaml.j2"], .file template false)], []⟩

/-- The world with these files. -/
def suiteWorld : World := ⟨suiteFiles "a: 1".toUTF8 "b: 2".toUTF8, .smooth, #[]⟩

/-- The renderer of the suite. -/
def suiteRenderer : Renderer := ⟨⟨⟨"suite"⟩⟩, ⟨[]⟩⟩

/-- The files of the suite once the directory for everything rendered is there. -/
private abbrev withDeps : FileSystem := suiteWorld.files.put ["suite", "deps"] .directory

private theorem render_suite {source out : Location}
    (hsource : suiteWorld.files.locate (suiteRenderer.home.templateFile identifier) = .ok source)
    (htemplate : suiteWorld.files.entry? source = some (.file "b: 2".toUTF8 false))
    (hslash : (suiteRenderer.home.templateFile identifier).endsInSlash = false ∧
      (suiteRenderer.home.renderedFile identifier).endsInSlash = false)
    (hout : withDeps.locate (suiteRenderer.home.renderedFile identifier) = .ok out)
    (hbefore : withDeps.entry? out = none ∨
      ∃ content, withDeps.entry? out = some (.file content false)) :
    ∃ v, (suiteRenderer.render (Rehearsal.machine false) identifier).rehearse suiteWorld =
        (.ok (suiteRenderer.home.renderedFile identifier), v) ∧
      v.files = withDeps.put out (.file "b: 2".toUTF8 false) := by
  have hplain : Template.Plain "b: 2".toList := ⟨⟨by decide, by decide⟩, by decide⟩
  have htext : suiteRenderer.textIn suiteWorld.files identifier = .ok "b: 2" := by
    unfold textIn
    rw [FileSystem.readText_eq_ok_iff.mpr ⟨source, false, hsource, hslash.1, htemplate⟩]
    exact Template.render_of_plain _ _ hplain
  have hdeps : suiteWorld.files.locate suiteRenderer.home.depsDir = .ok ["suite", "deps"] :=
    FileSystem.locate_of_names ["suite", "deps"] rfl (by decide +kernel) (by decide +kernel) rfl
  have hdirs := (FileSystem.makeDirs_eq_ok_iff hdeps).mpr (.inl ⟨rfl, rfl⟩)
  have hwrite : withDeps.writeText (suiteRenderer.home.renderedFile identifier) "b: 2" =
      .ok (withDeps.put out (.file "b: 2".toUTF8 false)) :=
    FileSystem.writeText_eq_ok_iff.mpr
      ⟨out, false, hout, hslash.2, hbefore.imp_left fun h ↦ ⟨h, rfl⟩, rfl⟩
  exact ⟨_, rehearse_render_eq_ok_iff.mpr ⟨_, _, _, htext, hdirs, hwrite, rfl, rfl⟩, rfl⟩

/-- A plain identifier of the suite is rendered. -/
theorem exists_render_service :
    ∃ v, (suiteRenderer.render (Rehearsal.machine false) "service").rehearse suiteWorld =
      (.ok (suiteRenderer.home.renderedFile "service"), v) := by
  have hsource : suiteWorld.files.locate (suiteRenderer.home.templateFile "service") =
      .ok ["suite", "templates", "service.yaml.j2"] :=
    FileSystem.locate_of_names ["suite", "templates", "service.yaml.j2"] rfl (by decide +kernel)
      (by decide +kernel) rfl
  have houtput : withDeps.locate (suiteRenderer.home.renderedFile "service") =
      .ok ["suite", "deps", "service.yaml"] :=
    FileSystem.locate_of_names ["suite", "deps", "service.yaml"] rfl (by decide +kernel)
      (by decide +kernel) rfl
  obtain ⟨v, hv, -⟩ := render_suite hsource rfl (by decide +kernel) houtput (.inl rfl)
  exact ⟨v, hv⟩

/-- A plain identifier is rendered inside the directory for everything rendered, so the values are
left alone. -/
theorem render_service_confined :
    ∃ path v,
      (suiteRenderer.render (Rehearsal.machine false) "service").rehearse suiteWorld =
        (.ok path, v) ∧
      suiteWorld.files.Below suiteRenderer.home.depsDir (suiteWorld.files.place path) ∧
      v.files.content? (suiteWorld.files.place suiteRenderer.home.valuesFile) =
        suiteWorld.files.content? (suiteWorld.files.place suiteRenderer.home.valuesFile) := by
  obtain ⟨v, hv⟩ := exists_render_service
  have hconfined := render_confined_iff hv
  have hbelow := hconfined.2.1 (Path.isFileName_append (by decide) (by decide) (by decide)).descends
  exact ⟨_, v, hv, hbelow, hconfined.1.mpr (.inl hbelow) _ hconfined.2.2.1⟩

/-- An identifier that names the directory above leads to the values of the suite, and they are
replaced. -/
theorem render_replaces_values :
    ∃ path v,
      (suiteRenderer.render (Rehearsal.machine false) "../config").rehearse suiteWorld =
        (.ok path, v) ∧
      ¬ suiteWorld.files.Below suiteRenderer.home.depsDir
        (suiteWorld.files.place suiteRenderer.home.valuesFile) ∧
      suiteWorld.files.content? (suiteWorld.files.place suiteRenderer.home.valuesFile) =
        some "a: 1".toUTF8 ∧
      v.files.content? (suiteWorld.files.place suiteRenderer.home.valuesFile) =
        some "b: 2".toUTF8 := by
  have hsource : suiteWorld.files.locate (suiteRenderer.home.templateFile "../config") =
      .ok ["suite", "config.yaml.j2"] :=
    FileSystem.locate_of_names ["suite", "templates", "..", "config.yaml.j2"] rfl (by decide +kernel)
      (by decide +kernel) rfl
  have houtput : withDeps.locate (suiteRenderer.home.renderedFile "../config") =
      .ok ["suite", "config.yaml"] :=
    FileSystem.locate_of_names ["suite", "deps", "..", "config.yaml"] rfl (by decide +kernel)
      (by decide +kernel) rfl
  have hbefore : withDeps.entry? ["suite", "config.yaml"] =
      some (.file "a: 1".toUTF8 false) := by
    rw [FileSystem.entry?_put_of_ne (by simp)]
    rfl
  obtain ⟨v, hv, hfiles⟩ :=
    render_suite hsource rfl (by decide +kernel) houtput (.inr ⟨_, hbefore⟩)
  have hplace : suiteWorld.files.place suiteRenderer.home.valuesFile = ["suite", "config.yaml"] := by
    rw [place_valuesFile]
    decide +kernel
  refine ⟨_, v, hv, ?_, ?_, ?_⟩
  · have hconfig : "config.yaml" ≠ "deps" := by decide
    rw [place_valuesFile]
    exact not_below_depsDir _ _ hconfig (List.prefix_refl _)
  · rw [hplace]
    rfl
  · rw [hplace, hfiles]
    exact FileSystem.content?_put_self (by simp)

end Suite

end Renderer

end ClusterProbe
