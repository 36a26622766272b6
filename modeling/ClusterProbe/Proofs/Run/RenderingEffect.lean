import ClusterProbe.Proofs.Run.Confinement
import ClusterProbe.Suite.Loading

/-!
# The effect of a rendering

Rendering a template either does nothing, or makes directories on the way to the one for everything
rendered, or does that and writes one file. Main statement: which of the three it is, and what is
different afterwards, for every identifier, whatever its path leads to. An output is never where a
template is, so a rendering that succeeds can be repeated and changes nothing then, and what is read
back from it is the text that was rendered.
-/

namespace ClusterProbe

namespace FileSystem

variable {fs gs : FileSystem} {p : Path} {loc : Location}

/-- Nothing is different where a directory is made that is there. -/
theorem makeDirs_of_isDirectory (h : fs.isDirectory p = true) : fs.makeDirs p = (fs, .ok ()) := by
  obtain ⟨loc, hlocate, hentry⟩ := isDirectory_eq_true_iff.mp h
  exact (makeDirs_eq_ok_iff hlocate).mpr (.inr ⟨hentry, rfl⟩)

/-- What is there is there again after it is put in its place. -/
theorem same_put {e : Entry} (hne : loc ≠ []) (h : fs.entry? loc = some e) :
    (fs.put loc e).Same fs := by
  refine ⟨rfl, fun l ↦ ?_⟩
  by_cases hl : l = loc
  · rw [hl, entry?_put_self hne, h]
  · exact entry?_put_of_ne hl

end FileSystem

namespace Renderer

variable {colours : Bool} {r : Renderer} {identifier other text : String} {fs gs hs : FileSystem}
  {w v : World} {path : Path}

/-- The place of an output. -/
theorem exists_place_renderedFile (fs : FileSystem) (home : HomeDir) (identifier : String) :
    ∃ dir last, fs.place (home.renderedFile identifier) = dir ++ [last ++ ".yaml"] :=
  fs.exists_place_join_append _ _ (by decide) (by decide)

/-- The place of a template. -/
theorem exists_place_templateFile (fs : FileSystem) (home : HomeDir) (identifier : String) :
    ∃ dir last, fs.place (home.templateFile identifier) = dir ++ [last ++ ".yaml.j2"] :=
  fs.exists_place_join_append _ _ (by decide) (by decide)

theorem place_renderedFile_ne_nil (fs : FileSystem) (home : HomeDir) (identifier : String) :
    fs.place (home.renderedFile identifier) ≠ [] := by
  obtain ⟨dir, last, hplace⟩ := exists_place_renderedFile fs home identifier
  simp [hplace]

/-- Whatever the identifiers are, no output is where a template is: their names end differently. -/
theorem place_templateFile_ne_renderedFile (fs : FileSystem) (home : HomeDir)
    (identifier other : String) :
    fs.place (home.templateFile identifier) ≠ fs.place (home.renderedFile other) := by
  obtain ⟨dir, last, hplace⟩ := exists_place_templateFile fs home identifier
  obtain ⟨dir', last', hplace'⟩ := exists_place_renderedFile fs home other
  rw [hplace, hplace']
  intro h
  have hnames : last ++ ".yaml.j2" = last' ++ ".yaml" := by
    simpa using congrArg List.getLast? h
  have hends : (last ++ ".yaml.j2").toList.getLast? = (last' ++ ".yaml").toList.getLast? := by
    rw [hnames]
  rw [String.toList_append, String.toList_append, List.getLast?_append_of_ne_nil _ (by decide),
    List.getLast?_append_of_ne_nil _ (by decide)] at hends
  exact absurd hends (by decide)

/-- The path of the directory for everything rendered is not empty. -/
theorem text_depsDir_ne_empty (home : HomeDir) : home.depsDir.text ≠ "" := by
  obtain ⟨front, hfront⟩ := home.root.exists_toList_join "deps"
  intro hempty
  rw [HomeDir.depsDir] at hempty
  rw [hempty] at hfront
  have hdeps : "deps".toList ≠ [] := by decide
  exact hdeps (List.append_eq_nil_iff.mp hfront.symm).2

/-- What a rendering that succeeds does to the files: the output holds the text, and is a program if
it was one before; the directory for everything rendered is there; and nothing else is different but
that there may be new directories on the way to it. -/
structure Written (r : Renderer) (identifier text : String) (fs gs : FileSystem) : Prop where
  workDir : gs.workDir = fs.workDir
  output : gs.entry? (fs.place (r.home.renderedFile identifier)) =
    some (.file text.toUTF8 (fs.runs (fs.place (r.home.renderedFile identifier))))
  readText : gs.readText (r.home.renderedFile identifier) = .ok text
  deps : gs.isDirectory r.home.depsDir = true
  directories : ∀ loc, fs.entry? loc = some .directory → gs.entry? loc = some .directory
  other : ∀ loc, loc ≠ fs.place (r.home.renderedFile identifier) →
    gs.entry? loc = fs.entry? loc ∨ fs.entry? loc = none ∧ gs.entry? loc = some .directory ∧
      ∃ q, r.home.depsDir.Ancestor q ∧ loc = fs.place q

/-- The directory is made first, and then the file is written. -/
theorem written_of_writeText (hmake : fs.makeDirs r.home.depsDir = (gs, .ok ()))
    (hwrite : gs.writeText (r.home.renderedFile identifier) text = .ok hs) :
    r.Written identifier text fs hs := by
  have hway := fs.madeWay_makeDirs r.home.depsDir
  have hdeps := FileSystem.isDirectory_of_makeDirs (text_depsDir_ne_empty r.home) hmake
  rw [hmake] at hway
  obtain ⟨loc, executable, hlocate, hslash, hbefore, rfl⟩ :=
    FileSystem.writeText_eq_ok_iff.mp hwrite
  obtain rfl : loc = fs.place (r.home.renderedFile identifier) :=
    (FileSystem.eq_place_of_locate hlocate).trans (FileSystem.place_congr hway.workDir _)
  have hne := place_renderedFile_ne_nil fs r.home identifier
  -- no directory was made where the output is
  have hsame : gs.entry? (fs.place (r.home.renderedFile identifier)) =
      fs.entry? (fs.place (r.home.renderedFile identifier)) := by
    rcases hway.entry (fs.place (r.home.renderedFile identifier)) with heq | ⟨-, hdir, -⟩
    · exact heq
    · rw [hdir] at hbefore
      simp at hbefore
  have hruns : executable = fs.runs (fs.place (r.home.renderedFile identifier)) := by
    rw [hsame] at hbefore
    rcases hbefore with ⟨hnone, rfl⟩ | ⟨content, hfile⟩
    · rw [FileSystem.runs, hnone]
    · exact (FileSystem.runs_of_file hfile).symm
  have hdirectories (l : Location) (hl : gs.entry? l = some .directory) :
      FileSystem.entry? (gs.put (fs.place (r.home.renderedFile identifier))
        (.file text.toUTF8 executable)) l = some .directory := by
    rw [FileSystem.entry?_put_of_ne, hl]
    rintro rfl
    rw [hl] at hbefore
    simp at hbefore
  have hlocated {p : Path} {l : Location} (hl : gs.locate p = .ok l) :
      FileSystem.locate (gs.put (fs.place (r.home.renderedFile identifier))
        (.file text.toUTF8 executable)) p = .ok l := by
    have hwork : (gs.put (fs.place (r.home.renderedFile identifier))
        (.file text.toUTF8 executable)).workDir = gs.workDir := rfl
    exact FileSystem.locate_mono hwork hdirectories hl
  have houtput : FileSystem.entry? (gs.put (fs.place (r.home.renderedFile identifier))
      (.file text.toUTF8 executable)) (fs.place (r.home.renderedFile identifier)) =
        some (.file text.toUTF8 executable) := FileSystem.entry?_put_self hne
  refine ⟨hway.workDir, ?_, ?_, ?_, fun l hl ↦ ?_, fun l hl ↦ ?_⟩
  · rw [← hruns]
    exact houtput
  · exact FileSystem.readText_eq_ok_iff.mpr
      ⟨_, executable, hlocated hlocate, hslash, houtput⟩
  · obtain ⟨dir, hdir, hentry⟩ := FileSystem.isDirectory_eq_true_iff.mp hdeps
    exact FileSystem.isDirectory_eq_true_iff.mpr
      ⟨dir, hlocated hdir, hdirectories dir hentry⟩
  · exact hdirectories l (hway.toExtends.entry?_of_some hl)
  · rw [FileSystem.entry?_put_of_ne hl]
    exact hway.entry l

namespace Written

/-- A file that is not the output is as it was. -/
theorem entry?_of_file (h : r.Written identifier text fs gs) {loc : Location} {content : ByteArray}
    {executable : Bool} (hne : loc ≠ fs.place (r.home.renderedFile identifier))
    (hfile : fs.entry? loc = some (.file content executable)) :
    gs.entry? loc = some (.file content executable) := by
  rcases h.other loc hne with heq | ⟨hnone, -⟩
  · rw [heq, hfile]
  · rw [hfile] at hnone
    cases hnone

/-- What a template renders to is the same after a rendering, be it of this template or another. -/
theorem textIn_eq_ok (h : r.Written identifier text fs gs) {source : String}
    (hsource : r.textIn fs other = .ok source) : r.textIn gs other = .ok source := by
  obtain ⟨template, hread, hrender⟩ := textIn_eq_ok_iff_render.mp hsource
  obtain ⟨loc, executable, hlocate, hslash, hentry⟩ := FileSystem.readText_eq_ok_iff.mp hread
  have hne : loc ≠ fs.place (r.home.renderedFile identifier) := by
    rw [FileSystem.eq_place_of_locate hlocate]
    exact place_templateFile_ne_renderedFile fs r.home other identifier
  refine textIn_eq_ok_iff_render.mpr ⟨template, FileSystem.readText_eq_ok_iff.mpr ?_, hrender⟩
  exact ⟨loc, executable, FileSystem.locate_mono h.workDir h.directories hlocate, hslash,
    h.entry?_of_file hne hentry⟩

/-- A rendering that succeeded can be repeated, and then the files stay as they are. -/
theorem exists_render_again (h : r.Written identifier text w.files v.files)
    (htext : r.textIn w.files identifier = .ok text) :
    ∃ u, (r.render (Rehearsal.machine colours) identifier).rehearse v =
        (.ok (r.home.renderedFile identifier), u) ∧ u.files.Same v.files := by
  obtain ⟨loc, executable, hlocate, hslash, hentry⟩ := FileSystem.readText_eq_ok_iff.mp h.readText
  have hne : loc ≠ [] := by
    rw [FileSystem.eq_place_of_locate hlocate]
    exact place_renderedFile_ne_nil v.files r.home identifier
  have hwrite : v.files.writeText (r.home.renderedFile identifier) text =
      .ok (v.files.put loc (.file text.toUTF8 executable)) :=
    FileSystem.writeText_eq_ok_iff.mpr ⟨loc, executable, hlocate, hslash, .inr ⟨_, hentry⟩, rfl⟩
  exact ⟨_, rehearse_render_eq_ok_iff.mpr ⟨text, _, _, h.textIn_eq_ok htext,
    FileSystem.makeDirs_of_isDirectory h.deps, hwrite, rfl, rfl⟩, FileSystem.same_put hne hentry⟩

end Written

/-- A rendering that succeeds writes what its template renders to. -/
theorem written_of_renderIn (h : r.renderIn fs identifier = (.ok text, gs)) :
    r.textIn fs identifier = .ok text ∧ r.Written identifier text fs gs := by
  unfold renderIn at h
  split at h
  · cases h
  next htext =>
    split at h
    · cases h
    next hmake =>
      split at h
      · cases h
      next hwrite =>
        cases h
        exact ⟨htext, written_of_writeText hmake hwrite⟩

theorem exists_renderIn_of_render
    (h : (r.render (Rehearsal.machine colours) identifier).rehearse w = (.ok path, v)) :
    ∃ text, r.renderIn w.files identifier = (.ok text, v.files) := by
  rw [rehearse_render_eq_renderIn] at h
  split at h
  · cases h
  next text fs hrender =>
    cases h
    exact ⟨text, hrender⟩

/-- A list of test cases that was rendered is read from the text that it was rendered to. -/
theorem rehearse_load_of_render
    (h : (r.render (Rehearsal.machine colours) Suite.testcases).rehearse w = (.ok path, v)) :
    ∃ text, r.renderIn w.files Suite.testcases = (.ok text, v.files) ∧
      (Suite.load (Rehearsal.machine colours) r).rehearse w =
        ((Suite.parse text).map fun cases ↦ (path, cases), v) := by
  obtain ⟨text, hrender⟩ := exists_renderIn_of_render h
  obtain ⟨-, hwritten⟩ := written_of_renderIn hrender
  obtain rfl := eq_renderedFile_of_render h
  have hread : ((Rehearsal.machine colours).read (r.home.renderedFile Suite.testcases)).rehearse v =
      (.ok text, v) := by
    rw [Rehearsal.rehearse_read, hwritten.readText]
    rfl
  have hfrom : (Suite.fromFile (Rehearsal.machine colours)
      (r.home.renderedFile Suite.testcases)).rehearse v = (Suite.parse text, v) := by
    rw [Suite.fromFile, Stage.rehearse_bind, hread]
    rfl
  refine ⟨text, hrender, ?_⟩
  rw [Suite.load, Stage.rehearse_bind, h]
  refine (Stage.rehearse_bind_pure (Suite.fromFile _ _) _ v).trans ?_
  rw [hfrom]

/-- The effect of a rendering, whatever the identifier. Where the text cannot be rendered, there is
none, and the error is the same. Where it can, the output is written, and rendering once more
changes nothing; or else files and directories are as they were, except for new directories on the
way to the one for everything rendered. A list of test cases that was rendered is what its text
says, or the error that its text comes to. -/
theorem render_effect (colours : Bool) (r : Renderer) (identifier : String) (w : World) :
    (∀ e, ((r.renderToString (Rehearsal.machine colours) identifier).rehearse w).1 = .error e →
      (r.render (Rehearsal.machine colours) identifier).rehearse w = (.error e, w)) ∧
    (∀ text, ((r.renderToString (Rehearsal.machine colours) identifier).rehearse w).1 = .ok text →
      (∃ v, (r.render (Rehearsal.machine colours) identifier).rehearse w =
          (.ok (r.home.renderedFile identifier), v) ∧
        v = ({ w with files := v.files } : World).push
          (.wrote (r.home.renderedFile identifier) text) ∧
        r.Written identifier text w.files v.files ∧
        ∃ u, (r.render (Rehearsal.machine colours) identifier).rehearse v =
          (.ok (r.home.renderedFile identifier), u) ∧ u.files.Same v.files) ∨
      ∃ why v, (r.render (Rehearsal.machine colours) identifier).rehearse w =
          (.error (.io why), v) ∧
        v = { w with files := v.files } ∧ FileSystem.MadeWay r.home.depsDir w.files v.files) ∧
    ∀ path v, (r.render (Rehearsal.machine colours) Suite.testcases).rehearse w = (.ok path, v) →
      ∃ text,
        ((r.renderToString (Rehearsal.machine colours) Suite.testcases).rehearse w).1 = .ok text ∧
        (Suite.load (Rehearsal.machine colours) r).rehearse w =
          ((Suite.parse text).map fun cases ↦ (path, cases), v) := by
  simp only [rehearse_renderToString]
  have hrun := r.rehearse_render colours identifier w
  refine ⟨fun e he ↦ ?_, fun text htext ↦ ?_, fun path v h ↦ ?_⟩
  · rw [he] at hrun
    exact hrun
  · rw [htext] at hrun
    have hway := w.files.madeWay_makeDirs r.home.depsDir
    rcases hmake : w.files.makeDirs r.home.depsDir with ⟨gs, e | _⟩
    · rw [hmake] at hrun hway
      exact .inr ⟨e.message, { w with files := gs }, hrun, rfl, hway⟩
    · cases hwrite : gs.writeText (r.home.renderedFile identifier) text with
      | error e =>
        rw [hmake] at hway
        simp only [hmake, hwrite] at hrun
        exact .inr ⟨e.message, { w with files := gs }, hrun, rfl, hway⟩
      | ok hs =>
        simp only [hmake, hwrite] at hrun
        have hwritten := written_of_writeText hmake hwrite
        refine .inl ⟨_, hrun, rfl, hwritten, ?_⟩
        exact hwritten.exists_render_again htext
  · obtain ⟨text, hrender, hload⟩ := rehearse_load_of_render h
    exact ⟨text, (written_of_renderIn hrender).1, hload⟩

/-- A template that is rendered, and then rendered again. -/
theorem render_effect_twice :
    ∃ text v u,
      ((suiteRenderer.renderToString (Rehearsal.machine false) "service").rehearse suiteWorld).1 =
        .ok text ∧
      (suiteRenderer.render (Rehearsal.machine false) "service").rehearse suiteWorld =
        (.ok (suiteRenderer.home.renderedFile "service"), v) ∧
      suiteRenderer.Written "service" text suiteWorld.files v.files ∧
      (suiteRenderer.render (Rehearsal.machine false) "service").rehearse v =
        (.ok (suiteRenderer.home.renderedFile "service"), u) ∧
      u.files.Same v.files := by
  obtain ⟨v, hv⟩ := exists_render_service
  obtain ⟨text, hrender⟩ := exists_renderIn_of_render hv
  have hstring : ((suiteRenderer.renderToString (Rehearsal.machine false) "service").rehearse
      suiteWorld).1 = .ok text := by
    rw [rehearse_renderToString]
    exact (written_of_renderIn hrender).1
  have heffect := (render_effect false suiteRenderer "service" suiteWorld).2.1 text hstring
  rcases heffect with ⟨v', hv', -, hwritten, u, hu, hsame⟩ | ⟨why, v', hv', -⟩
  · exact ⟨text, v', u, hstring, hv', hwritten, hu, hsame⟩
  · rw [hv] at hv'
    cases hv'

end Renderer

end ClusterProbe
