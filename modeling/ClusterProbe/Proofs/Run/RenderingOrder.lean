import ClusterProbe.Proofs.Run.RenderingEffect

/-!
# The order of renderings

A rendering under a plain identifier reads one template and writes one file, and no other rendering
reads or writes that file or changes that template. What is there after some renderings is told by
what was there before and by which identifiers were rendered. Main statement: neither the order of
the identifiers matters nor how often each of them is rendered.
-/

namespace ClusterProbe

namespace FileSystem

variable {fs gs : FileSystem} {p : Path} {q : String} {loc : Location}

/-- Whether a name can be joined to the path of a directory depends on what is written alone. -/
theorem locate_join_of_locate (hwalk : fs.walk (fs.origin p) p.names = .ok (fs.place p))
    (hdir : fs.entry? (fs.place p) = some .directory) (hq : Path.IsFileName q)
    (h : gs.locate (p.join q) = .ok loc) : fs.locate (p.join q) = .ok (fs.place (p.join q)) := by
  rw [locate_join_iff hq] at h ⊢
  exact ⟨h.1, h.2.1, h.2.2.1, fs.place p, hwalk, hdir, place_join_fileName hq⟩

end FileSystem

/-- Where stages in a row all succeed, the first one does, and the others do in the world that it
leaves. -/
theorem Stage.exists_of_rehearse_mapM_cons {α β : Type} {f : α → Stage Rehearsal β} {a : α}
    {rest : List α} {results : List β} {w v : World}
    (h : ((a :: rest).mapM f).rehearse w = (.ok results, v)) :
    ∃ b u more, (f a).rehearse w = (.ok b, u) ∧ (rest.mapM f).rehearse u = (.ok more, v) := by
  rw [List.mapM_cons] at h
  rcases rehearse_bind_eq_iff.mp h with ⟨b, u, hfirst, hrest⟩ | ⟨e, -, he⟩
  · rcases rehearse_bind_eq_iff.mp hrest with ⟨more, x, hmore, hlast⟩ | ⟨e, -, he⟩
    · obtain ⟨-, rfl⟩ := Prod.mk.injEq .. ▸ hlast
      exact ⟨b, u, more, hfirst, hmore⟩
    · cases he
  · cases he

namespace HomeDir

/-- The directory of a suite is there, and so is the directory of its templates. -/
structure Rooted (home : HomeDir) (fs : FileSystem) : Prop where
  walk : fs.walk (fs.origin home.root) home.root.names = .ok (fs.place home.root)
  root : fs.entry? (fs.place home.root) = some .directory
  templates : fs.entry? (fs.place (home.root.join "templates")) = some .directory

namespace Rooted

variable {home : HomeDir} {fs gs : FileSystem} {identifier name : String} {loc : Location}

/-- A name in the directory of a suite is followed to its place. -/
theorem walk_join (h : home.Rooted fs) (hname : Path.IsFileName name)
    (hshort : name.utf8ByteSize ≤ FileSystem.nameLimit) :
    fs.walk (fs.origin (home.root.join name)) (home.root.join name).names =
      .ok (fs.place (home.root.join name)) := by
  rw [FileSystem.origin_join hname.descends.relative, Path.names_join _ hname.descends.relative,
    hname.names_eq, FileSystem.walk_append, h.walk, Except.bind, FileSystem.walk_singleton,
    FileSystem.place_join_fileName hname]
  exact FileSystem.enter_eq_ok_iff.mpr
    ⟨h.root, (FileSystem.after_fileName hname).symm, .inr (.inr hshort)⟩

end Rooted

end HomeDir

namespace Renderer

variable {colours : Bool} {r : Renderer} {identifier other : String} {ids more : List String}
  {fs gs hs : FileSystem} {w v : World} {loc : Location} {text : String}

theorem isFileName_yaml (h : '/' ∉ identifier.toList) : Path.IsFileName (identifier ++ ".yaml") :=
  Path.isFileName_append h (by decide) (by decide)

theorem isFileName_template (h : '/' ∉ identifier.toList) :
    Path.IsFileName (identifier ++ ".yaml.j2") :=
  Path.isFileName_append h (by decide) (by decide)

theorem isFileName_deps : Path.IsFileName "deps" :=
  ⟨by decide, by decide, by decide, by decide⟩

theorem isFileName_templates : Path.IsFileName "templates" :=
  ⟨by decide, by decide, by decide, by decide⟩

/-- The place that a plain identifier is rendered to. -/
theorem place_renderedFile (home : HomeDir) (h : '/' ∉ identifier.toList) :
    fs.place (home.renderedFile identifier) =
      fs.place home.root ++ ["deps", identifier ++ ".yaml"] := by
  rw [HomeDir.renderedFile, FileSystem.place_join_fileName (isFileName_yaml h), place_depsDir,
    List.append_assoc]
  rfl

/-- The place of the template of a plain identifier. -/
theorem place_templateFile (home : HomeDir) (h : '/' ∉ identifier.toList) :
    fs.place (home.templateFile identifier) =
      fs.place home.root ++ ["templates", identifier ++ ".yaml.j2"] := by
  rw [HomeDir.templateFile, FileSystem.place_join_fileName (isFileName_template h),
    place_templates, List.append_assoc]
  rfl

/-- Different plain identifiers are rendered to different places. -/
theorem place_renderedFile_inj (home : HomeDir) (h : '/' ∉ identifier.toList)
    (k : '/' ∉ other.toList) :
    fs.place (home.renderedFile identifier) = fs.place (home.renderedFile other) ↔
      identifier = other := by
  rw [place_renderedFile home h, place_renderedFile home k]
  simp

theorem place_renderedFile_ne_depsDir (fs : FileSystem) (home : HomeDir)
    (h : '/' ∉ identifier.toList) :
    fs.place (home.renderedFile identifier) ≠ fs.place home.depsDir := by
  rw [place_renderedFile home h, place_depsDir]
  simp

/-- From one file system to another some identifiers were rendered: the directory for everything
rendered is there, each of the identifiers has its output, and nothing else is different. -/
structure Rendered (r : Renderer) (fs : FileSystem) (ids : List String) (gs : FileSystem) :
    Prop where
  plain : ∀ id ∈ ids, '/' ∉ id.toList
  workDir : gs.workDir = fs.workDir
  directories : ∀ loc, fs.entry? loc = some .directory → gs.entry? loc = some .directory
  deps : ids ≠ [] → gs.entry? (fs.place r.home.depsDir) = some .directory
  output : ∀ id ∈ ids, ∃ text, r.textIn fs id = .ok text ∧
    gs.entry? (fs.place (r.home.renderedFile id)) =
      some (.file text.toUTF8 (fs.runs (fs.place (r.home.renderedFile id))))
  located : ∀ id ∈ ids, ∃ loc, gs.locate (r.home.renderedFile id) = .ok loc
  other : ∀ loc, (ids ≠ [] → loc ≠ fs.place r.home.depsDir) →
    (∀ id ∈ ids, loc ≠ fs.place (r.home.renderedFile id)) → gs.entry? loc = fs.entry? loc

/-- A rendering that succeeds finds the directory of the suite and the one of its templates. -/
theorem rooted_of_textIn (hplain : '/' ∉ identifier.toList)
    (h : r.textIn fs identifier = .ok text) : r.home.Rooted fs := by
  obtain ⟨source, hread, -⟩ := textIn_eq_ok_iff_render.mp h
  obtain ⟨loc, executable, hlocate, -, -⟩ := FileSystem.readText_eq_ok_iff.mp hread
  obtain ⟨-, -, -, dir, hwalk, hdir, -⟩ :=
    (FileSystem.locate_join_iff (isFileName_template hplain)).mp hlocate
  obtain rfl : dir = fs.place (r.home.root.join "templates") := FileSystem.eq_foldl_of_walk hwalk
  rw [FileSystem.origin_join isFileName_templates.descends.relative,
    Path.names_join _ isFileName_templates.descends.relative, isFileName_templates.names_eq,
    FileSystem.walk_append] at hwalk
  cases hhome : fs.walk (fs.origin r.home.root) r.home.root.names with
  | error e =>
    rw [hhome] at hwalk
    cases hwalk
  | ok root =>
    rw [hhome, Except.bind, FileSystem.walk_singleton] at hwalk
    obtain rfl : root = fs.place r.home.root := FileSystem.eq_foldl_of_walk hhome
    exact ⟨hhome, (FileSystem.enter_eq_ok_iff.mp hwalk).1, hdir⟩

/-- Where the path of an output is no longer than paths may be, neither is the path of the directory
for everything rendered, which is in front of it. -/
theorem locate_depsDir (hroot : r.home.Rooted fs) (hplain : '/' ∉ identifier.toList)
    (hnul : '\x00' ∉ (r.home.renderedFile identifier).text.toList)
    (hsize : (r.home.renderedFile identifier).text.utf8ByteSize ≤ FileSystem.pathLimit) :
    fs.locate r.home.depsDir = .ok (fs.place r.home.depsDir) := by
  obtain ⟨rest, hrest⟩ :=
    Path.exists_text_join r.home.depsDir (isFileName_yaml hplain).descends.relative
  rw [HomeDir.renderedFile, hrest] at hnul hsize
  refine FileSystem.locate_eq_ok_iff.mpr ⟨fun hmem ↦ hnul ?_, fun hempty ↦ ?_, ?_, ?_⟩
  · rw [String.toList_append]
    exact List.mem_append_left _ hmem
  · have hnames := Path.names_of_text_empty hempty
    rw [HomeDir.depsDir, Path.names_join _ isFileName_deps.descends.relative,
      isFileName_deps.names_eq] at hnames
    simp at hnames
  · rw [String.utf8ByteSize_append] at hsize
    omega
  · exact hroot.walk_join isFileName_deps (by decide)

/-- Making the directory for everything rendered changes nothing but that directory. -/
theorem entry?_of_makeDirs_depsDir (hlocate : fs.locate r.home.depsDir = .ok (fs.place r.home.depsDir))
    (h : fs.makeDirs r.home.depsDir = (gs, .ok ())) :
    gs.entry? (fs.place r.home.depsDir) = some .directory ∧
      ∀ l, l ≠ fs.place r.home.depsDir → gs.entry? l = fs.entry? l := by
  rcases (FileSystem.makeDirs_eq_ok_iff hlocate).mp h with ⟨-, rfl⟩ | ⟨hthere, rfl⟩
  · refine ⟨FileSystem.entry?_put_self ?_, fun l hl ↦ FileSystem.entry?_put_of_ne hl⟩
    rw [place_depsDir]
    simp
  · exact ⟨hthere, fun l _ ↦ rfl⟩

/-- What one rendering does to a suite that is there. -/
theorem rendered_of_render {path : Path} (hplain : '/' ∉ identifier.toList)
    (h : (r.render (Rehearsal.machine colours) identifier).rehearse w = (.ok path, v)) :
    r.home.Rooted w.files ∧ r.Rendered w.files [identifier] v.files := by
  obtain ⟨text, fs, gs, htext, hdirs, hwrite, -, rfl⟩ := rehearse_render_eq_ok_iff.mp h
  have hroot := rooted_of_textIn hplain htext
  have hwritten := written_of_writeText hdirs hwrite
  obtain ⟨loc, executable, hlocate, -, -, rfl⟩ := FileSystem.writeText_eq_ok_iff.mp hwrite
  obtain ⟨hnul, -, hsize, -⟩ := FileSystem.locate_eq_ok_iff.mp hlocate
  obtain ⟨-, hmade⟩ := entry?_of_makeDirs_depsDir (locate_depsDir hroot hplain hnul hsize) hdirs
  have hplace : loc = w.files.place (r.home.renderedFile identifier) := by
    rw [FileSystem.eq_place_of_locate hlocate]
    exact FileSystem.place_congr hwritten.workDir _
  refine ⟨hroot, by simpa using hplain, hwritten.workDir, hwritten.directories, fun _ ↦ ?_, ?_, ?_, ?_⟩
  · obtain ⟨dir, hdir, hentry⟩ := FileSystem.isDirectory_eq_true_iff.mp hwritten.deps
    rw [FileSystem.eq_place_of_locate hdir, FileSystem.place_congr hwritten.workDir] at hentry
    exact hentry
  · rintro id hid
    obtain rfl := List.mem_singleton.mp hid
    exact ⟨text, htext, hwritten.output⟩
  · rintro id hid
    obtain rfl := List.mem_singleton.mp hid
    obtain ⟨out, -, hout, -⟩ := FileSystem.readText_eq_ok_iff.mp hwritten.readText
    exact ⟨out, hout⟩
  · intro l hl hout
    have hne : l ≠ loc := hplace ▸ hout _ (List.mem_singleton_self _)
    exact (FileSystem.entry?_put_of_ne hne).trans (hmade l (hl (List.cons_ne_nil _ _)))

namespace Rendered

theorem refl (r : Renderer) (fs : FileSystem) : r.Rendered fs [] fs where
  plain := by simp
  workDir := rfl
  directories _ h := h
  deps h := absurd rfl h
  output := by simp
  located := by simp
  other _ _ _ := rfl

/-- What is neither the directory for everything rendered nor in it stays as it is. -/
theorem entry?_template (h : r.Rendered fs ids gs) (hplain : '/' ∉ identifier.toList) :
    gs.entry? (fs.place (r.home.templateFile identifier)) =
      fs.entry? (fs.place (r.home.templateFile identifier)) := by
  refine h.other _ (fun _ ↦ ?_) fun id hid ↦ ?_
  · rw [place_templateFile _ hplain, place_depsDir]
    simp
  · rw [place_templateFile _ hplain, place_renderedFile _ (h.plain id hid)]
    simp

/-- What a template renders to is the same as before. -/
theorem textIn_eq_ok_iff (h : r.Rendered fs ids gs) (hroot : r.home.Rooted fs)
    (hplain : '/' ∉ identifier.toList) :
    r.textIn gs identifier = .ok text ↔ r.textIn fs identifier = .ok text := by
  have hlocate (loc : Location) : gs.locate (r.home.templateFile identifier) = .ok loc ↔
      fs.locate (r.home.templateFile identifier) = .ok loc := by
    refine ⟨fun hgs ↦ ?_, FileSystem.locate_mono h.workDir h.directories⟩
    rw [FileSystem.eq_place_of_locate hgs, FileSystem.place_congr h.workDir]
    exact FileSystem.locate_join_of_locate (hroot.walk_join isFileName_templates (by decide))
      hroot.templates (isFileName_template hplain) hgs
  have hread (source : String) : gs.readText (r.home.templateFile identifier) = .ok source ↔
      fs.readText (r.home.templateFile identifier) = .ok source := by
    simp only [FileSystem.readText_eq_ok_iff, hlocate]
    refine exists_congr fun loc ↦ exists_congr fun executable ↦ and_congr_right fun hloc ↦ ?_
    rw [FileSystem.eq_place_of_locate hloc, h.entry?_template hplain]
  rw [textIn_eq_ok_iff_render, textIn_eq_ok_iff_render]
  exact exists_congr fun source ↦ and_congr_left fun _ ↦ hread source

/-- The place of an output that was not rendered stays as it is. -/
theorem entry?_of_not_mem (h : r.Rendered fs ids gs) (hplain : '/' ∉ identifier.toList)
    (hid : identifier ∉ ids) :
    gs.entry? (fs.place (r.home.renderedFile identifier)) =
      fs.entry? (fs.place (r.home.renderedFile identifier)) := by
  refine h.other _ (fun _ ↦ place_renderedFile_ne_depsDir fs r.home hplain) fun id hmem ↦ ?_
  rw [Ne, place_renderedFile_inj _ hplain (h.plain id hmem)]
  rintro rfl
  exact hid hmem

/-- Whether a program stands where an output is put does not change. -/
theorem runs_eq (h : r.Rendered fs ids gs) (hplain : '/' ∉ identifier.toList) :
    gs.runs (fs.place (r.home.renderedFile identifier)) =
      fs.runs (fs.place (r.home.renderedFile identifier)) := by
  by_cases hid : identifier ∈ ids
  · obtain ⟨text, -, hentry⟩ := h.output identifier hid
    exact FileSystem.runs_of_file hentry
  · exact FileSystem.runs_congr (h.entry?_of_not_mem hplain hid)

/-- Renderings one after the other are the renderings of all their identifiers. -/
theorem append (h : r.Rendered fs ids gs) (k : r.Rendered gs more hs) (hroot : r.home.Rooted fs) :
    r.Rendered fs (ids ++ more) hs := by
  have hplace (p : Path) : gs.place p = fs.place p := FileSystem.place_congr h.workDir p
  refine ⟨?_, k.workDir.trans h.workDir, fun l hl ↦ k.directories l (h.directories l hl),
    fun hne ↦ ?_, fun id hid ↦ ?_, fun id hid ↦ ?_, fun l hl hout ↦ ?_⟩
  · exact List.forall_mem_append.mpr ⟨h.plain, k.plain⟩
  · by_cases hids : ids = []
    · have hmore : more ≠ [] := by simpa [hids] using hne
      rw [← hplace]
      exact k.deps hmore
    · exact k.directories _ (h.deps hids)
  · by_cases hmore : id ∈ more
    · obtain ⟨text, htext, hentry⟩ := k.output id hmore
      refine ⟨text, (h.textIn_eq_ok_iff hroot (k.plain id hmore)).mp htext, ?_⟩
      rw [← h.runs_eq (k.plain id hmore), ← hplace, hentry]
    · have hids : id ∈ ids := (List.mem_append.mp hid).resolve_right hmore
      obtain ⟨text, htext, hentry⟩ := h.output id hids
      have hsame := k.entry?_of_not_mem (h.plain id hids) hmore
      rw [hplace] at hsame
      exact ⟨text, htext, hsame.trans hentry⟩
  · by_cases hmore : id ∈ more
    · exact k.located id hmore
    · obtain ⟨loc, hlocate⟩ := h.located id ((List.mem_append.mp hid).resolve_right hmore)
      exact ⟨loc, FileSystem.locate_mono k.workDir k.directories hlocate⟩
  · have hsecond : hs.entry? l = gs.entry? l := by
      refine k.other l (fun hne ↦ ?_) fun id hid ↦ ?_
      · rw [hplace]
        exact hl (List.append_ne_nil_of_right_ne_nil _ hne)
      · rw [hplace]
        exact hout id (List.mem_append_right _ hid)
    refine hsecond.trans (h.other l (fun hne ↦ ?_) fun id hid ↦ ?_)
    · exact hl (List.append_ne_nil_of_left_ne_nil hne _)
    · exact hout id (List.mem_append_left _ hid)

/-- The output of an identifier that was rendered can be read. -/
theorem readText_eq_ok (h : r.Rendered fs ids gs) (hid : identifier ∈ ids) :
    ∃ text, r.textIn fs identifier = .ok text ∧
      gs.readText (r.home.renderedFile identifier) = .ok text := by
  obtain ⟨text, htext, hentry⟩ := h.output identifier hid
  obtain ⟨loc, hlocate⟩ := h.located identifier hid
  have hslash := Path.endsInSlash_join r.home.depsDir (isFileName_yaml (h.plain identifier hid))
  obtain rfl : loc = fs.place (r.home.renderedFile identifier) :=
    (FileSystem.eq_place_of_locate hlocate).trans (FileSystem.place_congr h.workDir _)
  exact ⟨text, htext, FileSystem.readText_eq_ok_iff.mpr ⟨_, _, hlocate, hslash, hentry⟩⟩

/-- What is there after renderings is told by which identifiers were rendered. -/
theorem same (h : r.Rendered fs ids gs) (k : r.Rendered fs more hs)
    (hsame : ∀ id, id ∈ ids ↔ id ∈ more) : gs.Same hs := by
  refine ⟨h.workDir.trans k.workDir.symm, fun l ↦ ?_⟩
  have hnil : ids = [] ↔ more = [] := by
    rw [List.eq_nil_iff_forall_not_mem, List.eq_nil_iff_forall_not_mem]
    exact forall_congr' fun id ↦ not_congr (hsame id)
  by_cases hout : ∃ id ∈ ids, l = fs.place (r.home.renderedFile id)
  · obtain ⟨id, hid, rfl⟩ := hout
    obtain ⟨text, htext, hentry⟩ := h.output id hid
    obtain ⟨text', htext', hentry'⟩ := k.output id ((hsame id).mp hid)
    obtain rfl := Except.ok.inj (htext.symm.trans htext')
    rw [hentry, hentry']
  · have hids : ∀ id ∈ ids, l ≠ fs.place (r.home.renderedFile id) :=
      fun id hid heq ↦ hout ⟨id, hid, heq⟩
    have hmore : ∀ id ∈ more, l ≠ fs.place (r.home.renderedFile id) :=
      fun id hid ↦ hids id ((hsame id).mpr hid)
    by_cases hdeps : ids ≠ [] ∧ l = fs.place r.home.depsDir
    · obtain ⟨hne, rfl⟩ := hdeps
      rw [h.deps hne, k.deps (mt hnil.mpr hne)]
    · have hother : ids ≠ [] → l ≠ fs.place r.home.depsDir := not_and.mp hdeps
      rw [h.other l hother hids, k.other l (hother ∘ mt hnil.mp) hmore]

end Rendered

/-- A run of renderings that all succeed does to the files what its identifiers say. -/
theorem rendered_of_mapM {paths : List Path} (hplain : ∀ id ∈ ids, '/' ∉ id.toList)
    (h : (ids.mapM (r.render (Rehearsal.machine colours))).rehearse w = (.ok paths, v)) :
    r.Rendered w.files ids v.files := by
  induction ids generalizing w paths with
  | nil =>
    obtain ⟨-, rfl⟩ := Prod.mk.injEq .. ▸ h
    exact .refl r w.files
  | cons id rest ih =>
    obtain ⟨hid, hrest⟩ := List.forall_mem_cons.mp hplain
    obtain ⟨path, u, more, hfirst, hothers⟩ := Stage.exists_of_rehearse_mapM_cons h
    obtain ⟨hroot, hone⟩ := rendered_of_render hid hfirst
    exact hone.append (ih hrest hothers) hroot

/-- A plain identifier can be rendered: its template is there and renders, its output is no longer than
paths may be, and nothing stands in the way. -/
structure Renderable (r : Renderer) (fs : FileSystem) (identifier : String) : Prop where
  plain : '/' ∉ identifier.toList
  renders : ∃ text, r.textIn fs identifier = .ok text
  deps : fs.entry? (fs.place r.home.depsDir) = none ∨
    fs.entry? (fs.place r.home.depsDir) = some .directory
  output : fs.entry? (fs.place (r.home.renderedFile identifier)) ≠ some .directory
  noNul : '\x00' ∉ (r.home.renderedFile identifier).text.toList
  fits : (r.home.renderedFile identifier).text.utf8ByteSize ≤ FileSystem.pathLimit ∧
    (identifier ++ ".yaml").utf8ByteSize ≤ FileSystem.nameLimit

namespace Renderable

/-- What can be rendered is rendered. -/
theorem exists_render (h : r.Renderable w.files identifier) (colours : Bool) :
    ∃ path v, (r.render (Rehearsal.machine colours) identifier).rehearse w = (.ok path, v) := by
  obtain ⟨text, htext⟩ := h.renders
  have hroot := rooted_of_textIn h.plain htext
  have hdeps := locate_depsDir hroot h.plain h.noNul h.fits.1
  obtain ⟨fs, hdirs⟩ : ∃ fs, w.files.makeDirs r.home.depsDir = (fs, .ok ()) := by
    rcases h.deps with hnone | hthere
    · exact ⟨_, (FileSystem.makeDirs_eq_ok_iff hdeps).mpr (.inl ⟨hnone, rfl⟩)⟩
    · exact ⟨_, (FileSystem.makeDirs_eq_ok_iff hdeps).mpr (.inr ⟨hthere, rfl⟩)⟩
  obtain ⟨hmade, hother⟩ := entry?_of_makeDirs_depsDir hdeps hdirs
  have hextends := w.files.extends_makeDirs r.home.depsDir
  rw [hdirs] at hextends
  have hwalk := (FileSystem.locate_eq_ok_iff.mp
    (FileSystem.locate_mono hextends.workDir (fun l ↦ hextends.entry?_of_some) hdeps)).2.2.2
  have hlocate := (FileSystem.locate_join_iff (isFileName_yaml h.plain)).mpr
    ⟨h.noNul, h.fits.1, h.fits.2, _, hwalk, hmade, rfl⟩
  rw [← FileSystem.place_join_fileName (isFileName_yaml h.plain)] at hlocate
  have hslash := Path.endsInSlash_join r.home.depsDir (isFileName_yaml h.plain)
  have houtput := h.output
  rw [← hother _ (place_renderedFile_ne_depsDir w.files r.home h.plain)] at houtput
  obtain ⟨executable, hbefore⟩ := FileSystem.exists_of_ne_directory houtput
  exact ⟨_, _, rehearse_render_eq_ok_iff.mpr ⟨text, fs, _, htext, hdirs,
    FileSystem.writeText_eq_ok_iff.mpr ⟨_, executable, hlocate, hslash, hbefore, rfl⟩, rfl, rfl⟩⟩

/-- What can be rendered still can after other renderings. -/
theorem after (h : r.Renderable fs identifier) (k : r.Rendered fs ids gs) :
    r.Renderable gs identifier where
  plain := h.plain
  renders := by
    obtain ⟨text, htext⟩ := h.renders
    have hroot := rooted_of_textIn h.plain htext
    exact ⟨text, (k.textIn_eq_ok_iff hroot h.plain).mpr htext⟩
  deps := by
    rw [FileSystem.place_congr k.workDir]
    by_cases hids : ids = []
    · have hsame := k.other (fs.place r.home.depsDir) (absurd hids) (by simp [hids])
      rw [hsame]
      exact h.deps
    · exact .inr (k.deps hids)
  output := by
    rw [FileSystem.place_congr k.workDir]
    by_cases hid : identifier ∈ ids
    · obtain ⟨text, -, hentry⟩ := k.output identifier hid
      simp [hentry]
    · rw [k.entry?_of_not_mem h.plain hid]
      exact h.output
  noNul := h.noNul
  fits := h.fits

end Renderable

/-- Where each of some identifiers can be rendered at first, all of them can be rendered in a row. -/
theorem exists_mapM_of_renderable (colours : Bool) (h : ∀ id ∈ ids, r.Renderable w.files id) :
    ∃ paths v, (ids.mapM (r.render (Rehearsal.machine colours))).rehearse w = (.ok paths, v) := by
  induction ids generalizing w with
  | nil => exact ⟨[], w, rfl⟩
  | cons id rest ih =>
    obtain ⟨hid, hrest⟩ := List.forall_mem_cons.mp h
    obtain ⟨path, u, hfirst⟩ := hid.exists_render colours
    obtain ⟨-, hone⟩ := rendered_of_render hid.plain hfirst
    obtain ⟨paths, v, hothers⟩ := ih fun id hmem ↦ (hrest id hmem).after hone
    refine ⟨path :: paths, v, ?_⟩
    rw [List.mapM_cons, Stage.rehearse_bind, hfirst]
    dsimp only
    rw [Stage.rehearse_bind, hothers]
    rfl

/-- Two runs of renderings under the same plain identifiers, in any order and with any of them
rendered more than once, leave the same files where all of them succeed: each output is what its
template rendered to before. -/
theorem files_of_renderings {ids' : List String} {paths paths' : List Path} {v' : World}
    (hids : ∀ id, id ∈ ids ↔ id ∈ ids') (hplain : ∀ id ∈ ids, '/' ∉ id.toList)
    (h : (ids.mapM (r.render (Rehearsal.machine colours))).rehearse w = (.ok paths, v))
    (h' : (ids'.mapM (r.render (Rehearsal.machine colours))).rehearse w = (.ok paths', v')) :
    v.files.Same v'.files ∧
      ∀ id ∈ ids, ∃ text, r.textIn w.files id = .ok text ∧
        v.files.readText (r.home.renderedFile id) = .ok text := by
  have hfirst := rendered_of_mapM hplain h
  have hsecond := rendered_of_mapM (fun id hid ↦ hplain id ((hids id).mpr hid)) h'
  exact ⟨hfirst.same hsecond hids, fun id hid ↦ hfirst.readText_eq_ok hid⟩

section Suite

/-- A suite with two templates. -/
def pairWorld : World :=
  ⟨⟨[(["suite"], .directory), (["suite", "templates"], .directory),
    (["suite", "templates", "service.yaml.j2"], .file "a: 1".toUTF8 false),
    (["suite", "templates", "route.yaml.j2"], .file "b: 2".toUTF8 false)], []⟩, .smooth, #[]⟩

private theorem renderable_pair (source : String) {loc : Location}
    (hplain : '/' ∉ identifier.toList)
    (hlocate : pairWorld.files.locate (suiteRenderer.home.templateFile identifier) = .ok loc)
    (hslash : (suiteRenderer.home.templateFile identifier).endsInSlash = false)
    (hentry : pairWorld.files.entry? loc = some (.file source.toUTF8 false))
    (hsource : Template.Plain source.toList)
    (hnone : pairWorld.files.entry?
      (pairWorld.files.place (suiteRenderer.home.renderedFile identifier)) = none)
    (hnul : '\x00' ∉ (suiteRenderer.home.renderedFile identifier).text.toList)
    (hsize : (suiteRenderer.home.renderedFile identifier).text.utf8ByteSize ≤ FileSystem.pathLimit ∧
      (identifier ++ ".yaml").utf8ByteSize ≤ FileSystem.nameLimit) :
    suiteRenderer.Renderable pairWorld.files identifier where
  plain := hplain
  renders := ⟨source, textIn_eq_ok_iff_render.mpr
    ⟨source, FileSystem.readText_eq_ok_iff.mpr ⟨loc, false, hlocate, hslash, hentry⟩,
      Template.render_of_plain _ _ hsource⟩⟩
  deps := .inl (by rw [place_depsDir]; decide +kernel)
  output := by simp [hnone]
  noNul := hnul
  fits := hsize

/-- Two templates, rendered in one order and then in the other with one of them twice. -/
theorem files_of_renderings_pair :
    ∃ paths v paths' v',
      (["service", "route"].mapM (suiteRenderer.render (Rehearsal.machine false))).rehearse
        pairWorld = (.ok paths, v) ∧
      (["route", "service", "route"].mapM
        (suiteRenderer.render (Rehearsal.machine false))).rehearse pairWorld = (.ok paths', v') ∧
      v.files.Same v'.files := by
  have hservice : suiteRenderer.Renderable pairWorld.files "service" :=
    renderable_pair "a: 1" (by decide)
      (FileSystem.locate_of_names ["suite", "templates", "service.yaml.j2"] rfl (by decide +kernel)
        (by decide +kernel) rfl)
      (by decide +kernel) rfl ⟨⟨by decide, by decide⟩, by decide⟩ (by decide +kernel) (by decide +kernel)
      (by decide +kernel)
  have hroute : suiteRenderer.Renderable pairWorld.files "route" :=
    renderable_pair "b: 2" (by decide)
      (FileSystem.locate_of_names ["suite", "templates", "route.yaml.j2"] rfl (by decide +kernel)
        (by decide +kernel) rfl)
      (by decide +kernel) rfl ⟨⟨by decide, by decide⟩, by decide⟩ (by decide +kernel) (by decide +kernel)
      (by decide +kernel)
  have hpair (ids : List String) (h : ∀ id ∈ ids, id = "service" ∨ id = "route") :
      ∀ id ∈ ids, suiteRenderer.Renderable pairWorld.files id := by
    intro id hid
    rcases h id hid with rfl | rfl
    · exact hservice
    · exact hroute
  obtain ⟨paths, v, hfirst⟩ :=
    exists_mapM_of_renderable false (hpair ["service", "route"] (by simp))
  obtain ⟨paths', v', hsecond⟩ :=
    exists_mapM_of_renderable false (hpair ["route", "service", "route"] (by simp))
  have hids (id : String) : id ∈ ["service", "route"] ↔ id ∈ ["route", "service", "route"] := by
    simp only [List.mem_cons, List.not_mem_nil, or_false]
    tauto
  exact ⟨paths, v, paths', v', hfirst, hsecond,
    (files_of_renderings hids (by decide) hfirst hsecond).1⟩

end Suite

end Renderer

end ClusterProbe
