import ClusterProbe.Proofs.Run.RenderingOrder
import ClusterProbe.Proofs.Run.Verification

/-!
# Before the cluster is touched

A run checks six things in order: the settings, what the command line puts over them, the values of
the suite, its test cases, the names that were asked for, and the program that speaks to the cluster.
What each check comes to is told by the files alone. Main statement: whatever programs and network
would do, the run ends with the error of the first check that fails, and then it has printed lines
and rendered the list of test cases and done nothing else; if no check fails, the run is that of the
chosen test cases with the settings that were checked, up to the first of them that fails.
-/

namespace ClusterProbe

namespace Path

/-- What is put in front of the relative paths that are joined to a path. -/
theorem exists_front_join (p : Path) :
    ∃ front, ∀ q, (Path.mk q).isAbsolute = false → (p.join q).text = front ++ q := by
  by_cases hempty : p.text = ""
  · exact ⟨"", fun q hq ↦ by rw [join, hq, hempty]; simp⟩
  · by_cases hslash : (p.text.toList.getLast? == some '/') = true
    · exact ⟨p.text, fun q hq ↦ by rw [join, hq]; simp [hempty, hslash]⟩
    · exact ⟨p.text ++ "/", fun q hq ↦ by rw [join, hq]; simp [hempty, hslash]⟩

end Path

namespace FileSystem

variable {fs gs : FileSystem} {p : Path} {loc : Location}

/-- Where a path leads somewhere and its directory cannot be made, nothing changes. -/
theorem eq_of_makeDirs_error {e : IoFailure} (h : fs.locate p = .ok loc)
    (hmake : fs.makeDirs p = (gs, .error e)) : gs = fs := by
  cases hentry : fs.entry? loc with
  | none =>
    rw [(makeDirs_eq_ok_iff h).mpr (.inl ⟨hentry, rfl⟩)] at hmake
    cases hmake
  | some what =>
    have hrefused : fs.makeDir p = .error .fileExists := by
      rw [makeDir, h]
      simp [bind, Except.bind, hentry]
    unfold makeDirs makeDirsFrom at hmake
    simp only [hrefused] at hmake
    by_cases hempty : p.text.isEmpty = true
    · rw [if_pos hempty] at hmake
      cases hmake
    · rw [if_neg hempty] at hmake
      by_cases hthere : fs.isDirectory p = true
      · rw [if_pos hthere] at hmake
        cases hmake
      · rw [if_neg hthere] at hmake
        exact (Prod.mk.inj hmake).1.symm

/-- The text of a file that is needed, or the error that a run ends with where it cannot be read. -/
def needed (fs : FileSystem) (p : Path) : Except Error String :=
  (fs.readText p).mapError fun e ↦ .fileRead p.text e.message

end FileSystem

/-! ### What the checks come to -/

/-- The settings by the files that there are. -/
def Environment.settingsIn (e : Environment) (fs : FileSystem) : Except Error Settings :=
  match e.settingsFile with
  | none => .ok .standard
  | some file => if fs.contains file then (fs.needed file).bind Settings.parse else .ok .standard

/-- The program that speaks to the cluster, by the paths that programs stand at. -/
def Environment.kubectlIn (e : Environment) (isProgram : Path → Bool) (program : String) :
    Except Error Kubectl :=
  match (e.candidates ⟨program⟩).find? isProgram with
  | some p => .ok ⟨p, e.kubeconfigPath⟩
  | none => .error (.kubectlNotFound program)

namespace Renderer

/-- The renderer of a suite by the files that there are. -/
def loadIn (home : HomeDir) (fs : FileSystem) : Except Error Renderer :=
  (fs.needed home.valuesFile).bind fun text ↦ (readValues home.valuesFile text).map (Renderer.mk home)

/-- The renderer of a suite is one for its directory. -/
theorem home_of_loadIn {home : HomeDir} {fs : FileSystem} {r : Renderer}
    (h : loadIn home fs = .ok r) : r.home = home := by
  unfold loadIn at h
  cases htext : fs.needed home.valuesFile with
  | error e =>
    rw [htext] at h
    cases h
  | ok text =>
    rw [htext, Except.bind] at h
    cases hvalues : readValues home.valuesFile text with
    | error e =>
      rw [hvalues] at h
      cases h
    | ok values =>
      rw [hvalues] at h
      exact (congrArg Renderer.home (Except.ok.inj h)).symm

/-- The test cases of a suite by the files that there are. -/
def suiteIn (r : Renderer) (fs : FileSystem) : Except Error (List TestCase) :=
  (r.renderIn fs Suite.testcases).1.bind Suite.parse

end Renderer

/-- What each check before a run comes to. A check that asks for the result of an earlier one which
fails comes to the same error. -/
structure Checks where
  settings : Except Error Settings
  overridden : Except Error Settings
  renderer : Except Error Renderer
  suite : Except Error (List TestCase)
  chosen : Except Error (List TestCase)
  kubectl : Except Error Kubectl

namespace Checks

/-- The error of a check that fails. -/
def failure? {α : Type} : Except Error α → Option Error
  | .ok _ => none
  | .error e => some e

/-- The error of the first check that fails. -/
def firstFailure? (c : Checks) : Option Error :=
  [failure? c.settings, failure? c.overridden, failure? c.renderer, failure? c.suite,
    failure? c.chosen, failure? c.kubectl].findSome? id

/-- What the checks come to by the files that there are. Programs are looked for once the list of
test cases is rendered. -/
def ofFiles (environment : Environment) (isProgram : FileSystem → Path → Bool) (home : HomeDir)
    (names : List String) (overrides : Overrides) (fs : FileSystem) : Checks :=
  let settings := environment.settingsIn fs
  let overridden := settings.bind fun s ↦ s.withOverrides overrides
  let renderer := Renderer.loadIn home fs
  let suite := renderer.bind fun r ↦ r.suiteIn fs
  let rendered := match renderer with
    | .ok r => (r.renderIn fs Suite.testcases).2
    | .error _ => fs
  { settings, overridden, renderer, suite,
    chosen := suite.bind fun cases ↦ Suite.filter cases names
    kubectl := overridden.bind fun s ↦ environment.kubectlIn (isProgram rendered) s.kubectl }

/-- The first failure is found by going from check to check. -/
theorem firstFailure?_ofFiles (environment : Environment) (isProgram : FileSystem → Path → Bool)
    (home : HomeDir) (names : List String) (overrides : Overrides) (fs : FileSystem) :
    (ofFiles environment isProgram home names overrides fs).firstFailure? =
      match environment.settingsIn fs with
      | .error e => some e
      | .ok found =>
        match found.withOverrides overrides with
        | .error e => some e
        | .ok settings =>
          match Renderer.loadIn home fs with
          | .error e => some e
          | .ok renderer =>
            match renderer.suiteIn fs with
            | .error e => some e
            | .ok loaded =>
              match Suite.filter loaded names with
              | .error e => some e
              | .ok _ => failure? (environment.kubectlIn
                  (isProgram (renderer.renderIn fs Suite.testcases).2) settings.kubectl) := by
  unfold firstFailure? ofFiles
  cases environment.settingsIn fs with
  | error e => rfl
  | ok found =>
  cases hoverridden : found.withOverrides overrides with
  | error e => simp [failure?, Except.bind, hoverridden]
  | ok settings =>
  cases Renderer.loadIn home fs with
  | error e => simp [failure?, Except.bind, hoverridden]
  | ok renderer =>
  cases hsuite : renderer.suiteIn fs with
  | error e => simp [failure?, Except.bind, hoverridden, hsuite]
  | ok loaded =>
  cases hchosen : Suite.filter loaded names with
  | error e => simp [failure?, Except.bind, hoverridden, hsuite, hchosen]
  | ok cases => simp [failure?, Except.bind, hoverridden, hsuite, hchosen]

end Checks

namespace World

@[simp] theorem files_print (w : World) (lines : List String) : (w.print lines).files = w.files := by
  induction lines generalizing w with
  | nil => rfl
  | cons line rest ih => exact ih (w.push (.line line))

@[simp] theorem script_print (w : World) (lines : List String) :
    (w.print lines).script = w.script := by
  induction lines generalizing w with
  | nil => rfl
  | cons line rest ih => exact ih (w.push (.line line))

/-- From one world to another there were lines on the console and the list of test cases was rendered,
if anything happened at all. No file is different but that list, and no directory but the one that
it is in. -/
structure Prepared (home : HomeDir) (w v : World) : Prop where
  script : v.script = w.script
  workDir : v.files.workDir = w.files.workDir
  history : ∃ events, v.history.toList = w.history.toList ++ events ∧
    ∀ e ∈ events, (∃ text, e = .line text) ∨
      ∃ text, e = .wrote (home.renderedFile Suite.testcases) text
  deps : v.files.entry? (w.files.place home.depsDir) = w.files.entry? (w.files.place home.depsDir) ∨
    w.files.entry? (w.files.place home.depsDir) = none ∧
      v.files.entry? (w.files.place home.depsDir) = some .directory
  other : ∀ loc, loc ≠ w.files.place home.depsDir →
    loc ≠ w.files.place (home.renderedFile Suite.testcases) →
      v.files.entry? loc = w.files.entry? loc

namespace Prepared

variable {home : HomeDir} {u v w : World}

theorem refl (home : HomeDir) (w : World) : Prepared home w w where
  script := rfl
  workDir := rfl
  history := ⟨[], (List.append_nil _).symm, by simp⟩
  deps := .inl rfl
  other _ _ _ := rfl

theorem trans (h : Prepared home u v) (k : Prepared home v w) : Prepared home u w := by
  have hplace (p : Path) : v.files.place p = u.files.place p := FileSystem.place_congr h.workDir p
  obtain ⟨before, hbefore, hprepares⟩ := h.history
  obtain ⟨after, hafter, hprepares'⟩ := k.history
  have hdeps := k.deps
  rw [hplace] at hdeps
  refine ⟨k.script.trans h.script, k.workDir.trans h.workDir,
    ⟨before ++ after, ?_, List.forall_mem_append.mpr ⟨hprepares, hprepares'⟩⟩, ?_, fun l hl hl' ↦ ?_⟩
  · rw [hafter, hbefore, List.append_assoc]
  · rcases h.deps with heq | ⟨hnone, hdir⟩
    · rw [← heq]
      exact hdeps
    · rcases hdeps with heq | ⟨hnone', -⟩
      · exact .inr ⟨hnone, heq.trans hdir⟩
      · rw [hdir] at hnone'
        cases hnone'
  · refine (k.other l ?_ ?_).trans (h.other l hl hl')
    · rw [hplace]
      exact hl
    · rw [hplace]
      exact hl'

/-- Lines may be printed. -/
theorem print (home : HomeDir) (w : World) (lines : List String) :
    Prepared home w (w.print lines) := by
  refine ⟨script_print w lines, by rw [files_print], ⟨lines.map .line, ?_, ?_⟩,
    .inl (by rw [files_print]), fun _ _ _ ↦ by rw [files_print]⟩
  · rw [print_eq_record, toList_history_record]
  · intro e he
    obtain ⟨line, -, rfl⟩ := List.mem_map.mp he
    exact .inl ⟨line, rfl⟩

/-- Of all that happens, neither lines nor files that are written are seen by an observer of
anything else. -/
theorem filterMap_history {α : Type} {f : Event → Option α} (h : Prepared home w v)
    (hline : ∀ text, f (.line text) = none) (hwrote : ∀ p text, f (.wrote p text) = none) :
    v.history.toList.filterMap f = w.history.toList.filterMap f := by
  obtain ⟨events, hevents, hprepares⟩ := h.history
  have hnothing : events.filterMap f = [] := by
    rw [List.filterMap_eq_nil_iff]
    intro e he
    rcases hprepares e he with ⟨text, rfl⟩ | ⟨text, rfl⟩
    · exact hline text
    · exact hwrote _ text
  rw [hevents, List.filterMap_append, hnothing, List.append_nil]

/-- Nothing was asked of the cluster or of the service. -/
theorem quiet (h : Prepared home w v) : w.Quiet v :=
  ⟨h.filterMap_history (fun _ ↦ rfl) fun _ _ ↦ rfl, h.filterMap_history (fun _ ↦ rfl) fun _ _ ↦ rfl⟩

/-- No program was started. -/
theorem started_eq (h : Prepared home w v) : v.started = w.started :=
  h.filterMap_history (fun _ ↦ rfl) fun _ _ ↦ rfl

end Prepared

end World

/-! ### The checks in a rehearsal -/

namespace Renderer

variable {r : Renderer} {fs : FileSystem} {identifier text : String}

/-- Where a template is read, the directory for everything rendered can be located beside the one for
templates: its path is no longer. -/
theorem locate_depsDir_of_textIn (hplain : '/' ∉ identifier.toList)
    (h : r.textIn fs identifier = .ok text) :
    fs.locate r.home.depsDir = .ok (fs.place r.home.depsDir) := by
  have hroot := rooted_of_textIn hplain h
  obtain ⟨source, hread, -⟩ := textIn_eq_ok_iff_render.mp h
  obtain ⟨loc, executable, hlocate, -, -⟩ := FileSystem.readText_eq_ok_iff.mp hread
  obtain ⟨hnul, -, hsize, -⟩ := FileSystem.locate_eq_ok_iff.mp hlocate
  obtain ⟨front, hfront⟩ := r.home.root.exists_front_join
  obtain ⟨more, hmore⟩ := (r.home.root.join "templates").exists_text_join
    (isFileName_template hplain).descends.relative
  have hdeps : r.home.depsDir.text = front ++ "deps" :=
    hfront _ isFileName_deps.descends.relative
  rw [HomeDir.templateFile, hmore, hfront _ isFileName_templates.descends.relative] at hnul hsize
  simp only [String.toList_append, List.mem_append, String.utf8ByteSize_append] at hnul hsize
  refine (FileSystem.locate_join_iff isFileName_deps).mpr
    ⟨?_, ?_, by decide, fs.place r.home.root, hroot.walk, hroot.root, ?_⟩
  · rw [← HomeDir.depsDir, hdeps, String.toList_append, List.mem_append, not_or]
    exact ⟨fun hmem ↦ hnul (.inl (.inl hmem)), by decide⟩
  · have hshorter : "deps".utf8ByteSize ≤ "templates".utf8ByteSize := by decide
    rw [← HomeDir.depsDir, hdeps, String.utf8ByteSize_append]
    omega
  · exact place_depsDir fs r.home

/-- The list of test cases is rendered as the files say. Nothing else is changed but the directory
that it is in. -/
theorem rehearse_render_testcases (colours : Bool) (r : Renderer) (w : World) :
    ∃ v, (r.render (Rehearsal.machine colours) Suite.testcases).rehearse w =
        ((r.renderIn w.files Suite.testcases).1.map fun _ ↦ r.home.renderedFile Suite.testcases, v) ∧
      v.files = (r.renderIn w.files Suite.testcases).2 ∧ w.Prepared r.home v := by
  have hplain : '/' ∉ Suite.testcases.toList := by decide
  have hrun := r.rehearse_render colours Suite.testcases w
  unfold renderIn
  cases htext : r.textIn w.files Suite.testcases with
  | error e =>
    rw [htext] at hrun
    exact ⟨w, hrun, rfl, .refl _ w⟩
  | ok text =>
    have hlocate := locate_depsDir_of_textIn hplain htext
    rcases hmake : w.files.makeDirs r.home.depsDir with ⟨gs, e | _⟩
    · rw [htext, hmake] at hrun
      obtain rfl := FileSystem.eq_of_makeDirs_error hlocate hmake
      exact ⟨w, hrun, rfl, .refl _ w⟩
    · obtain ⟨hdeps, hother⟩ := entry?_of_makeDirs_depsDir hlocate hmake
      have hextends := w.files.extends_makeDirs r.home.depsDir
      rw [hmake] at hextends
      cases hwrite : gs.writeText (r.home.renderedFile Suite.testcases) text with
      | error e =>
        simp only [htext, hmake, hwrite] at hrun ⊢
        refine ⟨_, hrun, rfl, ⟨rfl, hextends.workDir, ⟨[], (List.append_nil _).symm, by simp⟩,
          hextends.entry _, fun l hl _ ↦ hother l hl⟩⟩
      | ok hs =>
        simp only [htext, hmake, hwrite] at hrun ⊢
        obtain ⟨-, hrendered⟩ := rendered_of_render hplain hrun
        refine ⟨_, hrun, rfl, ⟨rfl, hrendered.workDir, ⟨_, World.toList_history_push .., ?_⟩, ?_,
          fun l hl hl' ↦ ?_⟩⟩
        · simp
        · have hthere := hrendered.deps (List.cons_ne_nil _ _)
          rcases (FileSystem.makeDirs_eq_ok_iff hlocate).mp hmake with ⟨hnone, -⟩ | ⟨hbefore, -⟩
          · exact .inr ⟨hnone, hthere⟩
          · exact .inl (hthere.trans hbefore.symm)
        · exact hrendered.other l (fun _ ↦ hl) (by simpa using hl')

end Renderer

namespace Rehearsal

/-- A host with arbitrary programs and an arbitrary network. What stands where is seen in the files. -/
def hostWith (colours : Bool) (environment : Environment) (isProgram : FileSystem → Path → Bool)
    (start : Path → List String → Rehearsal (Except IoFailure ProcessResult))
    (send : Client → Request → Rehearsal Exchange) : Host Rehearsal :=
  ⟨machine colours, ⟨fun p ↦ return isProgram (← get).files p, start⟩, ⟨send⟩, environment⟩

example (colours : Bool) (environment : Environment) :
    host colours environment =
      hostWith colours environment FileSystem.isProgram start fun _ _ ↦ return .unanswered := rfl

end Rehearsal

/-- The runner of a host with everything that was checked. -/
def Host.runner {m : Type → Type} [Monad m] (h : Host m) (settings : Settings) (renderer : Renderer)
    (kubectl : Kubectl) : Runner m :=
  .ofSettings h.machine renderer (kubectl.cluster h.machine h.programs)
    (h.network.probe ⟨settings.requestTimeout, settings.insecure⟩) settings

/-- Of the test cases of a run, those in front of one that fails are carried out and that one is, or
else all of them. Those in front are counted. -/
theorem Runner.runCases_stops (r : Runner Rehearsal) (passed : Nat) (cases : List TestCase)
    (w : World) :
    ∃ finished rest u, cases = finished ++ rest ∧
      (r.runCases passed finished).rehearse w = (.ok (passed + finished.length), u) ∧
      (rest = [] ∧ (r.runCases passed cases).rehearse w = (.ok (passed + finished.length), u) ∨
        ∃ c later e v, rest = c :: later ∧ (r.runCase c).rehearse u = (.error e, v) ∧
          (r.runCases passed cases).rehearse w = (.error e, v)) := by
  induction cases generalizing passed w with
  | nil => exact ⟨[], [], w, rfl, rfl, .inl ⟨rfl, rfl⟩⟩
  | cons c later ih =>
    rcases hcase : (r.runCase c).rehearse w with ⟨e | _, v⟩
    · refine ⟨[], c :: later, w, rfl, rfl, .inr ⟨c, later, e, v, rfl, hcase, ?_⟩⟩
      rw [Partners.rehearse_runCases_cons, hcase]
    · have hcons (more : List TestCase) : (r.runCases passed (c :: more)).rehearse w =
          (r.runCases (passed + 1) more).rehearse v := by
        rw [Partners.rehearse_runCases_cons, hcase]
      obtain ⟨finished, rest, u, rfl, hfinished, hend⟩ := ih (passed + 1) v
      rw [Nat.add_right_comm, Nat.add_assoc passed] at hfinished hend
      refine ⟨c :: finished, rest, u, rfl, (hcons finished).trans hfinished, ?_⟩
      rw [hcons]
      exact hend

namespace Host

variable {colours : Bool} {environment : Environment} {isProgram : FileSystem → Path → Bool}
  {start : Path → List String → Rehearsal (Except IoFailure ProcessResult)}
  {send : Client → Request → Rehearsal Exchange}

/-- A file that is needed is read, and the run goes on with its text or ends. -/
theorem rehearse_read_bind {α : Type} (p : Path) (f : String → Except Error α) (w : World) :
    ((Rehearsal.machine colours).read p >>= fun text ↦ Stage.ofExcept (f text)).rehearse w =
      ((w.files.needed p).bind f, w) := by
  rw [Stage.rehearse_bind, Rehearsal.rehearse_read, FileSystem.needed]
  cases w.files.readText p <;> rfl

/-- Settings are loaded as the files say. -/
theorem rehearse_loadSettings (w : World) :
    (Rehearsal.hostWith colours environment isProgram start send).loadSettings.rehearse w =
      (environment.settingsIn w.files, w) := by
  have henvironment :
    (Rehearsal.hostWith colours environment isProgram start send).environment = environment := rfl
  rw [loadSettings, henvironment, Environment.settingsIn]
  cases environment.settingsFile with
  | none => rfl
  | some file =>
    have hcontains : ((Rehearsal.hostWith colours environment isProgram start send).machine.contains
      file).run w = (w.files.contains file, w) := rfl
    dsimp only
    rw [Stage.rehearse_bind, Stage.rehearse_lift, hcontains]
    cases w.files.contains file
    · rfl
    · exact rehearse_read_bind file Settings.parse w

/-- The values of a suite are loaded as the files say. -/
theorem rehearse_load (home : HomeDir) (w : World) :
    (Renderer.load (Rehearsal.machine colours) home).rehearse w =
      (Renderer.loadIn home w.files, w) := by
  rw [Renderer.load, Stage.rehearse_bind, Rehearsal.rehearse_read, Renderer.loadIn, FileSystem.needed]
  cases w.files.readText home.valuesFile with
  | error e => rfl
  | ok text => exact Stage.rehearse_bind_pure (Stage.ofExcept _) (Renderer.mk home) w

/-- Programs are looked for at one path after the other. -/
theorem run_findProgram? (paths : List Path) (w : World) :
    ((Rehearsal.hostWith colours environment isProgram start send).programs.findProgram? paths).run w =
      (paths.find? (isProgram w.files), w) := by
  induction paths with
  | nil => rfl
  | cons p rest ih =>
    have hlook : ((Rehearsal.hostWith colours environment isProgram start send).programs.isProgram
      p).run w = (isProgram w.files p, w) := rfl
    rw [Programs.findProgram?, StateT.run_bind, hlook, List.find?_cons]
    cases isProgram w.files p
    · exact ih
    · rfl

/-- The program that speaks to the cluster is found as the files say. -/
theorem rehearse_resolve (program : String) (w : World) :
    (Kubectl.resolve (Rehearsal.hostWith colours environment isProgram start send).programs
        environment program).rehearse w =
      (environment.kubectlIn (isProgram w.files) program, w) := by
  rw [Kubectl.resolve, Stage.rehearse_bind, Stage.rehearse_lift, run_findProgram?,
    Environment.kubectlIn]
  cases (environment.candidates ⟨program⟩).find? (isProgram w.files) <;> rfl

/-- The list of test cases is rendered and read as the files say. -/
theorem rehearse_suite (colours : Bool) (r : Renderer) (w : World) :
    ∃ v, w.Prepared r.home v ∧ v.files = (r.renderIn w.files Suite.testcases).2 ∧
      (Suite.load (Rehearsal.machine colours) r).rehearse w =
        ((r.suiteIn w.files).map fun cases ↦ (r.home.renderedFile Suite.testcases, cases), v) := by
  obtain ⟨v, hrender, hv, hprepared⟩ := r.rehearse_render_testcases colours w
  refine ⟨v, hprepared, hv, ?_⟩
  rw [Renderer.suiteIn]
  cases htext : (r.renderIn w.files Suite.testcases).1 with
  | error e =>
    rw [Suite.load, Stage.rehearse_bind, hrender, htext]
    rfl
  | ok text =>
    rw [htext] at hrender
    obtain ⟨text', hrenderIn, hload⟩ := Renderer.rehearse_load_of_render hrender
    rw [hrenderIn] at htext
    obtain rfl := Except.ok.inj htext
    exact hload

/-- The test cases are loaded as the files say, whatever programs and network would do. -/
theorem rehearse_loadCases (colours : Bool) (environment : Environment)
    (isProgram : FileSystem → Path → Bool) (r : Renderer) (w : World) :
    ∃ v, w.Prepared r.home v ∧ v.files = (r.renderIn w.files Suite.testcases).2 ∧
      ∀ start send, ((Rehearsal.hostWith colours environment isProgram start send).loadCases
        r).rehearse w = (r.suiteIn w.files, v) := by
  let announced := w.print (Report.lines colours .note setupName "Loading test cases...")
  have hmachine (start : Path → List String → Rehearsal (Except IoFailure ProcessResult))
      (send : Client → Request → Rehearsal Exchange) :
      (Rehearsal.hostWith colours environment isProgram start send).machine =
        Rehearsal.machine colours := rfl
  have hannounced : w.Prepared r.home announced := .print ..
  obtain ⟨u, hprepared, hu, hload⟩ := rehearse_suite colours r announced
  rw [show announced.files = w.files from World.files_print w _] at hu hload
  cases hsuite : r.suiteIn w.files with
  | error e =>
    refine ⟨u, hannounced.trans hprepared, hu, fun start send ↦ ?_⟩
    rw [loadCases, hmachine, Rehearsal.rehearse_report_bind, Stage.rehearse_bind, hload, hsuite]
    rfl
  | ok cases =>
    refine ⟨u.print (Report.lines colours .ok setupName ("Loaded " ++ toString cases.length ++
      " test cases from " ++ (r.home.renderedFile Suite.testcases).text)), ?_, ?_, fun start send ↦ ?_⟩
    · exact (hannounced.trans hprepared).trans (.print ..)
    · rw [World.files_print, hu]
    · rw [loadCases, hmachine, Rehearsal.rehearse_report_bind, Stage.rehearse_bind, hload, hsuite]
      exact Rehearsal.rehearse_report_bind ..

/-- A run goes from check to check, and then to its test cases. -/
theorem rehearse_run_eq (home : HomeDir) (names : List String) (overrides : Overrides) (w : World) :
    let h := Rehearsal.hostWith colours environment isProgram start send
    (h.run home names overrides).rehearse w =
      match environment.settingsIn w.files with
      | .error e => (.error e, w)
      | .ok found =>
        match found.withOverrides overrides with
        | .error e => (.error e, w)
        | .ok settings =>
          match Renderer.loadIn home w.files with
          | .error e => (.error e, w)
          | .ok renderer =>
            match (h.loadCases renderer).rehearse w with
            | (.error e, v) => (.error e, v)
            | (.ok loaded, v) =>
              match Suite.filter loaded names with
              | .error e => (.error e, v)
              | .ok cases =>
                match environment.kubectlIn (isProgram v.files) settings.kubectl with
                | .error e => (.error e, v)
                | .ok kubectl =>
                  ((((h.runner settings renderer kubectl).run cases).rehearse v).1.map fun _ ↦ (),
                    (((h.runner settings renderer kubectl).run cases).rehearse v).2) := by
  intro h
  rw [Host.run, Stage.rehearse_bind, rehearse_loadSettings]
  cases environment.settingsIn w.files with
  | error e => rfl
  | ok found =>
  dsimp only
  rw [Stage.rehearse_bind, Stage.rehearse_ofExcept]
  cases found.withOverrides overrides with
  | error e => rfl
  | ok settings =>
  have hloadIn : (Renderer.load h.machine home).rehearse w = (Renderer.loadIn home w.files, w) :=
    rehearse_load home w
  dsimp only
  rw [Stage.rehearse_bind, hloadIn]
  cases Renderer.loadIn home w.files with
  | error e => rfl
  | ok renderer =>
  dsimp only
  rw [Stage.rehearse_bind]
  rcases (h.loadCases renderer).rehearse w with ⟨e | loaded, v⟩
  · rfl
  dsimp only
  rw [Stage.rehearse_bind, Stage.rehearse_ofExcept]
  cases Suite.filter loaded names with
  | error e => rfl
  | ok cases =>
  have hresolve : (Kubectl.resolve h.programs h.environment settings.kubectl).rehearse v =
      (environment.kubectlIn (isProgram v.files) settings.kubectl, v) := rehearse_resolve ..
  dsimp only
  rw [Stage.rehearse_bind, hresolve]
  cases environment.kubectlIn (isProgram v.files) settings.kubectl with
  | error e => rfl
  | ok kubectl => exact Stage.rehearse_bind_pure _ _ v

/-- A run ends with the error of the first check that fails, whatever programs and network would do:
neither has been asked for anything, and nothing is different but what the list of test cases is
rendered to. If no check fails, the run is that of the chosen test cases, in order and up to the first
that fails, with the settings, the renderer and the program that were checked. -/
theorem run_checked (colours : Bool) (environment : Environment)
    (isProgram : FileSystem → Path → Bool) (home : HomeDir) (names : List String)
    (overrides : Overrides) (w : World) :
    let checks := Checks.ofFiles environment isProgram home names overrides w.files
    ∃ v, w.Prepared home v ∧ w.Quiet v ∧ v.started = w.started ∧ ∀ start send,
      let h := Rehearsal.hostWith colours environment isProgram start send
      let run := (h.run home names overrides).rehearse w
      match checks.firstFailure? with
      | some e => run = (.error e, v)
      | none =>
        ∃ settings renderer cases kubectl, checks.overridden = .ok settings ∧
          checks.renderer = .ok renderer ∧ checks.chosen = .ok cases ∧ checks.kubectl = .ok kubectl ∧
          ∃ finished rest u, cases = finished ++ rest ∧
            ((h.runner settings renderer kubectl).runCases 0 finished).rehearse v =
              (.ok finished.length, u) ∧
            (rest = [] ∧ run = (.ok (), u.print (Partners.summaryLines colours cases.length)) ∨
              ∃ c later e x, rest = c :: later ∧
                ((h.runner settings renderer kubectl).runCase c).rehearse u = (.error e, x) ∧
                run = (.error e, x)) := by
  intro checks
  have hfirst : checks.firstFailure? = _ := Checks.firstFailure?_ofFiles ..
  have hnothing : w.Prepared home w := .refl home w
  -- A case for each check: the world that it leaves is found before the programs and the network.
  cases hsettings : environment.settingsIn w.files with
  | error e =>
    refine ⟨w, hnothing, hnothing.quiet, hnothing.started_eq, fun start send ↦ ?_⟩
    simp only [hfirst, rehearse_run_eq, hsettings]
  | ok found =>
  cases hoverridden : found.withOverrides overrides with
  | error e =>
    refine ⟨w, hnothing, hnothing.quiet, hnothing.started_eq, fun start send ↦ ?_⟩
    simp only [hfirst, rehearse_run_eq, hsettings, hoverridden]
  | ok settings =>
  cases hrenderer : Renderer.loadIn home w.files with
  | error e =>
    refine ⟨w, hnothing, hnothing.quiet, hnothing.started_eq, fun start send ↦ ?_⟩
    simp only [hfirst, rehearse_run_eq, hsettings, hoverridden, hrenderer]
  | ok renderer =>
  obtain ⟨v, hprepared, hfiles, hload⟩ :=
    rehearse_loadCases colours environment isProgram renderer w
  rw [Renderer.home_of_loadIn hrenderer] at hprepared
  refine ⟨v, hprepared, hprepared.quiet, hprepared.started_eq, fun start send ↦ ?_⟩
  cases hsuite : renderer.suiteIn w.files with
  | error e =>
    simp only [hfirst, rehearse_run_eq, hsettings, hoverridden, hrenderer, hload, hsuite]
  | ok loaded =>
  cases hchosen : Suite.filter loaded names with
  | error e =>
    simp only [hfirst, rehearse_run_eq, hsettings, hoverridden, hrenderer, hload, hsuite, hchosen]
  | ok cases =>
  cases hkubectl : environment.kubectlIn (isProgram v.files) settings.kubectl with
  | error e =>
    simp only [hfirst, rehearse_run_eq, hsettings, hoverridden, hrenderer, hload, hsuite, hchosen,
      ← hfiles, hkubectl, Checks.failure?]
  | ok kubectl =>
    let runner := (Rehearsal.hostWith colours environment isProgram start send).runner settings
      renderer kubectl
    obtain ⟨finished, rest, u, hcases, hfinished, hend⟩ := runner.runCases_stops 0 cases v
    rw [Nat.zero_add] at hfinished
    simp only [hfirst, rehearse_run_eq, hsettings, hoverridden, hrenderer, hload, hsuite, hchosen,
      ← hfiles, hkubectl, Checks.failure?]
    refine ⟨settings, renderer, cases, kubectl, ?_, hrenderer, ?_, ?_, finished, rest, u, hcases,
      hfinished, ?_⟩
    · simp [checks, Checks.ofFiles, hsettings, hoverridden, Except.bind]
    · simp [checks, Checks.ofFiles, hrenderer, hsuite, hchosen, Except.bind]
    · simp [checks, Checks.ofFiles, hsettings, hoverridden, hrenderer, ← hfiles, hkubectl, Except.bind]
    · have hrun : (runner.run cases).rehearse v = _ := Partners.rehearse_run_of_machine rfl cases v
      rcases hend with ⟨hrest, hall⟩ | ⟨c, later, e, x, hrest, hcase, hstopped⟩
      · rw [hall] at hrun
        exact .inl ⟨hrest, by rw [hrun, Partners.summarize_ok]; simp only [Except.map]⟩
      · rw [hstopped] at hrun
        exact .inr ⟨c, later, e, x, hrest, hcase, by rw [hrun]; rfl⟩

end Host

end ClusterProbe
