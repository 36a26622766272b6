import ClusterProbe.Proofs.Run.RenderingEffect
import ClusterProbe.Proofs.Run.Verification

/-!
# Setting up a test case

Setup goes from identifier to identifier. Each of them is rendered in the files that the one before
it leaves, and its manifest is applied before the next one is looked at. Main statement: what happens
in a setup, event by event, where it ends and with which error, and what is different afterwards: the
manifests that were reached are the ones that were applied, and no file has changed but theirs.
-/

namespace ClusterProbe

namespace World

@[simp] theorem files_record (w : World) (events : List Event) :
    (w.record events).files = w.files := by
  induction events generalizing w with
  | nil => rfl
  | cons e rest ih => exact ih (w.push e)

/-- It does not matter whether files are changed before something happens or after it. -/
theorem record_with_files (w : World) (fs : FileSystem) (events : List Event) :
    { w.record events with files := fs } = ({ w with files := fs } : World).record events := by
  induction events generalizing w with
  | nil => rfl
  | cons e rest ih => exact ih (w.push e)

end World

namespace Renderer

variable {r : Renderer} {identifier text : String} {ids more : List String} {fs gs hs : FileSystem}
  {e : Error}

/-- A rendering that fails has made directories at most. -/
theorem madeWay_of_renderIn (h : r.renderIn fs identifier = (.error e, gs)) :
    FileSystem.MadeWay r.home.depsDir fs gs := by
  have hway := fs.madeWay_makeDirs r.home.depsDir
  unfold renderIn at h
  split at h
  · cases h
    exact .refl _ fs
  · split at h
    next hmake =>
      cases h
      rwa [hmake] at hway
    next hmake =>
      split at h
      · cases h
        rwa [hmake] at hway
      · cases h

/-- From one file system to another nothing is different but the outputs of some identifiers, and
that there may be new directories on the way to the one for everything rendered. -/
structure Touches (r : Renderer) (ids : List String) (fs gs : FileSystem) : Prop where
  workDir : gs.workDir = fs.workDir
  other : ∀ loc, (∀ id ∈ ids, loc ≠ fs.place (r.home.renderedFile id)) →
    gs.entry? loc = fs.entry? loc ∨ fs.entry? loc = none ∧ gs.entry? loc = some .directory ∧
      ∃ q, r.home.depsDir.Ancestor q ∧ loc = fs.place q

theorem touches_of_madeWay (h : FileSystem.MadeWay r.home.depsDir fs gs) : r.Touches [] fs gs :=
  ⟨h.workDir, fun loc _ ↦ h.entry loc⟩

theorem Written.touches (h : r.Written identifier text fs gs) : r.Touches [identifier] fs gs :=
  ⟨h.workDir, fun loc hloc ↦ h.other loc (hloc identifier (List.mem_singleton_self _))⟩

theorem Touches.append (h : r.Touches ids fs gs) (k : r.Touches more gs hs) :
    r.Touches (ids ++ more) fs hs := by
  refine ⟨k.workDir.trans h.workDir, fun loc hloc ↦ ?_⟩
  have hfirst := h.other loc fun id hid ↦ hloc id (List.mem_append_left _ hid)
  have hsecond := k.other loc fun id hid ↦ by
    rw [FileSystem.place_congr h.workDir]
    exact hloc id (List.mem_append_right _ hid)
  rcases hsecond with heq | ⟨hnone, hdir, q, hq, hplace⟩
  · rw [heq]
    exact hfirst
  · rcases hfirst with heq | ⟨-, hthere, -⟩
    · rw [FileSystem.place_congr h.workDir] at hplace
      exact .inr ⟨heq.symm.trans hnone, hdir, q, hq, hplace⟩
    · rw [hnone] at hthere
      cases hthere

end Renderer

namespace Partners

section Rounds

variable (colours : Bool) (home : HomeDir) (name identifier text : String)

/-- It is reported that a manifest is to be generated. -/
def generating : List Event :=
  Report.events colours .progress name ("Generating ... " ++ identifier)

/-- All that happens while a manifest with some text is generated: it is announced, written and
reported, in this order. -/
def generated : List Event :=
  generating colours name identifier ++ [.wrote (home.renderedFile identifier) text] ++
    Report.events colours .ok name ("Generated " ++ (home.renderedFile identifier).text)

/-- All that happens while a manifest with some text is generated and then applied. -/
def deployed : List Event :=
  generated colours home name identifier text ++
    [.call (.apply, name, home.renderedFile identifier)]

variable {α : Type} {f : Event → Option α}

/-- There is nothing but lines where a manifest is announced. -/
theorem filterMap_generating (hline : ∀ line, f (.line line) = none) :
    (generating colours name identifier).filterMap f = [] :=
  Report.filterMap_events hline ..

/-- Of a manifest that is generated, an observer of anything but lines sees that its file is
written. -/
theorem filterMap_generated (hline : ∀ line, f (.line line) = none) :
    (generated colours home name identifier text).filterMap f =
      [.wrote (home.renderedFile identifier) text].filterMap f := by
  rw [generated, List.filterMap_append, List.filterMap_append, filterMap_generating _ _ _ hline,
    Report.filterMap_events hline, List.nil_append, List.append_nil]

/-- Of a manifest that is applied, an observer of anything but lines sees that its file is written
and that it is applied. -/
theorem filterMap_deployed (hline : ∀ line, f (.line line) = none) :
    (deployed colours home name identifier text).filterMap f =
      [.wrote (home.renderedFile identifier) text,
        .call (.apply, name, home.renderedFile identifier)].filterMap f := by
  rw [deployed, List.filterMap_append, filterMap_generated _ _ _ _ _ hline, ← List.filterMap_append]
  rfl

end Rounds

/-- Manifests are rendered and applied one after the other, from one file system to another and
behind the calls before, and this is all that happens. -/
inductive Deploys (p : Partners) (colours : Bool) (r : Renderer) (name : String) :
    FileSystem → List Call → List String → FileSystem → List Event → Prop
  | nil {fs : FileSystem} {before : List Call} : Deploys p colours r name fs before [] fs []
  | cons {fs gs hs : FileSystem} {before : List Call} {identifier text : String}
      {rest : List String} {events : List Event}
      (rendered : r.renderIn fs identifier = (.ok text, gs))
      (applied : p.cluster (before ++ [(.apply, name, r.home.renderedFile identifier)]) = .ok ())
      (others : Deploys p colours r name gs
        (before ++ [(.apply, name, r.home.renderedFile identifier)]) rest hs events) :
      Deploys p colours r name fs before (identifier :: rest) hs
        (deployed colours r.home name identifier text ++ events)

namespace Deploys

variable {p : Partners} {colours : Bool} {r : Renderer} {name : String} {fs gs : FileSystem}
  {before : List Call} {ids : List String} {events : List Event}

/-- None of the manifests is refused. -/
theorem accepts (h : p.Deploys colours r name fs before ids gs events) :
    p.Accepts before (callsFor r.home .apply name ids) := by
  induction h with
  | nil => trivial
  | cons _ applied _ ih => exact ⟨applied, ih⟩

/-- The calls apply the manifests, each as often as it is named. -/
theorem calls_eq (h : p.Deploys colours r name fs before ids gs events) :
    events.filterMap Event.call? = callsFor r.home .apply name ids := by
  induction h with
  | nil => rfl
  | cons _ _ _ ih =>
    rw [List.filterMap_append, filterMap_deployed _ _ _ _ _ fun _ ↦ rfl, ih, callsFor_cons]
    rfl

/-- Nothing is asked of the service. -/
theorem attempts_eq (h : p.Deploys colours r name fs before ids gs events) :
    events.filterMap Event.attempt? = [] := by
  induction h with
  | nil => rfl
  | cons _ _ _ ih =>
    rw [List.filterMap_append, filterMap_deployed _ _ _ _ _ fun _ ↦ rfl, ih]
    rfl

/-- Nothing is different in the files but the outputs. -/
theorem touches (h : p.Deploys colours r name fs before ids gs events) : r.Touches ids fs gs := by
  induction h with
  | nil => exact Renderer.touches_of_madeWay (.refl _ _)
  | cons rendered _ _ ih => exact (Renderer.written_of_renderIn rendered).2.touches.append ih

end Deploys

section Steps

variable {p : Partners} {colours : Bool} {r : Renderer} {s : Settings} {w v : World}

/-- A manifest is announced and rendered, and if that succeeds, reported and applied. -/
theorem rehearse_deploy (name identifier : String) (w : World) :
    ((p.runner colours r s).deploy name identifier).rehearse w =
      match r.renderIn w.files identifier with
      | (.error e, fs) =>
        (.error e, ({ w with files := fs } : World).record (generating colours name identifier))
      | (.ok text, fs) =>
        ((p.cluster (w.calls ++ [(.apply, name, r.home.renderedFile identifier)])).map fun _ ↦
            r.home.renderedFile identifier,
          ({ w with files := fs } : World).record
            (deployed colours r.home name identifier text)) := by
  rw [Runner.deploy, runner_machine, runner_renderer, Rehearsal.rehearse_report_bind,
    World.print_eq_record, Stage.rehearse_bind, Renderer.rehearse_render_eq_renderIn,
    World.files_record]
  rcases r.renderIn w.files identifier with ⟨e | text, fs⟩
  · dsimp only
    rw [World.record_with_files]
    rfl
  · dsimp only
    rw [Rehearsal.rehearse_report_bind, World.print_eq_record, Stage.rehearse_bind_pure,
      rehearse_act, World.record_with_files, ← Report.events, ← Report.events, ← generating]
    -- what has happened by now is that the manifest was generated
    have hworld : ((({ w with files := fs } : World).record
        (generating colours name identifier)).push
          (.wrote (r.home.renderedFile identifier) text)).record
            (Report.events colours .ok name
              ("Generated " ++ (r.home.renderedFile identifier).text)) =
        ({ w with files := fs } : World).record
          (generated colours r.home name identifier text) := by
      rw [generated, World.record_append, World.record_append]
      rfl
    have hcalls : (({ w with files := fs } : World).record
        (generated colours r.home name identifier text)).calls = w.calls := by
      rw [World.calls_record, filterMap_generated _ _ _ _ _ fun _ ↦ rfl]
      exact List.append_nil _
    rw [hworld, hcalls, deployed, World.record_append]
    rfl

/-- The calls in the world that a manifest which is applied leaves. -/
theorem calls_record_deployed (name identifier text : String) (w : World) (fs : FileSystem) :
    (({ w with files := fs } : World).record
      (deployed colours r.home name identifier text)).calls =
        w.calls ++ [(.apply, name, r.home.renderedFile identifier)] := by
  rw [World.calls_record, filterMap_deployed _ _ _ _ _ fun _ ↦ rfl]
  rfl

end Steps

/-- How a row of manifests can end, with the identifiers whose manifests the cluster is asked to
apply, the result, and the world that is left: behind the last of them, or at the first that cannot
be rendered or is not applied. -/
inductive DeployEnds (p : Partners) (colours : Bool) (r : Renderer) (name : String) (w : World)
    (ids : List String) : List String → Except Error (List Path) → World → Prop
  | all {fs : FileSystem} {events : List Event}
      (deploys : p.Deploys colours r name w.files w.calls ids fs events) :
      DeployEnds p colours r name w ids ids (.ok (ids.map r.home.renderedFile))
        (({ w with files := fs } : World).record events)
  /-- An identifier cannot be rendered: it is announced, and that is all. -/
  | unrendered {done later : List String} {identifier : String} {fs gs : FileSystem}
      {events : List Event} {e : Error} (ids_eq : ids = done ++ identifier :: later)
      (deploys : p.Deploys colours r name w.files w.calls done fs events)
      (failed : r.renderIn fs identifier = (.error e, gs)) :
      DeployEnds p colours r name w ids done (.error e)
        (({ w with files := gs } : World).record (events ++ generating colours name identifier))
  /-- The cluster refuses a manifest: it is rendered, and it was asked to apply it. -/
  | refused {done later : List String} {identifier text : String} {fs gs : FileSystem}
      {events : List Event} {e : Error} (ids_eq : ids = done ++ identifier :: later)
      (deploys : p.Deploys colours r name w.files w.calls done fs events)
      (rendered : r.renderIn fs identifier = (.ok text, gs))
      (refused : p.cluster (w.calls ++ callsFor r.home .apply name (done ++ [identifier])) =
        .error e) :
      DeployEnds p colours r name w ids (done ++ [identifier]) (.error e)
        (({ w with files := gs } : World).record
          (events ++ deployed colours r.home name identifier text))

section Steps

variable {p : Partners} {colours : Bool} {r : Renderer} {s : Settings} {w v : World} {name : String}

/-- One manifest more in front. -/
theorem DeployEnds.cons {identifier text : String} {fs : FileSystem} {ids reached : List String}
    {result : Except Error (List Path)} (rendered : r.renderIn w.files identifier = (.ok text, fs))
    (applied : p.cluster (w.calls ++ [(.apply, name, r.home.renderedFile identifier)]) = .ok ())
    (h : p.DeployEnds colours r name (({ w with files := fs } : World).record
      (deployed colours r.home name identifier text)) ids reached result v) :
    p.DeployEnds colours r name w (identifier :: ids) (identifier :: reached)
      (result.map (r.home.renderedFile identifier :: ·)) v := by
  have hcalls : (({ w with files := fs } : World).record
      (deployed colours r.home name identifier text)).calls =
        w.calls ++ [(.apply, name, r.home.renderedFile identifier)] :=
    calls_record_deployed name identifier text w fs
  have hfiles := World.files_record ({ w with files := fs } : World)
    (deployed colours r.home name identifier text)
  have hworld (gs : FileSystem) (events : List Event) :
      World.record { (({ w with files := fs } : World).record
        (deployed colours r.home name identifier text)) with files := gs } events =
      ({ w with files := gs } : World).record
        (deployed colours r.home name identifier text ++ events) := by
    rw [World.record_with_files, World.record_append]
  generalize ({ w with files := fs } : World).record
    (deployed colours r.home name identifier text) = u at h hcalls hfiles hworld
  have hdeploys {done : List String} {gs : FileSystem} {events : List Event}
      (hrest : p.Deploys colours r name u.files u.calls done gs events) :
      p.Deploys colours r name w.files w.calls (identifier :: done) gs
        (deployed colours r.home name identifier text ++ events) := by
    rw [hfiles, hcalls] at hrest
    exact .cons rendered applied hrest
  cases h with
  | all deploys =>
    rw [hworld]
    exact .all (hdeploys deploys)
  | unrendered ids_eq deploys failed =>
    subst ids_eq
    rw [hworld, ← List.append_assoc]
    exact .unrendered rfl (hdeploys deploys) failed
  | refused ids_eq deploys failed refused =>
    subst ids_eq
    rw [hworld, ← List.append_assoc]
    rw [hcalls, List.append_assoc] at refused
    exact .refused rfl (hdeploys deploys) failed refused

/-- Manifests are deployed up to the first that cannot be. -/
theorem exists_deployEnds (ids : List String) (w : World) :
    ∃ reached, p.DeployEnds colours r name w ids reached
      (((p.runner colours r s).deployAll name ids).rehearse w).1
      (((p.runner colours r s).deployAll name ids).rehearse w).2 := by
  induction ids generalizing w with
  | nil => exact ⟨[], .all .nil⟩
  | cons identifier rest ih =>
    rw [Runner.deployAll, Stage.rehearse_bind, rehearse_deploy]
    rcases hrender : r.renderIn w.files identifier with ⟨e | text, fs⟩
    · have hend : p.DeployEnds colours r name w (identifier :: rest) [] (.error e)
          (({ w with files := fs } : World).record ([] ++ generating colours name identifier)) :=
        .unrendered rfl .nil hrender
      rw [List.nil_append] at hend
      dsimp only
      exact ⟨[], hend⟩
    · cases hcluster :
          p.cluster (w.calls ++ [(Action.apply, name, r.home.renderedFile identifier)]) with
      | error e =>
        have hend : p.DeployEnds colours r name w (identifier :: rest) ([] ++ [identifier])
            (.error e) (({ w with files := fs } : World).record
              ([] ++ deployed colours r.home name identifier text)) :=
          .refused rfl .nil hrender hcluster
        rw [List.nil_append, List.nil_append] at hend
        dsimp only [Except.map]
        exact ⟨[identifier], hend⟩
      | ok done =>
        dsimp only [Except.map]
        rw [Stage.rehearse_bind_pure]
        obtain ⟨reached, hreached⟩ := ih (({ w with files := fs } : World).record
          (deployed colours r.home name identifier text))
        exact ⟨identifier :: reached, hreached.cons hrender hcluster⟩

namespace DeployEnds

variable {ids reached : List String} {result : Except Error (List Path)}

/-- The manifests that are reached are applied, in order and each as often as it is named. -/
theorem calls_eq (h : p.DeployEnds colours r name w ids reached result v) :
    v.calls = w.calls ++ callsFor r.home .apply name reached := by
  cases h with
  | all deploys =>
    rw [World.calls_record, deploys.calls_eq]
    rfl
  | unrendered _ deploys _ =>
    rw [World.calls_record, List.filterMap_append, deploys.calls_eq,
      filterMap_generating _ _ _ fun _ ↦ rfl, List.append_nil]
    rfl
  | refused _ deploys _ _ =>
    rw [World.calls_record, List.filterMap_append, deploys.calls_eq,
      filterMap_deployed _ _ _ _ _ fun _ ↦ rfl, callsFor_append]
    rfl

/-- The service is not asked. -/
theorem attempted_eq (h : p.DeployEnds colours r name w ids reached result v) :
    v.attempted = w.attempted := by
  cases h with
  | all deploys =>
    rw [World.attempted_record, deploys.attempts_eq]
    exact List.append_nil _
  | unrendered _ deploys _ =>
    rw [World.attempted_record, List.filterMap_append, deploys.attempts_eq,
      filterMap_generating _ _ _ fun _ ↦ rfl]
    exact List.append_nil _
  | refused _ deploys _ _ =>
    rw [World.attempted_record, List.filterMap_append, deploys.attempts_eq,
      filterMap_deployed _ _ _ _ _ fun _ ↦ rfl]
    exact List.append_nil _

/-- Nothing is different in the files but the outputs of what is reached. -/
theorem touches (h : p.DeployEnds colours r name w ids reached result v) :
    r.Touches reached w.files v.files := by
  cases h with
  | all deploys =>
    rw [World.files_record]
    exact deploys.touches
  | unrendered _ deploys failed =>
    have hlast := Renderer.touches_of_madeWay (Renderer.madeWay_of_renderIn failed)
    have htouches := deploys.touches.append hlast
    rw [List.append_nil] at htouches
    rw [World.files_record]
    exact htouches
  | refused _ deploys rendered _ =>
    rw [World.files_record]
    exact deploys.touches.append (Renderer.written_of_renderIn rendered).2.touches

end DeployEnds

/-- Where a setup can end: at an identifier that cannot be rendered, or at one whose manifest the
cluster does not apply, with all identifiers in front of it applied. -/
theorem deployAll_cases {ids : List String} {result : Except Error (List Path)}
    (h : ((p.runner colours r s).deployAll name ids).rehearse w = (result, v)) :
    v.attempted = w.attempted ∧
      ((result = .ok (ids.map r.home.renderedFile) ∧
          v.calls = w.calls ++ callsFor r.home .apply name ids ∧
          p.Accepts w.calls (callsFor r.home .apply name ids)) ∨
        ∃ done identifier later e, ids = done ++ identifier :: later ∧
          result = .error e ∧ p.Accepts w.calls (callsFor r.home .apply name done) ∧
          ((v.calls = w.calls ++ callsFor r.home .apply name done ∧
              ∃ u, (r.render (Rehearsal.machine colours) identifier).rehearse u = (.error e, v)) ∨
            (v.calls = w.calls ++ callsFor r.home .apply name (done ++ [identifier]) ∧
              p.cluster v.calls = .error e))) := by
  obtain ⟨reached, hend⟩ := exists_deployEnds (p := p) (s := s) ids w
  rw [h] at hend
  have hcalls := hend.calls_eq
  refine ⟨hend.attempted_eq, ?_⟩
  cases hend with
  | all deploys => exact .inl ⟨rfl, hcalls, deploys.accepts⟩
  | @unrendered _ _ identifier fs _ events _ ids_eq deploys failed =>
    refine .inr ⟨_, _, _, _, ids_eq, rfl, deploys.accepts, .inl ⟨hcalls, ?_⟩⟩
    refine ⟨({ w with files := fs } : World).record
      (events ++ generating colours name identifier), ?_⟩
    rw [Renderer.rehearse_render_eq_renderIn, World.files_record, failed]
    dsimp only
    rw [World.record_with_files]
    rfl
  | refused ids_eq deploys _ refused =>
    refine .inr ⟨_, _, _, _, ids_eq, rfl, deploys.accepts, .inr ⟨hcalls, ?_⟩⟩
    rw [hcalls]
    exact refused

end Steps

/-- A setup goes through the identifiers of its test case in order. It is told event by event where
it ends: behind the last of them, with their paths in order, or with the error of the first that
cannot be rendered or whose manifest is refused. The manifests that are reached are applied and no
other call is made, and nothing is different in the files but their outputs and new directories on
the way to them. -/
theorem setup_in_order (p : Partners) (colours : Bool) (r : Renderer) (s : Settings) (c : TestCase)
    (w : World) :
    ∃ reached result v,
      ((p.runner colours r s).setup c).rehearse w = (result.map (Deployment.mk c.name), v) ∧
      p.DeployEnds colours r c.name w c.context reached result v ∧
      v.calls = w.calls ++ callsFor r.home .apply c.name reached ∧ v.attempted = w.attempted ∧
      r.Touches reached w.files v.files := by
  obtain ⟨reached, hend⟩ := exists_deployEnds (p := p) (s := s) c.context w
  exact ⟨reached, _, _, rehearse_setup c w, hend, hend.calls_eq, hend.attempted_eq, hend.touches⟩

end Partners

end ClusterProbe
