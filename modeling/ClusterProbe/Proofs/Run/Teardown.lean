import ClusterProbe.Proofs.Run.Setup

/-!
# Setup, verification, teardown

A test case goes through three steps, and two of them can fail in one run. Main statement: if setup
fails, nothing else is done; if not, teardown begins where verification ends, whatever that came to,
a verification that failed is the error of the test case even if teardown fails as well, and what is
deleted does not depend on the service at all.
-/

namespace ClusterProbe

namespace Partners

/-- The calls of a teardown behind the calls before, and what it comes to: all manifests of a test
case are deleted, or the first that cannot be is the last that is tried. -/
inductive TearsDown (p : Partners) (home : HomeDir) (c : TestCase) (before : List Call) :
    List Call → Except Error Unit → Prop
  | all (accepts : p.Accepts before (callsFor home .delete c.name c.context)) :
      p.TearsDown home c before (callsFor home .delete c.name c.context) (.ok ())
  | stuck {done later : List String} {identifier : String} {e : Error}
      (context_eq : c.context = done ++ identifier :: later)
      (accepts : p.Accepts before (callsFor home .delete c.name done))
      (refused : p.cluster (before ++ callsFor home .delete c.name (done ++ [identifier])) =
        .error e) :
      p.TearsDown home c before (callsFor home .delete c.name (done ++ [identifier])) (.error e)

/-- The same cluster with another service. -/
def withService (p : Partners) (service : List Attempt → Verification) : Partners :=
  { p with service }

section Steps

variable {p : Partners} {colours : Bool} {renderer : Renderer} {s : Settings}

/-- The world in which a test case is announced. -/
def announced (colours : Bool) (c : TestCase) (w : World) : World :=
  w.print (Report.lines colours .note c.name ("Testing " ++ c.name))

/-- What a test case comes to when its verification and its teardown have come to something. -/
def verdict (verified tornDown : Except Error Unit) : Except Error Unit :=
  match verified with
  | .error e => .error e
  | .ok () => tornDown

theorem verdict_eq_ok_iff {verified tornDown : Except Error Unit} :
    verdict verified tornDown = .ok () ↔ verified = .ok () ∧ tornDown = .ok () := by
  cases verified <;> simp [verdict]

/-- A test case is set up, verified and torn down, each step in the world that the one before
leaves; only a setup that fails ends it early. -/
theorem rehearse_runCase (c : TestCase) (w : World) :
    ((p.runner colours renderer s).runCase c).rehearse w =
      match ((p.runner colours renderer s).setup c).rehearse (announced colours c w) with
      | (.error e, u) => (.error e, u)
      | (.ok d, u) =>
        let verified := ((p.runner colours renderer s).verify c).rehearse u
        let tornDown := ((p.runner colours renderer s).teardown d).rehearse verified.2
        (verdict verified.1 tornDown.1, tornDown.2) := by
  rw [Runner.runCase, runner_machine, Rehearsal.rehearse_report_bind, Stage.rehearse_bind, announced]
  generalize w.print _ = start
  rcases ((p.runner colours renderer s).setup c).rehearse start with ⟨e | d, u⟩
  · rfl
  · simp only [Stage.rehearse_bind, Stage.rehearse_attempt]
    rcases ((p.runner colours renderer s).verify c).rehearse u with ⟨_ | _, z⟩ <;> rfl

/-- A setup that succeeds leaves what a test case names to be deleted, in order, and one that fails
has deleted nothing; neither asks anything of the service. -/
theorem setup_cases {c : TestCase} {w u : World} {result : Except Error Deployment}
    (h : ((p.runner colours renderer s).setup c).rehearse w = (result, u)) :
    u.attempted = w.attempted ∧
      (∃ applied, u.calls = w.calls ++ callsFor renderer.home .apply c.name applied) ∧
      ∀ d, result = .ok d → d = ⟨c.name, c.context.map renderer.home.renderedFile⟩ := by
  rw [rehearse_setup] at h
  obtain ⟨rfl, rfl⟩ := Prod.mk.injEq .. ▸ h
  obtain ⟨ha, hend⟩ := deployAll_cases (Prod.eta
    (((p.runner colours renderer s).deployAll c.name c.context).rehearse w)).symm
  refine ⟨ha, ?_, fun d hd ↦ ?_⟩
  · rcases hend with ⟨-, hc, -⟩ | ⟨done, identifier, later, e, -, -, -, ⟨hc, -⟩ | ⟨hc, -⟩⟩
    · exact ⟨_, hc⟩
    · exact ⟨_, hc⟩
    · exact ⟨_, hc⟩
  · rcases hend with ⟨hm, -, -⟩ | ⟨done, identifier, later, e, -, he, -⟩
    · rw [hm] at hd
      exact (Except.ok.inj hd).symm
    · rw [he] at hd
      cases hd

/-- A teardown of what a test case has in the cluster. -/
theorem tearsDown_of_teardown {c : TestCase} {w v : World} {result : Except Error Unit}
    (h : ((p.runner colours renderer s).teardown
      ⟨c.name, c.context.map renderer.home.renderedFile⟩).rehearse w = (result, v)) :
    v.attempted = w.attempted ∧
      ∃ deletes, v.calls = w.calls ++ deletes ∧
        p.TearsDown renderer.home c w.calls deletes result := by
  obtain ⟨ha, hend⟩ := deleteAll_cases h
  refine ⟨ha, ?_⟩
  rcases hend with ⟨rfl, hc, hacc⟩ | ⟨done, identifier, later, e, hctx, rfl, hacc, hc, he⟩
  · exact ⟨_, hc, .all hacc⟩
  · exact ⟨_, hc, .stuck hctx hacc (hc ▸ he)⟩

/-! ### Another service -/

variable (service : List Attempt → Verification)

theorem cluster_withService : (p.withService service).cluster = p.cluster := rfl

/-- Nothing is set up differently for another service. -/
theorem setup_withService (c : TestCase) :
    ((p.withService service).runner colours renderer s).setup c =
      (p.runner colours renderer s).setup c := by
  have hdeploy (identifiers : List String) :
      ((p.withService service).runner colours renderer s).deployAll c.name identifiers =
        (p.runner colours renderer s).deployAll c.name identifiers := by
    induction identifiers with
    | nil => rfl
    | cons identifier rest ih =>
      rw [Runner.deployAll, Runner.deployAll, ih]
      rfl
  rw [Runner.setup, Runner.setup, hdeploy]

/-- What is deleted depends on the calls before, and not on the service. -/
theorem calls_deleteAll_withService (name : String) (manifests : List Path) {w u : World}
    (h : u.calls = w.calls) :
    ((((p.withService service).runner colours renderer s).deleteAll name manifests).rehearse
        u).2.calls =
      (((p.runner colours renderer s).deleteAll name manifests).rehearse w).2.calls := by
  induction manifests generalizing w u with
  | nil => exact h
  | cons manifest rest ih =>
    have hcall : (u.push (.call (.delete, name, manifest))).calls =
        (w.push (.call (.delete, name, manifest))).calls := by
      rw [World.calls_push, World.calls_push, h]
    rw [Runner.deleteAll, Runner.deleteAll, Stage.rehearse_bind, Stage.rehearse_bind, rehearse_act,
      rehearse_act, h, cluster_withService]
    cases p.cluster (w.calls ++ [(Action.delete, name, manifest)]) with
    | error e => exact hcall
    | ok done => exact ih hcall

end Steps

/-- If setup fails, a test case ends with its error and the manifests that were applied stay. If it
succeeds, teardown begins in the world that verification leaves, whatever that came to. A
verification that failed is the error of the test case, also where teardown fails too; if it passed,
the test case comes to what its teardown comes to, which is the error of the first manifest that
cannot be deleted if there is one. With another service the calls are the same. -/
theorem runCase_phases (p : Partners) (colours : Bool) (renderer : Renderer) (s : Settings)
    (c : TestCase) (w : World) :
    let r := p.runner colours renderer s
    let run := (r.runCase c).rehearse w
    (match (r.setup c).rehearse (announced colours c w) with
      | (.error e, u) =>
        run = (.error e, u) ∧ u.attempted = w.attempted ∧
          ∃ applied, u.calls = w.calls ++ callsFor renderer.home .apply c.name applied
      | (.ok d, u) =>
        let verified := (r.verify c).rehearse u
        let tornDown := (r.teardown d).rehearse verified.2
        verified.2.calls = u.calls ∧ run.2 = tornDown.2 ∧
          run.2.attempted = verified.2.attempted ∧
          (∃ deletes, run.2.calls = u.calls ++ deletes ∧
            p.TearsDown renderer.home c u.calls deletes tornDown.1) ∧
          (verified.1 = .ok () ∧ run.1 = tornDown.1 ∨
            verified.1 = .error (.timeout c.name (max s.retries 1)) ∧ run.1 = verified.1) ∧
          (run.1 = .ok () ↔ verified.1 = .ok () ∧ tornDown.1 = .ok ())) ∧
      ∀ service, ((((p.withService service).runner colours renderer s).runCase c).rehearse
        w).2.calls = run.2.calls := by
  intro r run
  have hrun : run = _ := rehearse_runCase c w
  have hother (service : List Attempt → Verification) :=
    @rehearse_runCase (p.withService service) colours renderer s c w
  simp only [setup_withService] at hother
  obtain ⟨result, u, hsetup⟩ : ∃ result u,
    (r.setup c).rehearse (announced colours c w) = (result, u) := ⟨_, _, rfl⟩
  obtain ⟨ha, ⟨applied, hc⟩, hd⟩ := setup_cases hsetup
  have hquiet := World.Quiet.print w (Report.lines colours .note c.name ("Testing " ++ c.name))
  rw [hsetup] at hrun hother ⊢
  cases result with
  | error e =>
    refine ⟨⟨hrun, ha.trans hquiet.attempted, applied, ?_⟩, fun service ↦ ?_⟩
    · rw [hc, announced, hquiet.calls]
    · rw [hother service, hrun]
  | ok d =>
    obtain rfl := hd d rfl
    dsimp only at hrun hother ⊢
    obtain ⟨hasked, hverified⟩ := verify_cases (Prod.eta ((r.verify c).rehearse u)).symm
    obtain ⟨hattempted, deletes, hdeletes, htorn⟩ := tearsDown_of_teardown (Prod.eta
      ((r.teardown ⟨c.name, c.context.map renderer.home.renderedFile⟩).rehearse
        ((r.verify c).rehearse u).2)).symm
    rw [hasked] at hdeletes htorn
    rw [hrun]
    refine ⟨⟨hasked, rfl, hattempted, ⟨deletes, hdeletes, htorn⟩, ?_, verdict_eq_ok_iff⟩,
      fun service ↦ ?_⟩
    · rcases hverified with ⟨hok, -⟩ | ⟨herror, -⟩
      · exact .inl ⟨hok, by rw [hok]; rfl⟩
      · exact .inr ⟨herror, by rw [herror]; rfl⟩
    · rw [hother service]
      refine calls_deleteAll_withService service _ _ ?_
      rw [hasked]
      exact (verify_cases (Prod.eta _).symm).1

end Partners

end ClusterProbe
