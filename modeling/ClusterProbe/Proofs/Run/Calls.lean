import ClusterProbe.Proofs.Run.Setup

/-!
# The calls of a run

The calls that a run makes are one block after the other, a block for each test case: all manifests
of the test case are applied, and then all of them are deleted. Only the last block of a run can be
cut short, and then the run ends with an error.
-/

namespace ClusterProbe

/-- The calls of a test case that nothing cuts short. -/
def TestCase.block (home : HomeDir) (c : TestCase) : List Call :=
  callsFor home .apply c.name c.context ++ callsFor home .delete c.name c.context

namespace Partners

/-- The calls of a log that succeed, made one after the other behind the calls before. -/
def accepted (p : Partners) : List Call → List Call → List Call
  | _, [] => []
  | before, c :: rest =>
    match p.cluster (before ++ [c]) with
    | .ok () => c :: p.accepted (before ++ [c]) rest
    | .error _ => p.accepted (before ++ [c]) rest

/-- Of a log that succeeds, all calls succeed. -/
theorem accepted_eq_self {p : Partners} {before log : List Call} (h : p.Accepts before log) :
    p.accepted before log = log := by
  induction log generalizing before with
  | nil => rfl
  | cons c rest ih => rw [accepted, h.1, ih h.2]

/-- Test cases are verified one after the other, each by the last of at most `n` attempts. -/
def VerifiesAll (p : Partners) (n : Nat) :
    List Attempt → List TestCase → List Attempt → Prop
  | earlier, [], tried => tried = earlier
  | earlier, c :: rest, tried =>
    ∃ k < n, p.FirstPass earlier c k ∧
      p.VerifiesAll n (earlier ++ List.replicate (k + 1) c.attempt) rest tried

/-- Test cases are verified if the first ones are, and then the others. -/
theorem verifiesAll_append {p : Partners} {n : Nat} {earlier tried : List Attempt}
    {a b : List TestCase} :
    p.VerifiesAll n earlier (a ++ b) tried ↔
      ∃ between, p.VerifiesAll n earlier a between ∧ p.VerifiesAll n between b tried := by
  induction a generalizing earlier with
  | nil => simp [VerifiesAll]
  | cons c rest ih =>
    simp only [List.cons_append, VerifiesAll, ih]
    constructor
    · rintro ⟨k, hk, hf, between, ha, hb⟩
      exact ⟨between, ⟨k, hk, hf, ha⟩, hb⟩
    · rintro ⟨between, ⟨k, hk, hf, ha⟩, hb⟩
      exact ⟨k, hk, hf, between, ha, hb⟩

/-- The attempts at test cases that are verified are determined. -/
theorem VerifiesAll.unique {p : Partners} {n : Nat} {earlier tried tried' : List Attempt}
    {cases : List TestCase} (h : p.VerifiesAll n earlier cases tried)
    (h' : p.VerifiesAll n earlier cases tried') : tried = tried' := by
  induction cases generalizing earlier with
  | nil => exact Eq.trans h h'.symm
  | cons c rest ih =>
    obtain ⟨k, _, hf, hr⟩ := h
    obtain ⟨k', _, hf', hr'⟩ := h'
    obtain rfl := hf.unique hf'
    exact ih hr hr'

/-- How a test case that begins in one world can end a run in another one with an error: the calls
that it made until then, and the error. -/
inductive Stops (p : Partners) (colours : Bool) (renderer : Renderer) (n : Nat) (c : TestCase)
    (w v : World) : List Call → Error → Prop
  /-- An identifier cannot be rendered. -/
  | render {done later : List String} {identifier : String} {e : Error} {u : World}
      (context_eq : c.context = done ++ identifier :: later)
      (accepts : p.Accepts w.calls (callsFor renderer.home .apply c.name done))
      (failed : (renderer.render (Rehearsal.machine colours) identifier).rehearse u =
        (.error e, v)) :
      p.Stops colours renderer n c w v (callsFor renderer.home .apply c.name done) e
  /-- The cluster refuses to apply a manifest. -/
  | apply {done later : List String} {identifier : String} {e : Error}
      (context_eq : c.context = done ++ identifier :: later)
      (accepts : p.Accepts w.calls (callsFor renderer.home .apply c.name done))
      (refused : p.cluster (w.calls ++
        callsFor renderer.home .apply c.name (done ++ [identifier])) = .error e) :
      p.Stops colours renderer n c w v
        (callsFor renderer.home .apply c.name (done ++ [identifier])) e
  /-- The cluster refuses to delete a manifest. An attempt has passed, or the run had given up. -/
  | delete {done later : List String} {identifier : String} {e e' : Error}
      (context_eq : c.context = done ++ identifier :: later)
      (accepts : p.Accepts w.calls (callsFor renderer.home .apply c.name c.context ++
        callsFor renderer.home .delete c.name done))
      (refused : p.cluster (w.calls ++ (callsFor renderer.home .apply c.name c.context ++
        callsFor renderer.home .delete c.name (done ++ [identifier]))) = .error e)
      (error_eq : (p.Verifies n w.attempted c ∧ e' = e) ∨
        (¬ p.Verifies n w.attempted c ∧ e' = .timeout c.name n)) :
      p.Stops colours renderer n c w v (callsFor renderer.home .apply c.name c.context ++
        callsFor renderer.home .delete c.name (done ++ [identifier])) e'
  /-- No attempt passes. -/
  | verify (accepts : p.Accepts w.calls (c.block renderer.home))
      (failed : ¬ p.Verifies n w.attempted c) :
      p.Stops colours renderer n c w v (c.block renderer.home) (.timeout c.name n)

section Steps

variable {p : Partners} {colours : Bool} {renderer : Renderer} {s : Settings}
variable {w v : World}

/-- A test case makes its whole block of calls, or stops. -/
theorem runCase_cases {c : TestCase} {result : Except Error Unit}
    (h : ((p.runner colours renderer s).runCase c).rehearse w = (result, v)) :
    (result = .ok () ∧ v.calls = w.calls ++ c.block renderer.home ∧
        p.Accepts w.calls (c.block renderer.home) ∧
        ∃ k < max s.retries 1, p.FirstPass w.attempted c k ∧
          v.attempted = w.attempted ++ List.replicate (k + 1) c.attempt) ∨
      ∃ last e, result = .error e ∧ v.calls = w.calls ++ last ∧
        p.Stops colours renderer (max s.retries 1) c w v last e := by
  rw [Runner.runCase, runner_machine, Rehearsal.rehearse_report_bind, Stage.rehearse_bind,
    rehearse_setup] at h
  have hq := World.Quiet.print w (Report.lines colours .note c.name ("Testing " ++ c.name))
  generalize w.print _ = x at h hq
  rcases hd : ((p.runner colours renderer s).deployAll c.name c.context).rehearse x with ⟨rd, y⟩
  rw [hd] at h
  obtain ⟨hya, hy⟩ := deployAll_cases hd
  rw [hq.attempted] at hya
  rw [hq.calls] at hy
  rcases hy with ⟨rfl, hyc, hacc⟩ | ⟨done, identifier, later, e, hctx, rfl, hacc, hend⟩
  · simp only [Except.map, Stage.rehearse_bind, Stage.rehearse_attempt] at h
    rcases hver : ((p.runner colours renderer s).verify c).rehearse y with ⟨verified, z⟩
    rw [hver] at h
    rcases ht : ((p.runner colours renderer s).teardown
      ⟨c.name, c.context.map renderer.home.renderedFile⟩).rehearse z with ⟨tornDown, u⟩
    rw [ht] at h
    obtain ⟨hzc, hz⟩ := verify_cases hver
    obtain ⟨hua, hu⟩ := deleteAll_cases ht
    rw [hya] at hz
    rw [hzc, hyc] at hu
    rcases hu with ⟨rfl, huc, hdel⟩ | ⟨done, identifier, later, e, hctx, rfl, hdel, huc, he⟩
    · have hblock := (p.accepts_append _ _ _).mpr ⟨hacc, hdel⟩
      rw [List.append_assoc] at huc
      rcases hz with ⟨rfl, k, hk, hf, hza⟩ | ⟨rfl, hf, hza⟩
      · obtain ⟨rfl, rfl⟩ := Prod.mk.injEq .. ▸ h
        exact .inl ⟨rfl, huc, hblock, k, hk, hf, hua.trans hza⟩
      · obtain ⟨rfl, rfl⟩ := Prod.mk.injEq .. ▸ h
        exact .inr ⟨_, _, rfl, huc, .verify hblock (not_verifies hf)⟩
    · have hblock := (p.accepts_append _ _ _).mpr ⟨hacc, hdel⟩
      rw [List.append_assoc] at huc
      rcases hz with ⟨rfl, k, hk, hf, hza⟩ | ⟨rfl, hf, hza⟩
      · obtain ⟨rfl, rfl⟩ := Prod.mk.injEq .. ▸ h
        exact .inr ⟨_, _, rfl, huc,
          .delete hctx hblock (huc ▸ he) (.inl ⟨⟨k, hk, hf⟩, rfl⟩)⟩
      · obtain ⟨rfl, rfl⟩ := Prod.mk.injEq .. ▸ h
        exact .inr ⟨_, _, rfl, huc, .delete hctx hblock (huc ▸ he) (.inr ⟨not_verifies hf, rfl⟩)⟩
  · simp only [Except.map] at h
    obtain ⟨rfl, rfl⟩ := Prod.mk.injEq .. ▸ h
    rcases hend with ⟨hc, u, hr⟩ | ⟨hc, hr⟩
    · exact .inr ⟨_, _, rfl, hc, .render hctx hacc hr⟩
    · exact .inr ⟨_, _, rfl, hc, .apply hctx hacc (hc ▸ hr)⟩

/-- The blocks of the test cases that a run finishes, and what it does behind them: nothing, or the
calls of a test case that stops. -/
theorem runCases_cases {passed : Nat} {cases : List TestCase} {result : Except Error Nat}
    (h : ((p.runner colours renderer s).runCases passed cases).rehearse w = (result, v)) :
    ∃ finished rest last start, cases = finished ++ rest ∧
      World.calls start = w.calls ++ finished.flatMap (·.block renderer.home) ∧
      p.Accepts w.calls (finished.flatMap (·.block renderer.home)) ∧
      p.VerifiesAll (max s.retries 1) w.attempted finished start.attempted ∧
      v.calls = start.calls ++ last ∧
      ((rest = [] ∧ last = [] ∧ result = .ok (passed + cases.length)) ∨
        ∃ c later e, rest = c :: later ∧ result = .error e ∧
          p.Stops colours renderer (max s.retries 1) c start v last e) := by
  induction cases generalizing passed w with
  | nil =>
    obtain ⟨rfl, rfl⟩ := Prod.mk.injEq .. ▸ h
    exact ⟨[], [], [], w, rfl, (List.append_nil _).symm, trivial, rfl, (List.append_nil _).symm,
      .inl ⟨rfl, rfl, rfl⟩⟩
  | cons c rest ih =>
    rw [Runner.runCases, Stage.rehearse_bind_eq_iff] at h
    rcases h with ⟨_, u, hc, h⟩ | ⟨e, hc, rfl⟩
    · rcases runCase_cases hc with ⟨-, huc, hacc, k, hk, hf, hua⟩ | ⟨_, _, he, _⟩
      · obtain ⟨finished, left, last, start, rfl, hs, hsa, hsv, hv, hend⟩ := ih h
        rw [huc] at hs hsa
        rw [hua] at hsv
        rw [Nat.add_right_comm, Nat.add_assoc passed] at hend
        refine ⟨c :: finished, left, last, start, rfl, ?_, ?_, ⟨k, hk, hf, hsv⟩, hv, hend⟩
        · rw [hs, List.flatMap_cons, List.append_assoc]
        · rw [List.flatMap_cons, accepts_append]
          exact ⟨hacc, hsa⟩
      · cases he
    · rcases runCase_cases hc with ⟨he, _⟩ | ⟨last, e', he, hv, hstop⟩
      · cases he
      · obtain rfl := Except.error.inj he
        exact ⟨[], c :: rest, last, w, rfl, (List.append_nil _).symm, trivial, rfl, hv,
          .inr ⟨c, rest, e, rfl, rfl, hstop⟩⟩

end Steps

/-- A test case of which all calls succeed and one attempt passes does not stop. -/
theorem Stops.incomplete {p : Partners} {colours : Bool} {renderer : Renderer} {n : Nat}
    {c : TestCase} {w v : World} {last more : List Call} {e : Error}
    (h : p.Stops colours renderer n c w v last e) (hl : last = c.block renderer.home ++ more)
    (ha : p.Accepts w.calls last) : ¬ p.Verifies n w.attempted c := by
  intro hv
  cases h with
  | render context_eq =>
    have hlen := congrArg List.length hl
    simp only [TestCase.block, callsFor, context_eq, List.length_append, List.length_map,
      List.length_cons] at hlen
    omega
  | apply context_eq accepts refused =>
    rw [ha.last (by simp [callsFor])] at refused
    cases refused
  | delete context_eq accepts refused =>
    rw [ha.last (by simp [callsFor])] at refused
    cases refused
  | verify accepts failed => exact failed hv

private theorem count_callsFor (home : HomeDir) (a b : Action) (owner name : String)
    (context : List String) (path : Path) :
    (callsFor home a owner context).count (a, name, path) =
      (callsFor home b owner context).count (b, name, path) := by
  induction context with
  | nil => rfl
  | cons identifier rest ih =>
    rw [callsFor_cons, callsFor_cons, List.count_cons, List.count_cons, ih]
    simp

private theorem count_callsFor_of_ne (home : HomeDir) {a b : Action} (hab : a ≠ b)
    (owner name : String) (context : List String) (path : Path) :
    (callsFor home a owner context).count (b, name, path) = 0 := by
  rw [List.count_eq_zero]
  intro hm
  obtain ⟨_, _, he⟩ := List.mem_map.mp hm
  exact hab (congrArg Prod.fst he)

/-- Of the calls of whole blocks, those that apply a manifest are as many as those that delete
it. -/
theorem count_blocks (home : HomeDir) (cases : List TestCase) (name : String) (path : Path) :
    (cases.flatMap (·.block home)).count (.apply, name, path) =
      (cases.flatMap (·.block home)).count (.delete, name, path) := by
  induction cases with
  | nil => rfl
  | cons c rest ih =>
    have happly := count_callsFor_of_ne home (a := .delete) (b := .apply) (by decide) c.name name
      c.context path
    have hdelete := count_callsFor_of_ne home (a := .apply) (b := .delete) (by decide) c.name name
      c.context path
    have hsame := count_callsFor home .apply .delete c.name name c.context path
    simp only [List.flatMap_cons, TestCase.block, List.count_append] at ih ⊢
    omega

/-- Of whole blocks that succeed, and of the first ones of them, every manifest that is applied is
deleted as often. -/
theorem count_accepted_blocks {p : Partners} {home : HomeDir} {before : List Call}
    {finished earlier : List TestCase}
    (h : p.Accepts before (finished.flatMap (·.block home))) (hearlier : earlier <+: finished)
    (name : String) (path : Path) :
    (p.accepted before (earlier.flatMap (·.block home))).count (.apply, name, path) =
      (p.accepted before (earlier.flatMap (·.block home))).count (.delete, name, path) := by
  obtain ⟨others, rfl⟩ := hearlier
  rw [List.flatMap_append, accepts_append] at h
  rw [accepted_eq_self h.1]
  exact count_blocks home earlier name path

/-- Test cases are all finished exactly if every call of every block is made and succeeds and every
test case is verified. -/
theorem runCases_ok_iff {p : Partners} {colours : Bool} {renderer : Renderer} {s : Settings}
    {passed : Nat} {cases : List TestCase} {w u : World} {result : Except Error Nat}
    (h : ((p.runner colours renderer s).runCases passed cases).rehearse w = (result, u)) :
    result = .ok (passed + cases.length) ↔
      u.calls = w.calls ++ cases.flatMap (·.block renderer.home) ∧
        p.Accepts w.calls (cases.flatMap (·.block renderer.home)) ∧
        ∃ tried, p.VerifiesAll (max s.retries 1) w.attempted cases tried := by
  obtain ⟨finished, rest, last, start, rfl, hs, hacc, hver, hu, hend⟩ := runCases_cases h
  rcases hend with ⟨rfl, rfl, rfl⟩ | ⟨c, later, e, rfl, rfl, hstop⟩
  · rw [List.append_nil] at hu ⊢
    exact iff_of_true rfl ⟨hu.trans hs, hacc, _, hver⟩
  · refine iff_of_false (by rintro ⟨⟩) ?_
    -- whole blocks leave no place for a test case that stops
    rintro ⟨hv, hall, tried, htried⟩
    rw [hu, hs, List.flatMap_append, List.append_assoc, List.append_cancel_left_eq,
      List.append_cancel_left_eq, List.flatMap_cons] at hv
    rw [List.flatMap_append, accepts_append, List.flatMap_cons, ← hv, ← hs] at hall
    rw [verifiesAll_append] at htried
    obtain ⟨between, hbetween, k, hk, hf, -⟩ := htried
    obtain rfl := hbetween.unique hver
    exact hstop.incomplete hv hall.2 ⟨k, hk, hf⟩

/-- A run makes the block of calls of one test case after the other. It ends with the last test
case, or with the calls of one that stops, and it comes to a summary exactly if every call of every
block succeeds and every test case is verified. Where a test case begins, all that was applied
before has been deleted again. -/
theorem calls_run (p : Partners) (colours : Bool) (renderer : Renderer) (s : Settings)
    (cases : List TestCase) (w : World) :
    let n := max s.retries 1
    let result := (((p.runner colours renderer s).run cases).rehearse w).1
    let v := (((p.runner colours renderer s).run cases).rehearse w).2
    (∃ finished rest last start, cases = finished ++ rest ∧
        World.calls start = w.calls ++ finished.flatMap (·.block renderer.home) ∧
        p.Accepts w.calls (finished.flatMap (·.block renderer.home)) ∧
        p.VerifiesAll n w.attempted finished start.attempted ∧
        (∀ earlier, earlier <+: finished → ∀ name path,
          (p.accepted w.calls (earlier.flatMap (·.block renderer.home))).count
              (.apply, name, path) =
            (p.accepted w.calls (earlier.flatMap (·.block renderer.home))).count
              (.delete, name, path)) ∧
        v.calls = start.calls ++ last ∧
        ((rest = [] ∧ last = [] ∧ result = .ok ⟨cases.length, cases.length⟩) ∨
          ∃ c later e, rest = c :: later ∧ result = .error e ∧
            p.Stops colours renderer n c start v last e)) ∧
      ∀ summary, result = .ok summary ↔
        summary = ⟨cases.length, cases.length⟩ ∧
          v.calls = w.calls ++ cases.flatMap (·.block renderer.home) ∧
          p.Accepts w.calls (cases.flatMap (·.block renderer.home)) ∧
          ∃ tried, p.VerifiesAll n w.attempted cases tried := by
  intro n result v
  obtain ⟨rc, u, hrun⟩ : ∃ rc u, ((p.runner colours renderer s).runCases 0 cases).rehearse w =
    (rc, u) := ⟨_, _, rfl⟩
  have hrv : (result, v) = summarize colours cases.length (rc, u) := hrun ▸ rehearse_run cases w
  have hq : v.calls = u.calls := by
    cases rc with
    | error e => rw [(Prod.mk.inj hrv).2]
    | ok _ => rw [(Prod.mk.inj hrv).2, (World.Quiet.print u _).calls]
  constructor
  · obtain ⟨finished, rest, last, start, hcases, hs, hacc, hver, hu, hend⟩ := runCases_cases hrun
    refine ⟨finished, rest, last, start, hcases, hs, hacc, hver,
      fun _ h ↦ count_accepted_blocks hacc h, hq.trans hu, ?_⟩
    rcases hend with ⟨hrest, hlast, rfl⟩ | ⟨c, later, e, hrest, rfl, hstop⟩
    · exact .inl ⟨hrest, hlast, (Prod.mk.inj hrv).1⟩
    · rw [(Prod.mk.inj hrv).2]
      exact .inr ⟨c, later, e, hrest, (Prod.mk.inj hrv).1, hstop⟩
  · intro summary
    rw [hq, ← runCases_ok_iff hrun]
    cases rc with
    | error e =>
      rw [(Prod.mk.inj hrv).1]
      refine iff_of_false ?_ ?_
      · rintro ⟨⟩
      · rintro ⟨-, ⟨⟩⟩
    | ok passed =>
      rw [(Prod.mk.inj hrv).1, passed_of_rehearse_runCases hrun, Except.ok.injEq, eq_comm]
      exact (and_iff_left rfl).symm

end Partners

end ClusterProbe
