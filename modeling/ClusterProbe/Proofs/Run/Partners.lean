import ClusterProbe.Proofs.Run.Rendering

/-!
# A run with any partners

A run speaks to a cluster and to a service. Here both may answer as they like, by all that was asked
of them so far. A step of a run is described for such partners by what it can come to: which calls
and attempts it makes, and what their answers lead to.
-/

namespace ClusterProbe

/-- The attempt that a test case is verified by. -/
def TestCase.attempt (c : TestCase) : Attempt := (c.name, c.request, c.response)

/-- The calls of one kind for the renderings of identifiers, in order, on behalf of a test case. -/
def callsFor (home : HomeDir) (action : Action) (name : String) (identifiers : List String) :
    List Call :=
  identifiers.map fun identifier ↦ (action, name, home.renderedFile identifier)

theorem callsFor_cons (home : HomeDir) (action : Action) (name identifier : String)
    (rest : List String) :
    callsFor home action name (identifier :: rest) =
      (action, name, home.renderedFile identifier) :: callsFor home action name rest := rfl

theorem callsFor_append (home : HomeDir) (action : Action) (name : String) (a b : List String) :
    callsFor home action name (a ++ b) =
      callsFor home action name a ++ callsFor home action name b :=
  List.map_append

/-- How the cluster and the service answer: by all that was asked of them, the last question
included. -/
structure Partners where
  cluster : List Call → Except Error Unit
  service : List Attempt → Verification

namespace Partners

/-- The cluster among the partners. -/
def toCluster (p : Partners) : Cluster Rehearsal :=
  ⟨fun action name manifest ↦ do
    Rehearsal.note (.call (action, name, manifest))
    return p.cluster (← get).calls⟩

/-- The service among the partners. -/
def toProbe (p : Partners) : Probe Rehearsal :=
  ⟨fun name request expected ↦ do
    Rehearsal.note (.attempt (name, request, expected))
    return p.service (← get).attempted⟩

/-- The runner that has these partners. -/
def runner (p : Partners) (colours : Bool) (renderer : Renderer) (s : Settings) :
    Runner Rehearsal :=
  Runner.ofSettings (Rehearsal.machine colours) renderer p.toCluster p.toProbe s

@[simp] theorem runner_machine (p : Partners) (colours : Bool) (renderer : Renderer)
    (s : Settings) : (p.runner colours renderer s).machine = Rehearsal.machine colours := rfl

@[simp] theorem runner_renderer (p : Partners) (colours : Bool) (renderer : Renderer)
    (s : Settings) : (p.runner colours renderer s).renderer = renderer := rfl

@[simp] theorem runner_probe (p : Partners) (colours : Bool) (renderer : Renderer)
    (s : Settings) : (p.runner colours renderer s).probe = p.toProbe := rfl

@[simp] theorem runner_retries (p : Partners) (colours : Bool) (renderer : Renderer)
    (s : Settings) : (p.runner colours renderer s).retries = max s.retries 1 := rfl

/-! ### Logs of calls -/

/-- The calls of a log, made one after the other behind the calls before, all succeed. -/
def Accepts (p : Partners) : List Call → List Call → Prop
  | _, [] => True
  | before, c :: rest => p.cluster (before ++ [c]) = .ok () ∧ p.Accepts (before ++ [c]) rest

/-- A log succeeds if its first part does, and then its second part behind that. -/
theorem accepts_append (p : Partners) (before a b : List Call) :
    p.Accepts before (a ++ b) ↔ p.Accepts before a ∧ p.Accepts (before ++ a) b := by
  induction a generalizing before with
  | nil => simp [Accepts]
  | cons c rest ih =>
    rw [List.cons_append, Accepts, Accepts, ih, List.append_assoc, List.singleton_append,
      and_assoc]

/-- The last call of a log that succeeds is not refused. -/
theorem Accepts.last {p : Partners} {before log : List Call} (h : p.Accepts before log)
    (hne : log ≠ []) : p.cluster (before ++ log) = .ok () := by
  obtain ⟨front, c, rfl⟩ := List.eq_nil_or_concat log |>.resolve_left hne
  rw [List.concat_eq_append, accepts_append] at h
  rw [List.concat_eq_append, ← List.append_assoc]
  exact h.2.1

/-! ### Attempts at one test case -/

/-- The outcome of an attempt at a test case behind `j` others. -/
def outcome (p : Partners) (earlier : List Attempt) (c : TestCase) (j : Nat) : Verification :=
  p.service (earlier ++ List.replicate (j + 1) c.attempt)

/-- The first attempt that passes has `k` failures in front of it. -/
def FirstPass (p : Partners) (earlier : List Attempt) (c : TestCase) (k : Nat) : Prop :=
  (∀ j < k, (p.outcome earlier c j).passed = false) ∧ (p.outcome earlier c k).passed = true

/-- One of the first `n` attempts at a test case passes. -/
def Verifies (p : Partners) (n : Nat) (earlier : List Attempt) (c : TestCase) : Prop :=
  ∃ k < n, p.FirstPass earlier c k

/-- The attempts after one attempt are those behind one more. -/
theorem outcome_succ (p : Partners) (earlier : List Attempt) (c : TestCase) (j : Nat) :
    p.outcome (earlier ++ [c.attempt]) c j = p.outcome earlier c (j + 1) := by
  rw [outcome, outcome, List.append_assoc, List.singleton_append, ← List.replicate_succ]

/-- There is one first attempt that passes. -/
theorem FirstPass.unique {p : Partners} {earlier : List Attempt} {c : TestCase} {j k : Nat}
    (hj : p.FirstPass earlier c j) (hk : p.FirstPass earlier c k) : j = k := by
  rcases Nat.lt_trichotomy j k with h | h | h
  · have := hk.1 j h
    rw [hj.2] at this
    cases this
  · exact h
  · have := hj.1 k h
    rw [hk.2] at this
    cases this

/-- A test case of which every attempt fails is not verified. -/
theorem not_verifies {p : Partners} {n : Nat} {earlier : List Attempt} {c : TestCase}
    (h : ∀ j < n, (p.outcome earlier c j).passed = false) : ¬ p.Verifies n earlier c := by
  rintro ⟨k, hk, hf⟩
  have := h k hk
  rw [hf.2] at this
  cases this

section Steps

variable {p : Partners} {colours : Bool} {renderer : Renderer} {s : Settings}
variable {w v : World}

/-- An action is noted, and comes to what the cluster answers to all actions so far. -/
theorem rehearse_act (action : Action) (name : String) (manifest : Path) (w : World) :
    ((p.runner colours renderer s).act action name manifest).rehearse w =
      (p.cluster (w.calls ++ [(action, name, manifest)]),
        w.push (.call (action, name, manifest))) := by
  change (p.cluster (w.push (.call (action, name, manifest))).calls, _) = _
  rw [World.calls_push]
  rfl

/-- An action is the last of all actions, and comes to what the cluster answers to them. -/
theorem act_cases {action : Action} {name : String} {manifest : Path} {result : Except Error Unit}
    (h : ((p.runner colours renderer s).act action name manifest).rehearse w = (result, v)) :
    v.attempted = w.attempted ∧ v.calls = w.calls ++ [(action, name, manifest)] ∧
      result = p.cluster v.calls := by
  rw [rehearse_act] at h
  obtain ⟨rfl, rfl⟩ := Prod.mk.injEq .. ▸ h
  have hcalls := World.calls_push w (.call (action, name, manifest))
  refine ⟨?_, hcalls, ?_⟩
  · rw [World.attempted_push]
    exact List.append_nil _
  · rw [hcalls]
    rfl

/-- An attempt is noted, and comes to what the service answers to all attempts so far. -/
theorem run_verify (c : TestCase) (w : World) :
    (p.toProbe.verify c.name c.request c.response).run w =
      (p.service (w.attempted ++ [c.attempt]), w.push (.attempt c.attempt)) := by
  change (p.service (w.push (.attempt c.attempt)).attempted, _) = _
  rw [World.attempted_push]
  rfl

/-- A setup is the deployment of all that a test case names. -/
theorem rehearse_setup (c : TestCase) (w : World) :
    ((p.runner colours renderer s).setup c).rehearse w =
      ((((p.runner colours renderer s).deployAll c.name c.context).rehearse w).1.map
          (Deployment.mk c.name),
        (((p.runner colours renderer s).deployAll c.name c.context).rehearse w).2) := by
  rw [Runner.setup, Stage.rehearse_bind_pure]

/-- Where a teardown can end: behind its last call, or at a call that the cluster refuses. -/
theorem deleteAll_cases {name : String} {identifiers : List String} {result : Except Error Unit}
    (h : ((p.runner colours renderer s).deleteAll name
      (identifiers.map renderer.home.renderedFile)).rehearse w = (result, v)) :
    v.attempted = w.attempted ∧
      ((result = .ok () ∧ v.calls = w.calls ++ callsFor renderer.home .delete name identifiers ∧
          p.Accepts w.calls (callsFor renderer.home .delete name identifiers)) ∨
        ∃ done identifier later e, identifiers = done ++ identifier :: later ∧
          result = .error e ∧ p.Accepts w.calls (callsFor renderer.home .delete name done) ∧
          v.calls = w.calls ++ callsFor renderer.home .delete name (done ++ [identifier]) ∧
          p.cluster v.calls = .error e) := by
  induction identifiers generalizing w v result with
  | nil =>
    obtain ⟨rfl, rfl⟩ := Prod.mk.injEq .. ▸ h
    exact ⟨rfl, .inl ⟨rfl, (List.append_nil _).symm, trivial⟩⟩
  | cons identifier rest ih =>
    rw [List.map_cons, Runner.deleteAll, Stage.rehearse_bind_eq_iff] at h
    rcases h with ⟨_, u, hd, h⟩ | ⟨e, hd, rfl⟩
    · obtain ⟨ha, hc, hok⟩ := act_cases hd
      rw [hc] at hok
      obtain ⟨hva, hv⟩ := ih h
      rw [hc] at hv
      refine ⟨hva.trans ha, ?_⟩
      rcases hv with ⟨rfl, hvc, hacc⟩ | ⟨done, stuck, later, e, rfl, rfl, hacc, hvc, hend⟩
      · refine .inl ⟨rfl, ?_, ⟨hok.symm, hacc⟩⟩
        rw [hvc, callsFor_cons, ← List.append_cons]
      · refine .inr ⟨identifier :: done, stuck, later, e, rfl, rfl,
          ⟨hok.symm, hacc⟩, ?_, hend⟩
        rw [hvc, List.cons_append, callsFor_cons, ← List.append_cons]
    · obtain ⟨ha, hc, he⟩ := act_cases hd
      exact ⟨ha, .inr ⟨[], identifier, rest, e, rfl, rfl, trivial, hc, he.symm⟩⟩

/-- The lines that a finished run ends with. -/
def summaryLines (colours : Bool) (n : Nat) : List String :=
  Report.lines colours .ok "test summary"
    (toString n ++ " of " ++ toString n ++ " test cases passed")

/-- What a run comes to when its test cases have come to something: it says that all of them passed,
or it stops and says nothing more. -/
def summarize (colours : Bool) (n : Nat) : Except Error Nat × World → Except Error Summary × World
  | (.ok _, u) => (.ok ⟨n, n⟩, u.print (summaryLines colours n))
  | (.error e, u) => (.error e, u)

@[simp] theorem summarize_ok (colours : Bool) (n passed : Nat) (u : World) :
    summarize colours n (.ok passed, u) = (.ok ⟨n, n⟩, u.print (summaryLines colours n)) := rfl

@[simp] theorem summarize_error (colours : Bool) (n : Nat) (e : Error) (u : World) :
    summarize colours n (.error e, u) = (.error e, u) := rfl

/-- A test case that passes counts as one more, and the others are run behind it. One that does not
ends the run. -/
theorem rehearse_runCases_cons (r : Runner Rehearsal) (passed : Nat) (c : TestCase)
    (rest : List TestCase) (w : World) :
    (r.runCases passed (c :: rest)).rehearse w =
      match (r.runCase c).rehearse w with
      | (.ok _, v) => (r.runCases (passed + 1) rest).rehearse v
      | (.error e, v) => (.error e, v) := by
  rw [Runner.runCases, Stage.rehearse_bind]
  rcases (r.runCase c).rehearse w with ⟨_ | _, _⟩ <;> rfl

/-- Where test cases come to an end without an error, as many have passed as there are. -/
theorem passed_of_rehearse_runCases {r : Runner Rehearsal} {passed n : Nat} {cases : List TestCase}
    (h : (r.runCases passed cases).rehearse w = (.ok n, v)) : n = passed + cases.length := by
  -- one more has passed for every test case that is left
  induction cases generalizing passed w with
  | nil => exact (Except.ok.inj (Prod.mk.inj h).1).symm
  | cons c rest ih =>
    rw [Runner.runCases, Stage.rehearse_bind_eq_iff] at h
    rcases h with ⟨_, u, -, h⟩ | ⟨e, -, h⟩
    · rw [ih h, List.length_cons]
      omega
    · cases h

/-- The test cases that have passed before are counted, and change nothing else. -/
theorem rehearse_runCases_add (r : Runner Rehearsal) (before passed : Nat) (cases : List TestCase)
    (w : World) :
    (r.runCases (before + passed) cases).rehearse w =
      (((r.runCases passed cases).rehearse w).1.map (before + ·),
        ((r.runCases passed cases).rehearse w).2) := by
  induction cases generalizing passed w with
  | nil => rfl
  | cons c rest ih =>
    rw [rehearse_runCases_cons, rehearse_runCases_cons]
    rcases (r.runCase c).rehearse w with ⟨_ | _, u⟩
    · rfl
    · exact ih (passed + 1) u

/-- A run goes through its test cases and says that all of them passed, whoever its partners are. -/
theorem rehearse_run_of_machine {r : Runner Rehearsal} (hmachine : r.machine = Rehearsal.machine colours)
    (cases : List TestCase) (w : World) :
    (r.run cases).rehearse w =
      summarize colours cases.length ((r.runCases 0 cases).rehearse w) := by
  rw [Runner.run, Stage.rehearse_bind]
  rcases hcases : (r.runCases 0 cases).rehearse w with ⟨_ | passed, u⟩
  · rfl
  · obtain rfl : passed = cases.length := by
      rw [passed_of_rehearse_runCases hcases, Nat.zero_add]
    simp only [hmachine, Rehearsal.rehearse_report_bind]
    rfl

theorem rehearse_run (cases : List TestCase) (w : World) :
    ((p.runner colours renderer s).run cases).rehearse w =
      summarize colours cases.length
        (((p.runner colours renderer s).runCases 0 cases).rehearse w) :=
  rehearse_run_of_machine rfl cases w

end Steps

end Partners

end ClusterProbe
