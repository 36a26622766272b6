import ClusterProbe.Proofs.Run.Partners

/-!
# What the console does not change

Lines on the console are the only thing in a history that nothing else depends on. Worlds that
differ in such lines alone are alike, and a run does the same in worlds that are alike.
-/

namespace ClusterProbe

/-- Whether an event is more than a line that was printed. -/
def Event.isDeed : Event → Bool
  | .line _ => false
  | .errorLine _ => false
  | _ => true

namespace World

/-- All that has happened but for the lines that were printed: actions, attempts, pauses and files
that were written, in order. -/
def deeds (w : World) : List Event := w.history.toList.filter Event.isDeed

/-- A deed is the last of all deeds; a line is none. -/
theorem deeds_push (w : World) (e : Event) :
    (w.push e).deeds = w.deeds ++ if e.isDeed then [e] else [] := by
  rw [deeds, toList_history_push, List.filter_append, List.filter_cons]
  cases e.isDeed <;> rfl

private theorem filterMap_filter_isDeed {α : Type} (f : Event → Option α)
    (hf : ∀ e, e.isDeed = false → f e = none) (events : List Event) :
    (events.filter Event.isDeed).filterMap f = events.filterMap f := by
  induction events with
  | nil => rfl
  | cons e rest ih =>
    cases he : e.isDeed with
    | true => rw [List.filter_cons_of_pos he, List.filterMap_cons, List.filterMap_cons, ih]
    | false =>
      rw [List.filter_cons_of_neg (Bool.eq_false_iff.mp he), List.filterMap_cons, hf e he, ih]

/-- The actions are among the deeds. -/
theorem calls_eq_filterMap_deeds (w : World) : w.calls = w.deeds.filterMap Event.call? := by
  refine (filterMap_filter_isDeed _ (fun e he ↦ ?_) _).symm
  cases e with
  | line _ => rfl
  | errorLine _ => rfl
  | _ => cases he

/-- The attempts are among the deeds. -/
theorem attempted_eq_filterMap_deeds (w : World) :
    w.attempted = w.deeds.filterMap Event.attempt? := by
  refine (filterMap_filter_isDeed _ (fun e he ↦ ?_) _).symm
  cases e with
  | line _ => rfl
  | errorLine _ => rfl
  | _ => cases he

/-- Two worlds differ in nothing but the lines that were printed. -/
structure Alike (v w : World) : Prop where
  files : v.files = w.files
  script : v.script = w.script
  deeds : v.deeds = w.deeds

namespace Alike

variable {v w : World}

theorem symm (h : v.Alike w) : w.Alike v := ⟨h.files.symm, h.script.symm, h.deeds.symm⟩

theorem trans {u : World} (h : u.Alike v) (k : v.Alike w) : u.Alike w :=
  ⟨h.files.trans k.files, h.script.trans k.script, h.deeds.trans k.deeds⟩

theorem calls (h : v.Alike w) : v.calls = w.calls := by
  rw [calls_eq_filterMap_deeds, calls_eq_filterMap_deeds, h.deeds]

theorem attempted (h : v.Alike w) : v.attempted = w.attempted := by
  rw [attempted_eq_filterMap_deeds, attempted_eq_filterMap_deeds, h.deeds]

/-- Worlds that are alike stay so when the same thing happens in both. -/
theorem push (h : v.Alike w) (e : Event) : (v.push e).Alike (w.push e) :=
  ⟨h.files, h.script, by rw [deeds_push, deeds_push, h.deeds]⟩

/-- Worlds that are alike stay so when their files come to the same. -/
theorem with_files (h : v.Alike w) (fs : FileSystem) :
    Alike { v with files := fs } { w with files := fs } := ⟨rfl, h.script, h.deeds⟩

end Alike

/-- Printing leaves a world that is alike. -/
theorem alike_print (w : World) (lines : List String) : (w.print lines).Alike w := by
  induction lines generalizing w with
  | nil => exact ⟨rfl, rfl, rfl⟩
  | cons line rest ih =>
    have h := ih (w.push (.line line))
    exact ⟨h.files, h.script, h.deeds.trans ((deeds_push w _).trans (List.append_nil _))⟩

end World

namespace Stage

variable {α β : Type}

/-- A stage takes no notice of the lines on the console, and takes back nothing that was done. -/
structure IgnoresLines (x : Stage Rehearsal α) : Prop where
  same : ∀ {v w : World}, v.Alike w →
    (x.rehearse v).1 = (x.rehearse w).1 ∧ (x.rehearse v).2.Alike (x.rehearse w).2
  prefix_deeds : ∀ w : World, w.deeds <+: (x.rehearse w).2.deeds

namespace IgnoresLines

theorem pure (a : α) : IgnoresLines (Pure.pure a : Stage Rehearsal α) :=
  ⟨fun h ↦ ⟨rfl, h⟩, fun _ ↦ List.prefix_rfl⟩

theorem throw (e : Error) : IgnoresLines (MonadExcept.throw e : Stage Rehearsal α) :=
  ⟨fun h ↦ ⟨rfl, h⟩, fun _ ↦ List.prefix_rfl⟩

theorem ofExcept (x : Except Error α) : IgnoresLines (Stage.ofExcept x : Stage Rehearsal α) :=
  ⟨fun h ↦ ⟨rfl, h⟩, fun _ ↦ List.prefix_rfl⟩

theorem attempt {x : Stage Rehearsal α} (h : x.IgnoresLines) : x.attempt.IgnoresLines :=
  ⟨fun hw ↦ ⟨congrArg Except.ok (h.same hw).1, (h.same hw).2⟩, h.prefix_deeds⟩

/-- Two stages that take no notice of the console, one after the other, take none. -/
theorem bind {x : Stage Rehearsal α} {f : α → Stage Rehearsal β} (hx : x.IgnoresLines)
    (hf : ∀ a, (f a).IgnoresLines) : (x >>= f).IgnoresLines := by
  constructor
  · intro v w h
    obtain ⟨hr, ha⟩ := hx.same h
    rw [rehearse_bind, rehearse_bind]
    rcases hv : x.rehearse v with ⟨rv, v'⟩
    rcases hw : x.rehearse w with ⟨rw, w'⟩
    rw [hv, hw] at hr ha
    obtain rfl : rv = rw := hr
    cases rv with
    | error e => exact ⟨rfl, ha⟩
    | ok a => exact (hf a).same ha
  · intro w
    have hp := hx.prefix_deeds w
    rw [rehearse_bind]
    rcases hw : x.rehearse w with ⟨e | a, u⟩
    · rw [hw] at hp
      exact hp
    · rw [hw] at hp
      exact hp.trans ((hf a).prefix_deeds u)

/-- Noting one more thing takes no notice of the console if what it comes to does not. -/
theorem of_push {x : Stage Rehearsal α} {f : World → Except Error α} {e : Event}
    (hx : ∀ w, x.rehearse w = (f w, w.push e)) (hf : ∀ {v w : World}, v.Alike w → f v = f w) :
    x.IgnoresLines := by
  constructor
  · intro v w h
    rw [hx, hx]
    exact ⟨hf h, h.push e⟩
  · intro w
    rw [hx, World.deeds_push]
    exact List.prefix_append _ _

theorem sleep (colours : Bool) (seconds : Nat) :
    IgnoresLines (liftM ((Rehearsal.machine colours).sleep seconds) : Stage Rehearsal Unit) :=
  of_push (f := fun _ ↦ .ok ()) (fun _ ↦ rfl) fun _ ↦ rfl

/-- A report takes no notice of the lines in front of it. -/
theorem report (colours : Bool) (status : Status) (name message : String) :
    IgnoresLines
      (liftM ((Rehearsal.machine colours).report status name message) : Stage Rehearsal Unit) := by
  constructor
  · intro v w h
    rw [rehearse_lift, rehearse_lift, Rehearsal.run_report, Rehearsal.run_report]
    exact ⟨rfl, (World.alike_print v _).trans (h.trans (World.alike_print w _).symm)⟩
  · intro w
    rw [rehearse_lift, Rehearsal.run_report]
    exact ⟨[], (List.append_nil _).trans (World.alike_print w _).deeds.symm⟩

/-- Rendering depends on the files, and on nothing else that is in the world. -/
theorem render (colours : Bool) (r : Renderer) (identifier : String) :
    IgnoresLines (r.render (Rehearsal.machine colours) identifier) := by
  constructor
  · intro v w h
    rw [Renderer.rehearse_render, Renderer.rehearse_render, h.files]
    cases r.textIn w.files identifier with
    | error e => exact ⟨rfl, h⟩
    | ok text =>
      rcases w.files.makeDirs r.home.depsDir with ⟨fs, e | _⟩
      · exact ⟨rfl, h.with_files fs⟩
      · dsimp only
        cases fs.writeText (r.home.renderedFile identifier) text with
        | error e => exact ⟨rfl, h.with_files fs⟩
        | ok written => exact ⟨rfl, (h.with_files written).push _⟩
  · intro w
    rw [Renderer.rehearse_render]
    split
    · exact List.prefix_rfl
    · split
      · exact List.prefix_rfl
      · split
        · exact List.prefix_rfl
        · rw [World.deeds_push]
          exact List.prefix_append _ _

end IgnoresLines

end Stage

namespace Partners

open Stage

/-! ### The stages of a run -/

section Steps

variable (p : Partners) (colours : Bool) (renderer : Renderer) (s : Settings)

/-- What the cluster answers depends on the actions alone. -/
theorem ignoresLines_act (action : Action) (name : String) (manifest : Path) :
    ((p.runner colours renderer s).act action name manifest).IgnoresLines := by
  refine .of_push (f := fun w ↦ p.cluster (w.push (.call (action, name, manifest))).calls)
    (fun w ↦ rfl) fun h ↦ ?_
  rw [(h.push _).calls]

/-- What the service answers depends on the attempts alone. -/
theorem ignoresLines_ask (c : TestCase) :
    IgnoresLines
      (liftM (p.toProbe.verify c.name c.request c.response) : Stage Rehearsal Verification) := by
  refine .of_push (f := fun w ↦ .ok (p.service (w.attempted ++ [c.attempt])))
    (e := .attempt c.attempt) (fun w ↦ ?_) fun h ↦ ?_
  · rw [rehearse_lift, run_verify]
  · rw [h.attempted]

theorem ignoresLines_deploy (name identifier : String) :
    ((p.runner colours renderer s).deploy name identifier).IgnoresLines :=
  (IgnoresLines.report ..).bind fun _ ↦ (IgnoresLines.render ..).bind fun _ ↦
    (IgnoresLines.report ..).bind fun _ ↦ (p.ignoresLines_act ..).bind fun _ ↦ .pure _

theorem ignoresLines_deployAll (name : String) (identifiers : List String) :
    ((p.runner colours renderer s).deployAll name identifiers).IgnoresLines := by
  induction identifiers with
  | nil => exact .pure _
  | cons identifier rest ih =>
    exact (p.ignoresLines_deploy ..).bind fun _ ↦ ih.bind fun _ ↦ .pure _

theorem ignoresLines_deleteAll (name : String) (manifests : List Path) :
    ((p.runner colours renderer s).deleteAll name manifests).IgnoresLines := by
  induction manifests with
  | nil => exact .pure _
  | cons manifest rest ih => exact (p.ignoresLines_act ..).bind fun _ ↦ ih

theorem ignoresLines_verifyUpTo (c : TestCase) (left : Nat) :
    ((p.runner colours renderer s).verifyUpTo c left).IgnoresLines := by
  have hgive : ((p.runner colours renderer s).giveUp c).IgnoresLines :=
    (IgnoresLines.report ..).bind fun _ ↦ .throw _
  induction left with
  | zero => exact hgive
  | succ left ih =>
    refine (p.ignoresLines_ask c).bind fun outcome ↦ ?_
    split
    · exact .report ..
    · refine (IgnoresLines.report ..).bind fun _ ↦ ?_
      split
      · exact hgive
      · exact (IgnoresLines.sleep ..).bind fun _ ↦ (IgnoresLines.report ..).bind fun _ ↦ ih

/-- A test case does the same in worlds that are alike. -/
theorem ignoresLines_runCase (c : TestCase) :
    ((p.runner colours renderer s).runCase c).IgnoresLines := by
  have hsetup : ((p.runner colours renderer s).setup c).IgnoresLines :=
    (p.ignoresLines_deployAll ..).bind fun _ ↦ .pure _
  refine (IgnoresLines.report ..).bind fun _ ↦ hsetup.bind fun d ↦
    (p.ignoresLines_verifyUpTo ..).attempt.bind fun verified ↦
      (p.ignoresLines_deleteAll ..).attempt.bind fun tornDown ↦ ?_
  cases verified with
  | error e => exact .throw e
  | ok _ => exact .ofExcept tornDown

/-- Test cases do the same in worlds that are alike. -/
theorem ignoresLines_runCases (passed : Nat) (cases : List TestCase) :
    ((p.runner colours renderer s).runCases passed cases).IgnoresLines := by
  induction cases generalizing passed with
  | nil => exact .pure _
  | cons c rest ih => exact (p.ignoresLines_runCase ..).bind fun _ ↦ ih (passed + 1)

end Steps

end Partners

end ClusterProbe
