import ClusterProbe.Rehearsal

/-!
# Stages in a rehearsal

What a stage of a run comes to in a world, and the world that it leaves: one equation for every way
to put stages together, and one for every operation of the machine. Everything about whole runs is
derived from these equations.
-/

namespace ClusterProbe

namespace World

/-- The world in which one more thing has happened. -/
def push (w : World) (e : Event) : World := { w with history := w.history.push e }

/-- The world in which lines were printed. -/
def print (w : World) (lines : List String) : World :=
  lines.foldl (fun w line ↦ w.push (.line line)) w

/-- What happens is the last thing in the history. -/
theorem toList_history_push (w : World) (e : Event) :
    (w.push e).history.toList = w.history.toList ++ [e] := by
  rw [push, Array.toList_push]

/-- An action is the last of all actions; nothing else that happens is an action. -/
theorem calls_push (w : World) (e : Event) :
    (w.push e).calls = w.calls ++ e.call?.toList := by
  rw [calls, toList_history_push, List.filterMap_append]
  cases h : e.call? <;> simp [calls, h]

/-- An attempt is the last of all attempts; nothing else that happens is an attempt. -/
theorem attempted_push (w : World) (e : Event) :
    (w.push e).attempted = w.attempted ++ e.attempt?.toList := by
  rw [attempted, toList_history_push, List.filterMap_append]
  cases h : e.attempt? <;> simp [attempted, h]

end World

namespace Stage

variable {α β : Type}

/-- What a stage comes to in a world, and the world after it. -/
def rehearse (x : Stage Rehearsal α) (w : World) : Except Error α × World := x.run.run w

@[simp] theorem rehearse_lift (x : Rehearsal α) (w : World) :
    (liftM x : Stage Rehearsal α).rehearse w = (.ok (x.run w).1, (x.run w).2) := rfl

@[simp] theorem rehearse_ofExcept (x : Except Error α) (w : World) :
    (Stage.ofExcept x : Stage Rehearsal α).rehearse w = (x, w) := rfl

/-- An attempted stage never ends the run. -/
@[simp] theorem rehearse_attempt (x : Stage Rehearsal α) (w : World) :
    x.attempt.rehearse w = (.ok (x.rehearse w).1, (x.rehearse w).2) := rfl

/-- The second of two stages begins in the world that the first one leaves, unless the first one
ends the run. -/
theorem rehearse_bind (x : Stage Rehearsal α) (f : α → Stage Rehearsal β) (w : World) :
    (x >>= f).rehearse w =
      match x.rehearse w with
      | (.ok a, v) => (f a).rehearse v
      | (.error e, v) => (.error e, v) := by
  simp only [rehearse, ExceptT.run_bind, StateT.run_bind]
  rcases x.run.run w with ⟨_ | _, v⟩ <;> rfl

/-- A stage whose result is only put into another form ends a run exactly where it would itself. -/
theorem rehearse_bind_pure (x : Stage Rehearsal α) (f : α → β) (w : World) :
    (x >>= fun a ↦ pure (f a)).rehearse w = ((x.rehearse w).1.map f, (x.rehearse w).2) := by
  rw [rehearse_bind]
  rcases x.rehearse w with ⟨_ | _, _⟩ <;> rfl

/-- The two ways in which two stages, one after the other, come to something. -/
theorem rehearse_bind_eq_iff {x : Stage Rehearsal α} {f : α → Stage Rehearsal β} {w v : World}
    {result : Except Error β} :
    (x >>= f).rehearse w = (result, v) ↔
      (∃ a u, x.rehearse w = (.ok a, u) ∧ (f a).rehearse u = (result, v)) ∨
        ∃ e, x.rehearse w = (.error e, v) ∧ result = .error e := by
  rw [rehearse_bind]
  rcases x.rehearse w with ⟨e | a, u⟩
  · simp only [Prod.mk.injEq, reduceCtorEq, false_and, exists_false, false_or, Except.error.injEq]
    constructor
    · rintro ⟨rfl, rfl⟩
      exact ⟨e, ⟨rfl, rfl⟩, rfl⟩
    · rintro ⟨_, ⟨rfl, rfl⟩, rfl⟩
      exact ⟨rfl, rfl⟩
  · simp only [Prod.mk.injEq, Except.ok.injEq, reduceCtorEq, false_and, exists_false, or_false]
    constructor
    · intro h
      exact ⟨a, u, ⟨rfl, rfl⟩, h⟩
    · rintro ⟨_, _, ⟨rfl, rfl⟩, h⟩
      exact h

end Stage

namespace Rehearsal

/-! ### Operations of the machine -/

@[simp] theorem run_sleep (colours : Bool) (seconds : Nat) (w : World) :
    ((machine colours).sleep seconds).run w = ((), w.push (.pause seconds)) := rfl

theorem run_printLines (colours : Bool) (lines : List String) (w : World) :
    ((machine colours).printLines lines).run w = ((), w.print lines) := by
  induction lines generalizing w with
  | nil => rfl
  | cons line rest ih => exact ih (w.push (.line line))

/-- A report prints its lines. -/
@[simp] theorem run_report (colours : Bool) (status : Status) (name message : String)
    (w : World) :
    ((machine colours).report status name message).run w =
      ((), w.print (Report.lines colours status name message)) :=
  run_printLines colours _ w

/-- A report is printed, and then comes what is to come. -/
theorem rehearse_report_bind {α : Type} (colours : Bool) (status : Status)
    (name message : String) (f : Unit → Stage Rehearsal α) (w : World) :
    ((liftM ((machine colours).report status name message) : Stage Rehearsal Unit) >>= f).rehearse
        w =
      (f ()).rehearse (w.print (Report.lines colours status name message)) := by
  rw [Stage.rehearse_bind, Stage.rehearse_lift, run_report]

/-- Reading a file leaves the world as it is. -/
theorem rehearse_read (colours : Bool) (p : Path) (w : World) :
    ((machine colours).read p).rehearse w =
      ((w.files.readText p).mapError fun e ↦ .fileRead p.text e.message, w) := by
  have hread : ((machine colours).readText p).run w = (w.files.readText p, w) := rfl
  rw [Machine.read, Stage.rehearse_bind, Stage.rehearse_lift, hread]
  cases w.files.readText p <;> rfl

@[simp] theorem rehearse_done_ok (u : Unit) (w : World) :
    (Machine.done (.ok u) : Stage Rehearsal Unit).rehearse w = (.ok (), w) := rfl

/-- Directories are made in the files and nowhere else. -/
@[simp] theorem run_makeDirs (colours : Bool) (p : Path) (w : World) :
    ((machine colours).makeDirs p).run w =
      ((w.files.makeDirs p).2, { w with files := (w.files.makeDirs p).1 }) := rfl

/-- The files are changed, or else nothing changes. -/
theorem run_change (f : FileSystem → Except IoFailure FileSystem) (w : World) :
    (Rehearsal.change f).run w =
      match f w.files with
      | .ok fs => (.ok (), { w with files := fs })
      | .error e => (.error e, w) := by
  rw [Rehearsal.change, StateT.run_bind, StateT.run_get, pure_bind]
  cases f w.files <;> rfl

/-- A file is written, and that is noted, or else nothing changes. -/
theorem run_writeText (colours : Bool) (p : Path) (text : String) (w : World) :
    ((machine colours).writeText p text).run w =
      match w.files.writeText p text with
      | .ok fs => (.ok (), ({ w with files := fs } : World).push (.wrote p text))
      | .error e => (.error e, w) := by
  change (writeText p text).run w = _
  rw [writeText, StateT.run_bind, run_change]
  cases w.files.writeText p text <;> rfl

end Rehearsal

end ClusterProbe
