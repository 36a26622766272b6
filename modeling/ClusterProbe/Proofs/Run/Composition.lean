import ClusterProbe.Proofs.Run.Console

/-!
# Runs one after the other

A run of some test cases and then others is a run of the first ones and, if that does not end with
an error, a run of the others in the world that it leaves. Only the summary of the first run is
missing.
-/

namespace ClusterProbe

namespace Summary

/-- The sum of two summaries. -/
def add (first second : Summary) : Summary :=
  ⟨first.total + second.total, first.passed + second.passed⟩

end Summary

namespace Partners

section Steps

variable (p : Partners) (colours : Bool) (renderer : Renderer) (s : Settings)

/-- Test cases are run where the ones in front of them have left the world and the count, unless one
of these ends the run. -/
theorem rehearse_runCases_append (passed : Nat) (a b : List TestCase) (w : World) :
    ((p.runner colours renderer s).runCases passed (a ++ b)).rehearse w =
      match ((p.runner colours renderer s).runCases passed a).rehearse w with
      | (.ok n, v) => ((p.runner colours renderer s).runCases n b).rehearse v
      | (.error e, v) => (.error e, v) := by
  induction a generalizing passed w with
  | nil => rfl
  | cons c rest ih =>
    rw [List.cons_append, rehearse_runCases_cons, rehearse_runCases_cons]
    rcases ((p.runner colours renderer s).runCase c).rehearse w with ⟨e | _, u⟩
    · rfl
    · exact ih (passed + 1) u

/-- In worlds that are alike a run comes to the same, and leaves worlds that are alike. -/
theorem ignoresLines_run (cases : List TestCase) :
    ((p.runner colours renderer s).run cases).IgnoresLines :=
  (p.ignoresLines_runCases ..).bind fun _ ↦
    (Stage.IgnoresLines.report ..).bind fun _ ↦ .pure _

/-- A run that goes on where test cases have succeeded: it is a run of the rest, but for how it is
summed up. -/
theorem rehearse_run_append_of_ok {a b : List TestCase} {w u : World} {passed : Nat}
    (h : ((p.runner colours renderer s).runCases 0 a).rehearse w = (.ok passed, u)) :
    (((p.runner colours renderer s).run (a ++ b)).rehearse w).1 =
        (((p.runner colours renderer s).run b).rehearse u).1.map
          (Summary.add ⟨a.length, a.length⟩) ∧
      (((p.runner colours renderer s).run (a ++ b)).rehearse w).2.Alike
        (((p.runner colours renderer s).run b).rehearse u).2 := by
  have hcount := rehearse_runCases_add (p.runner colours renderer s) passed 0 b u
  rw [Nat.add_zero] at hcount
  rw [rehearse_run, rehearse_run, rehearse_runCases_append, h, List.length_append]
  dsimp only
  rw [hcount]
  rcases ((p.runner colours renderer s).runCases 0 b).rehearse u with ⟨e | _, x⟩
  · exact ⟨rfl, rfl, rfl, rfl⟩
  · simp only [Except.map, summarize_ok]
    exact ⟨rfl, (World.alike_print x _).trans (World.alike_print x _).symm⟩

end Steps

/-- If a run of the first test cases ends with an error, so does every run that goes on with others,
and the world is the same. If not, the run goes on as a run of the others would in the world that
is left: the deeds are those of the two runs, one after the other, the files come to the same, and
the results are added up. -/
theorem run_append (p : Partners) (colours : Bool) (renderer : Renderer) (s : Settings)
    (a b : List TestCase) (w : World) :
    let run := fun cases w ↦ ((p.runner colours renderer s).run cases).rehearse w
    match run a w with
    | (.error e, v) => run (a ++ b) w = (.error e, v)
    | (.ok first, v) =>
      (run (a ++ b) w).1 = (run b v).1.map first.add ∧
        (run (a ++ b) w).2.files = (run b v).2.files ∧
        ∃ earlier later, v.deeds = w.deeds ++ earlier ∧
          (run b v).2.deeds = v.deeds ++ later ∧
          (run (a ++ b) w).2.deeds = w.deeds ++ earlier ++ later := by
  intro run
  have hrun : run a w = _ := rehearse_run a w
  have hgrows : w.deeds <+: (run a w).2.deeds :=
    (p.ignoresLines_run colours renderer s a).prefix_deeds w
  rw [hrun] at hgrows ⊢
  rcases h : ((p.runner colours renderer s).runCases 0 a).rehearse w with ⟨e | _, u⟩
  · change ((p.runner colours renderer s).run (a ++ b)).rehearse w = _
    rw [rehearse_run, rehearse_runCases_append, h]
    exact summarize_error ..
  · rw [h] at hgrows
    simp only [summarize_ok, run] at hgrows ⊢
    obtain ⟨hresult, hworld⟩ := p.rehearse_run_append_of_ok colours renderer s (b := b) h
    -- the summary of the first run is all that sets the two worlds apart
    obtain ⟨hsame, halike⟩ := (p.ignoresLines_run colours renderer s b).same
      (World.alike_print u (summaryLines colours a.length)).symm
    have hend := hworld.trans halike
    obtain ⟨earlier, hearlier⟩ := hgrows
    obtain ⟨later, hlater⟩ := (p.ignoresLines_run colours renderer s b).prefix_deeds
      (u.print (summaryLines colours a.length))
    rw [hsame] at hresult
    refine ⟨hresult, hend.files, earlier, later, hearlier.symm, hlater.symm, ?_⟩
    rw [← hearlier] at hlater
    exact hend.deeds.trans hlater.symm

end Partners

end ClusterProbe
