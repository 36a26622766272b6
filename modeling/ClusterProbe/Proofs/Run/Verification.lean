import ClusterProbe.Proofs.Run.Partners

/-!
# The attempts at one test case

All that happens while a response is asked for, one event after the other: a failed attempt says why,
and unless it was the last one there is a pause and then the number of attempts that there were in
front of it, counted down from all of them. Main statement: a verification is some such rounds and
one last attempt, which passes or is the last that there may be, and what it shows is computed in
32 bits without wrapping around.
-/

namespace ClusterProbe

namespace Event

/-- The seconds of a pause, if the event is one. -/
def pause? : Event → Option Nat
  | .pause seconds => some seconds
  | _ => none

/-- The seconds of all pauses. -/
def seconds (events : List Event) : Nat := (events.filterMap pause?).foldr (· + ·) 0

theorem seconds_append (a b : List Event) : seconds (a ++ b) = seconds a + seconds b := by
  rw [seconds, seconds, List.filterMap_append]
  induction a.filterMap pause? with
  | nil => exact (Nat.zero_add _).symm
  | cons n rest ih => rw [List.cons_append, List.foldr_cons, List.foldr_cons, ih, Nat.add_assoc]

/-- Pauses of one length. -/
theorem seconds_of_replicate {events : List Event} {k pause : Nat}
    (h : events.filterMap pause? = List.replicate k pause) : seconds events = k * pause := by
  rw [seconds, h]
  clear h
  induction k with
  | zero => exact (Nat.zero_mul pause).symm
  | succ k ih => rw [List.replicate_succ, List.foldr_cons, ih, Nat.succ_mul, Nat.add_comm]

end Event

namespace World

/-- The world in which some more things have happened, one after the other. -/
def record (w : World) (events : List Event) : World := events.foldl push w

theorem record_cons (w : World) (e : Event) (events : List Event) :
    w.record (e :: events) = (w.push e).record events := rfl

theorem record_append (w : World) (a b : List Event) : w.record (a ++ b) = (w.record a).record b :=
  List.foldl_append

theorem print_eq_record (w : World) (lines : List String) :
    w.print lines = w.record (lines.map .line) := by
  rw [print, record, List.foldl_map]

theorem toList_history_record (w : World) (events : List Event) :
    (w.record events).history.toList = w.history.toList ++ events := by
  induction events generalizing w with
  | nil => exact (List.append_nil _).symm
  | cons e rest ih =>
    refine (ih (w.push e)).trans ?_
    rw [toList_history_push, List.append_assoc, List.singleton_append]

/-- The actions among some events are the last of all actions. -/
theorem calls_record (w : World) (events : List Event) :
    (w.record events).calls = w.calls ++ events.filterMap Event.call? := by
  rw [calls, toList_history_record, List.filterMap_append]
  rfl

/-- The attempts among some events are the last of all attempts. -/
theorem attempted_record (w : World) (events : List Event) :
    (w.record events).attempted = w.attempted ++ events.filterMap Event.attempt? := by
  rw [attempted, toList_history_record, List.filterMap_append]
  rfl

theorem elapsed_eq (w : World) : w.elapsed = Event.seconds w.history.toList := rfl

/-- The pauses among some events add to the time that has passed. -/
theorem elapsed_record (w : World) (events : List Event) :
    (w.record events).elapsed = w.elapsed + Event.seconds events := by
  rw [elapsed_eq, elapsed_eq, toList_history_record, Event.seconds_append]

end World

namespace Report

/-- A report, as it goes into a history. -/
def events (colours : Bool) (status : Status) (name message : String) : List Event :=
  (lines colours status name message).map .line

/-- There is nothing but lines in a report. -/
theorem filterMap_events {α : Type} {f : Event → Option α} (hf : ∀ line, f (.line line) = none)
    (colours : Bool) (status : Status) (name message : String) :
    (events colours status name message).filterMap f = [] := by
  rw [events, List.filterMap_map, List.filterMap_eq_nil_iff]
  exact fun line _ ↦ hf line

end Report

namespace Partners

/-- The number shown after an attempt that is not the last of `n`: how many attempts there were in
front of it and it included. It is computed in 32 bits. -/
def shown (n attempt : UInt32) : UInt32 := n - attempt + 1

/-- What is shown is what it says, for neither the subtraction nor the addition wraps around. -/
theorem toNat_shown {n attempt : UInt32} (hpos : 0 < attempt.toNat)
    (hle : attempt.toNat ≤ n.toNat) :
    (n - attempt).toNat = n.toNat - attempt.toNat ∧ (n - attempt).toNat + 1 < UInt32.size ∧
      (shown n attempt).toNat = n.toNat - attempt.toNat + 1 := by
  have hsub : (n - attempt).toNat = n.toNat - attempt.toNat :=
    UInt32.toNat_sub_of_le n attempt (UInt32.le_iff_toNat_le.mpr hle)
  have hroom : (n - attempt).toNat + 1 < UInt32.size := by
    have hn : n.toNat < UInt32.size := n.toNat_lt
    omega
  refine ⟨hsub, hroom, ?_⟩
  rw [shown, UInt32.toNat_add, UInt32.toNat_one, Nat.mod_eq_of_lt hroom, hsub]

/-- There is at least one attempt. -/
theorem toNat_max_one (r : UInt32) : (max r 1).toNat = max r.toNat 1 := by
  have hmax : max r 1 = if r ≤ 1 then 1 else r := rfl
  rw [hmax, apply_ite UInt32.toNat]
  simp only [UInt32.le_iff_toNat_le, UInt32.toNat_one]
  split <;> omega

section Rounds

variable (p : Partners) (colours : Bool) (pause : Nat) (earlier : List Attempt) (c : TestCase)

/-- The attempt behind `j` others, and the report on its outcome. -/
def tried (status : Status) (j : Nat) : List Event :=
  .attempt c.attempt ::
    Report.events colours status c.name (p.outcome earlier c j).message

/-- An attempt behind `j` others that fails and is not the last one: why it failed, a pause, and a
number. -/
def failedRound (number j : Nat) : List Event :=
  p.tried colours earlier c .failed j ++
    .pause pause :: Report.events colours .progress c.name ("Another retry: " ++ toString number)

/-- The first rounds of a verification of up to `n` attempts. -/
def failedRounds (number : Nat → Nat) (rounds : Nat) : List Event :=
  (List.range rounds).flatMap fun j ↦ p.failedRound colours pause earlier c (number j) j

/-- What is reported where the last attempt has failed. -/
def gaveUp : List Event := Report.events colours .failed c.name "Timeout for testing... quit."

theorem failedRounds_zero (number : Nat → Nat) :
    p.failedRounds colours pause earlier c number 0 = [] := rfl

/-- An attempt behind one more is told from there by one number less. -/
theorem tried_succ (status : Status) (j : Nat) :
    p.tried colours (earlier ++ [c.attempt]) c status j =
      p.tried colours earlier c status (j + 1) := by
  rw [tried, tried, outcome_succ]

/-- The rounds behind one round are those of a verification with one attempt less. -/
theorem failedRounds_succ (number : Nat → Nat) (rounds : Nat) :
    p.failedRounds colours pause earlier c number (rounds + 1) =
      p.failedRound colours pause earlier c (number 0) 0 ++
        p.failedRounds colours pause (earlier ++ [c.attempt]) c (fun j ↦ number (j + 1)) rounds := by
  rw [failedRounds, List.range_succ_eq_map, List.flatMap_cons, List.flatMap_map]
  simp only [failedRounds, failedRound, tried_succ]

/-- The numbers of the rounds are all that matters of the numbers. -/
theorem failedRounds_congr {number number' : Nat → Nat} {rounds : Nat}
    (h : ∀ j < rounds, number j = number' j) :
    p.failedRounds colours pause earlier c number rounds =
      p.failedRounds colours pause earlier c number' rounds := by
  induction rounds generalizing earlier number number' with
  | zero => rw [failedRounds_zero, failedRounds_zero]
  | succ rounds ih =>
    rw [failedRounds_succ, failedRounds_succ, h 0 (Nat.zero_lt_succ rounds),
      ih _ fun j hj ↦ h (j + 1) (Nat.succ_lt_succ hj)]

/-- But for lines there is nothing beside the attempt. -/
theorem filterMap_tried {α : Type} {f : Event → Option α} (hline : ∀ line, f (.line line) = none)
    (status : Status) (j : Nat) :
    (p.tried colours earlier c status j).filterMap f = [.attempt c.attempt].filterMap f := by
  simp only [tried, List.filterMap_cons, Report.filterMap_events hline, List.filterMap_nil]

/-- But for lines there is one attempt and one pause in a round. -/
theorem filterMap_failedRound {α : Type} {f : Event → Option α}
    (hline : ∀ line, f (.line line) = none) (number j : Nat) :
    (p.failedRound colours pause earlier c number j).filterMap f =
      [.attempt c.attempt, .pause pause].filterMap f := by
  simp only [failedRound, tried, List.cons_append, List.filterMap_cons, List.filterMap_append,
    Report.filterMap_events hline, List.nil_append, List.filterMap_nil]

/-- But for lines there is the same in each round. -/
theorem filterMap_failedRounds {α : Type} {f : Event → Option α}
    (hline : ∀ line, f (.line line) = none) (number : Nat → Nat) (rounds : Nat) :
    (p.failedRounds colours pause earlier c number rounds).filterMap f =
      (List.replicate rounds ([.attempt c.attempt, .pause pause].filterMap f)).flatten := by
  induction rounds generalizing earlier number with
  | zero => rfl
  | succ rounds ih =>
    rw [failedRounds_succ, List.filterMap_append, filterMap_failedRound _ _ _ _ _ hline, ih,
      List.replicate_succ, List.flatten_cons]

/-- Behind some rounds and one more attempt, this is what was asked of the cluster and of the service,
and how much time has passed. -/
theorem log_of_rounds (number : Nat → Nat) (rounds : Nat) (status : Status) (more : List Event)
    (hmore : ∀ {α : Type} {f : Event → Option α},
      (∀ line, f (.line line) = none) → more.filterMap f = []) (w : World) :
    let v := w.record (p.failedRounds colours pause earlier c number rounds ++
      (p.tried colours earlier c status rounds ++ more))
    v.calls = w.calls ∧ v.attempted = w.attempted ++ List.replicate (rounds + 1) c.attempt ∧
      v.elapsed = w.elapsed + rounds * pause := by
  have hseen {α : Type} {f : Event → Option α} (hline : ∀ line, f (.line line) = none) :
      (p.failedRounds colours pause earlier c number rounds ++
        (p.tried colours earlier c status rounds ++ more)).filterMap f =
      (List.replicate rounds ([.attempt c.attempt, .pause pause].filterMap f)).flatten ++
        [.attempt c.attempt].filterMap f := by
    rw [List.filterMap_append, List.filterMap_append, p.filterMap_failedRounds _ _ _ _ hline,
      hmore hline, p.filterMap_tried _ _ _ hline, List.append_nil]
  refine ⟨?_, ?_, ?_⟩
  · rw [World.calls_record, hseen fun _ ↦ rfl]
    refine (congrArg (w.calls ++ ·) ?_).trans (List.append_nil _)
    exact (List.append_nil _).trans List.flatten_replicate_nil
  · rw [World.attempted_record, hseen fun _ ↦ rfl, List.replicate_succ']
    exact congrArg (fun earlier ↦ w.attempted ++ (earlier ++ [c.attempt])) List.flatten_replicate_singleton
  · rw [World.elapsed_record]
    refine congrArg (w.elapsed + ·) (Event.seconds_of_replicate ((hseen fun _ ↦ rfl).trans ?_))
    exact (List.append_nil _).trans List.flatten_replicate_singleton

end Rounds

section Steps

variable {p : Partners} {colours : Bool} {renderer : Renderer} {s : Settings}

/-- What one attempt leads to: the end of the verification, or what is left of it. -/
theorem rehearse_verifyUpTo_succ (c : TestCase) (left : Nat) (w : World) :
    ((p.runner colours renderer s).verifyUpTo c (left + 1)).rehearse w =
      if (p.outcome w.attempted c 0).passed then
        (.ok (), w.record (p.tried colours w.attempted c .ok 0))
      else if left = 0 then
        (.error (.timeout c.name (max s.retries 1)),
          w.record (p.tried colours w.attempted c .failed 0 ++ gaveUp colours c))
      else ((p.runner colours renderer s).verifyUpTo c left).rehearse
        (w.record (p.failedRound colours s.retryInterval w.attempted c (left + 1) 0)) := by
  have hask : (p.toProbe.verify c.name c.request c.response).run w =
      (p.outcome w.attempted c 0, w.push (.attempt c.attempt)) := run_verify c w
  rw [Runner.verifyUpTo, runner_probe, runner_machine, Stage.rehearse_bind, Stage.rehearse_lift,
    hask]
  dsimp only
  split
  · rw [Stage.rehearse_lift, Rehearsal.run_report, World.print_eq_record]
    rfl
  · rw [Rehearsal.rehearse_report_bind, World.print_eq_record]
    split
    · rw [Runner.giveUp, runner_machine, Rehearsal.rehearse_report_bind, World.print_eq_record,
        World.record_append]
      rfl
    · rw [Stage.rehearse_bind, Stage.rehearse_lift, Rehearsal.run_sleep]
      simp only [Rehearsal.rehearse_report_bind]
      rw [World.print_eq_record, failedRound, tried, World.record_append, World.record_cons,
        World.record_cons]
      rfl

/-- What is left of a verification is some rounds that fail, and one last attempt. -/
theorem verifyUpTo_rounds {c : TestCase} {left : Nat} {w v : World} {result : Except Error Unit}
    (h : ((p.runner colours renderer s).verifyUpTo c (left + 1)).rehearse w = (result, v)) :
    ∃ k ≤ left, (∀ j < k, (p.outcome w.attempted c j).passed = false) ∧
      (((p.outcome w.attempted c k).passed = true ∧ result = .ok () ∧
          v = w.record (p.failedRounds colours s.retryInterval w.attempted c (left + 1 - ·) k ++
            p.tried colours w.attempted c .ok k)) ∨
        (k = left ∧ (p.outcome w.attempted c k).passed = false ∧
          result = .error (.timeout c.name (max s.retries 1)) ∧
          v = w.record (p.failedRounds colours s.retryInterval w.attempted c (left + 1 - ·) k ++
            (p.tried colours w.attempted c .failed k ++ gaveUp colours c)))) := by
  induction left generalizing w with
  | zero =>
    rw [rehearse_verifyUpTo_succ] at h
    refine ⟨0, Nat.le_refl 0, fun j hj ↦ absurd hj (Nat.not_lt_zero j), ?_⟩
    split at h
    next hp =>
      obtain ⟨rfl, rfl⟩ := Prod.mk.injEq .. ▸ h
      exact .inl ⟨hp, rfl, rfl⟩
    next hp =>
      rw [if_pos rfl] at h
      obtain ⟨rfl, rfl⟩ := Prod.mk.injEq .. ▸ h
      exact .inr ⟨rfl, Bool.eq_false_iff.mpr hp, rfl, rfl⟩
  | succ left ih =>
    rw [rehearse_verifyUpTo_succ] at h
    split at h
    next hp =>
      obtain ⟨rfl, rfl⟩ := Prod.mk.injEq .. ▸ h
      exact ⟨0, Nat.zero_le _, fun j hj ↦ absurd hj (Nat.not_lt_zero j), .inl ⟨hp, rfl, rfl⟩⟩
    next hp =>
      rw [if_neg (Nat.succ_ne_zero left)] at h
      obtain ⟨k, hk, hfailed, hlast⟩ := ih h
      have hround : (w.record (p.failedRound colours s.retryInterval w.attempted c
          (left + 1 + 1) 0)).attempted = w.attempted ++ [c.attempt] := by
        rw [World.attempted_record, filterMap_failedRound _ _ _ _ _ fun _ ↦ rfl]
        rfl
      rw [hround] at hfailed hlast
      simp only [outcome_succ, tried_succ] at hfailed hlast
      have hnumber : (fun j ↦ left + 1 + 1 - (j + 1)) = (left + 1 - ·) := by
        funext j
        omega
      refine ⟨k + 1, Nat.succ_le_succ hk, fun j hj ↦ ?_, ?_⟩
      · cases j with
        | zero => exact Bool.eq_false_iff.mpr hp
        | succ j => exact hfailed j (Nat.lt_of_succ_lt_succ hj)
      · rw [← World.record_append, ← World.record_append] at hlast
        rw [failedRounds_succ, hnumber, List.append_assoc, List.append_assoc]
        exact hlast.imp_right (And.imp_left (congrArg Nat.succ))

/-- A verification is some rounds that fail, and one last attempt. -/
theorem verify_rounds {c : TestCase} {last : Nat} (hlast : max s.retries 1 = last + 1) {w v : World}
    {result : Except Error Unit}
    (h : ((p.runner colours renderer s).verify c).rehearse w = (result, v)) :
    ∃ k ≤ last, (∀ j < k, (p.outcome w.attempted c j).passed = false) ∧
      (((p.outcome w.attempted c k).passed = true ∧ result = .ok () ∧
          v = w.record (p.failedRounds colours s.retryInterval w.attempted c (last + 1 - ·) k ++
            p.tried colours w.attempted c .ok k)) ∨
        (k = last ∧ (p.outcome w.attempted c k).passed = false ∧
          result = .error (.timeout c.name (max s.retries 1)) ∧
          v = w.record (p.failedRounds colours s.retryInterval w.attempted c (last + 1 - ·) k ++
            (p.tried colours w.attempted c .failed k ++ gaveUp colours c)))) := by
  rw [Runner.verify, runner_retries, hlast] at h
  exact verifyUpTo_rounds h

/-- A verification leaves the cluster alone. It ends with the first attempt that passes, or with the
last one that there may be. -/
theorem verify_cases {c : TestCase} {w v : World} {result : Except Error Unit}
    (h : ((p.runner colours renderer s).verify c).rehearse w = (result, v)) :
    v.calls = w.calls ∧
      ((result = .ok () ∧ ∃ k < max s.retries 1, p.FirstPass w.attempted c k ∧
          v.attempted = w.attempted ++ List.replicate (k + 1) c.attempt) ∨
        (result = .error (.timeout c.name (max s.retries 1)) ∧
          (∀ j < max s.retries 1, (p.outcome w.attempted c j).passed = false) ∧
          v.attempted = w.attempted ++ List.replicate (max s.retries 1) c.attempt)) := by
  obtain ⟨last, hlast⟩ : ∃ last, max s.retries 1 = last + 1 := ⟨max s.retries 1 - 1, by omega⟩
  obtain ⟨k, hk, hfailed, hend⟩ := verify_rounds hlast h
  rw [hlast]
  rcases hend with ⟨hpassed, hr, hv⟩ | ⟨rfl, hp, hr, hv⟩
  · rw [← List.append_nil (p.tried ..)] at hv
    obtain ⟨hcalls, hattempted, -⟩ := log_of_rounds p colours s.retryInterval w.attempted c
      (last + 1 - ·) k .ok [] (fun _ ↦ rfl) w
    rw [← hv] at hcalls hattempted
    exact ⟨hcalls, .inl ⟨hr, k, Nat.lt_succ_of_le hk, ⟨hfailed, hpassed⟩, hattempted⟩⟩
  · obtain ⟨hcalls, hattempted, -⟩ := log_of_rounds p colours s.retryInterval w.attempted c
      (k + 1 - ·) k .failed (gaveUp colours c) (fun hf ↦ Report.filterMap_events hf ..) w
    rw [← hv] at hcalls hattempted
    refine ⟨hcalls, .inr ⟨hlast ▸ hr, fun j hj ↦ ?_, hattempted⟩⟩
    rcases Nat.lt_succ_iff_lt_or_eq.mp hj with hlt | rfl
    · exact hfailed j hlt
    · exact hp

end Steps

/-- A verification with up to `r` attempts, or one if `r` is zero, makes one attempt after the other
until one passes. Each attempt that fails and is not the last one is followed by the reason, by a
pause and by a number, and nothing else happens. The numbers are computed in 32 bits, where nothing
wraps around: they are counted down from all attempts by one each time, and none is less than
two. -/
theorem verify_countdown (p : Partners) (colours : Bool) (renderer : Renderer) (s : Settings)
    (r : UInt32) (c : TestCase) (w : World) :
    let n := max r 1
    let runner := p.runner colours renderer { s with retries := r.toNat }
    let result := ((runner.verify c).rehearse w).1
    let v := ((runner.verify c).rehearse w).2
    let number := fun j ↦ (shown n (UInt32.ofNat (j + 1))).toNat
    (∃ k < n.toNat, (∀ j < k, (p.outcome w.attempted c j).passed = false) ∧
      v.attempted = w.attempted ++ List.replicate (k + 1) c.attempt ∧
      v.elapsed = w.elapsed + k * s.retryInterval ∧
      (((p.outcome w.attempted c k).passed = true ∧ result = .ok () ∧
          v = w.record (p.failedRounds colours s.retryInterval w.attempted c number k ++
            p.tried colours w.attempted c .ok k)) ∨
        (k + 1 = n.toNat ∧ (p.outcome w.attempted c k).passed = false ∧
          result = .error (.timeout c.name n.toNat) ∧
          v = w.record (p.failedRounds colours s.retryInterval w.attempted c number k ++
            (p.tried colours w.attempted c .failed k ++ gaveUp colours c))))) ∧
      ∀ j, j + 1 < n.toNat →
        let attempt := UInt32.ofNat (j + 1)
        attempt.toNat = j + 1 ∧ (n - attempt).toNat = n.toNat - (j + 1) ∧
          (n - attempt).toNat + 1 < UInt32.size ∧ number j = n.toNat - j ∧ 2 ≤ number j := by
  intro n runner result v number
  have hn : n.toNat = max r.toNat 1 := toNat_max_one r
  obtain ⟨last, hlast⟩ : ∃ last, n.toNat = last + 1 := ⟨n.toNat - 1, by omega⟩
  have hattempt (j : Nat) (hj : j < n.toNat) : (UInt32.ofNat (j + 1)).toNat = j + 1 :=
    UInt32.toNat_ofNat_of_lt' (Nat.lt_of_le_of_lt hj n.toNat_lt)
  have hshown (j : Nat) (hj : j < n.toNat) :
      (n - UInt32.ofNat (j + 1)).toNat = n.toNat - (j + 1) ∧
        (n - UInt32.ofNat (j + 1)).toNat + 1 < UInt32.size ∧ number j = n.toNat - (j + 1) + 1 := by
    have hstep := @toNat_shown n (UInt32.ofNat (j + 1))
    rw [hattempt j hj] at hstep
    exact hstep (Nat.succ_pos j) hj
  refine ⟨?_, fun j hj ↦ ?_⟩
  · obtain ⟨k, hk, hfailed, hend⟩ := @verify_rounds p colours renderer
      { s with retries := r.toNat } c last (hn ▸ hlast) w v result (Prod.eta _).symm
    have hrounds : p.failedRounds colours s.retryInterval w.attempted c (last + 1 - ·) k =
        p.failedRounds colours s.retryInterval w.attempted c number k :=
      failedRounds_congr _ _ _ _ _ fun j hj ↦ by have := hshown j (by omega); omega
    have hlog : v.attempted = w.attempted ++ List.replicate (k + 1) c.attempt ∧
        v.elapsed = w.elapsed + k * s.retryInterval := by
      rcases hend with ⟨-, -, hv⟩ | ⟨-, -, -, hv⟩
      · rw [hv, ← List.append_nil (p.tried ..)]
        exact (log_of_rounds _ _ _ _ _ _ _ _ _ (fun _ ↦ rfl) w).2
      · rw [hv]
        exact (log_of_rounds _ _ _ _ _ _ _ _ _ (fun hf ↦ Report.filterMap_events hf ..) w).2
    rw [hrounds] at hend
    refine ⟨k, by omega, hfailed, hlog.1, hlog.2, ?_⟩
    rw [hn]
    exact hend.imp_right (And.imp_left fun hk ↦ by omega)
  · obtain ⟨hsub, hroom, hnumber⟩ := hshown j (by omega)
    intro attempt
    exact ⟨hattempt j (by omega), hsub, hroom, by omega, by omega⟩

end Partners

end ClusterProbe
