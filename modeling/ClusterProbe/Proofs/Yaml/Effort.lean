import Mathlib.Data.List.Forall2
import ClusterProbe.Yaml.Reading

/-!
# Readers up to their faults

Two readers are alike if they read the same from wherever they start, and follow the same number of
aliases on the way; what they say where they fail does not count. The number of aliases followed is
limited, so a reader may succeed at one start and fail at a later one: it is steady if that limit is
all that the start matters for. Main statement: of two steady readers it does not matter which comes
first.
-/

namespace ClusterProbe.Yaml

namespace Reader

variable {α β γ : Type} {limit : Nat} {r r' r'' : Reader α} {s : Reader β}

/-- From wherever they start, two readers read the same or both fail. -/
def Agree (r r' : Reader α) : Prop :=
  ∀ count result, r.run count = .ok result ↔ r'.run count = .ok result

/-- What a reader reads and how many aliases it follows does not depend on where it starts, as long as
there are no more than `limit` of them altogether. -/
def Steady (limit : Nat) (r : Reader α) : Prop :=
  ∀ count a after, r.run count = .ok (a, after) →
    ∃ cost, after = count + cost ∧ (cost = 0 ∨ after ≤ limit) ∧
      ∀ start, (cost = 0 ∨ start + cost ≤ limit) → r.run start = .ok (a, start + cost)

/-- A reader that reads nothing. -/
def Fails (r : Reader α) : Prop := ∀ count result, r.run count ≠ .ok result

/-- What a reader reads from somewhere. -/
def Returns (r : Reader α) (a : α) : Prop := ∃ count after, r.run count = .ok (a, after)

/-- Two steady readers that agree. -/
structure Alike (limit : Nat) (r r' : Reader α) : Prop where
  agree : r.Agree r'
  steady : r.Steady limit

namespace Agree

theorem refl (r : Reader α) : r.Agree r := fun _ _ ↦ .rfl

theorem symm (h : r.Agree r') : r'.Agree r := fun count result ↦ (h count result).symm

theorem trans (h : r.Agree r') (k : r'.Agree r'') : r.Agree r'' :=
  fun count result ↦ (h count result).trans (k count result)

/-- A reader is steady if it agrees with one that is. -/
theorem steady (h : r.Agree r') (hsteady : r.Steady limit) : r'.Steady limit := by
  intro count a after hread
  obtain ⟨cost, hafter, hlimit, hread⟩ := hsteady count a after ((h _ _).mpr hread)
  exact ⟨cost, hafter, hlimit, fun start hstart ↦ (h _ _).mp (hread start hstart)⟩

/-- Where a fault is located does not matter. -/
theorem located (place : Place) (mark : Mark) (r : Reader α) : (located place mark r).Agree r := by
  intro count result
  change Yaml.located place mark r count = .ok result ↔ r count = .ok result
  unfold Yaml.located
  split
  next h => rw [h]; simp
  next => rfl

theorem of_fails (h : r.Fails) (h' : r'.Fails) : r.Agree r' :=
  fun count result ↦ iff_of_false (h count result) (h' count result)

end Agree

/-- The two readers of a sequence both read something, each from where the one before ends. -/
theorem run_bind_eq_ok_iff {f : α → Reader β} {count : Nat} {result : β × Nat} :
    (r >>= f).run count = .ok result ↔
      ∃ a between, r.run count = .ok (a, between) ∧ (f a).run between = .ok result := by
  rw [StateT.run_bind]
  cases h : r.run count with
  | error e => simp [bind, Except.bind]
  | ok first =>
    obtain ⟨a, between⟩ := first
    simp [bind, Except.bind]

namespace Fails

theorem failWith (c : Cause) : (Yaml.failWith c : Reader α).Fails := fun _ _ h ↦ by cases h

theorem throw (e : Fault) : (throw e : Reader α).Fails := fun _ _ h ↦ by cases h

theorem steady (h : r.Fails) : r.Steady limit := fun _ _ _ hread ↦ absurd hread (h _ _)

end Fails

namespace Steady

theorem pure (a : α) : (Pure.pure a : Reader α).Steady limit := by
  intro count b after hread
  obtain ⟨rfl, rfl⟩ := Prod.mk.inj (Except.ok.inj hread)
  exact ⟨0, rfl, .inl rfl, fun start _ ↦ rfl⟩

theorem bind_of_returns {f : α → Reader β} (hr : r.Steady limit)
    (hf : ∀ a, r.Returns a → (f a).Steady limit) : (r >>= f).Steady limit := by
  intro count b after hread
  obtain ⟨a, between, hfirst, hsecond⟩ := run_bind_eq_ok_iff.mp hread
  have hf := hf a ⟨_, _, hfirst⟩
  obtain ⟨cost, rfl, hlimit, hfirst⟩ := hr _ _ _ hfirst
  obtain ⟨more, rfl, hlimit', hsecond⟩ := hf _ _ _ hsecond
  refine ⟨cost + more, by omega, by omega, fun start hstart ↦ ?_⟩
  rw [← Nat.add_assoc]
  exact run_bind_eq_ok_iff.mpr ⟨a, _, hfirst start (by omega), hsecond _ (by omega)⟩

theorem bind {f : α → Reader β} (hr : r.Steady limit) (hf : ∀ a, (f a).Steady limit) :
    (r >>= f).Steady limit := hr.bind_of_returns fun a _ ↦ hf a

end Steady

namespace Alike

theorem refl (h : r.Steady limit) : Alike limit r r := ⟨.refl r, h⟩

theorem symm (h : Alike limit r r') : Alike limit r' r := ⟨h.agree.symm, h.agree.steady h.steady⟩

theorem trans (h : Alike limit r r') (k : Alike limit r' r'') : Alike limit r r'' :=
  ⟨h.agree.trans k.agree, h.steady⟩

theorem of_fails (h : r.Fails) (h' : r'.Fails) : Alike limit r r' := ⟨.of_fails h h', h.steady⟩

theorem pure (a : α) : Alike limit (Pure.pure a) (Pure.pure a) := .refl (.pure a)

/-- Behind readers that are alike it is enough to be alike for what these read. -/
theorem bind_of_returns {f f' : α → Reader β} (hr : Alike limit r r')
    (hf : ∀ a, r.Returns a → Alike limit (f a) (f' a)) :
    Alike limit (r >>= f) (r' >>= f') := by
  refine ⟨fun count result ↦ ?_, hr.steady.bind_of_returns fun a ha ↦ (hf a ha).steady⟩
  rw [run_bind_eq_ok_iff, run_bind_eq_ok_iff]
  refine exists_congr fun a ↦ exists_congr fun between ↦ ?_
  rw [← hr.agree]
  exact and_congr_right fun hread ↦ (hf a ⟨_, _, hread⟩).agree _ _

theorem bind {f f' : α → Reader β} (hr : Alike limit r r') (hf : ∀ a, Alike limit (f a) (f' a)) :
    Alike limit (r >>= f) (r' >>= f') := hr.bind_of_returns fun a _ ↦ hf a

/-- Readers are alike wherever their faults are located. -/
theorem located (h : Alike limit r r') (place place' : Place) (mark mark' : Mark) :
    Alike limit (located place mark r) (located place' mark' r') :=
  ⟨(Agree.located place mark r).trans (h.agree.trans (Agree.located place' mark' r').symm),
    (Agree.located place mark r).symm.steady h.steady⟩

/-- Two steady readers can change places. -/
theorem comm (hr : r.Steady limit) (hs : s.Steady limit) {f : α → β → Reader γ}
    (hf : ∀ a b, (f a b).Steady limit) :
    Alike limit (do let a ← r; let b ← s; f a b) (do let b ← s; let a ← r; f a b) := by
  have hswap {δ ε : Type} {x : Reader δ} {y : Reader ε} {g : δ → ε → Reader γ} {count : Nat}
      {result : γ × Nat} (hx : x.Steady limit) (hy : y.Steady limit)
      (hread : (do let a ← x; let b ← y; g a b).run count = .ok result) :
      (do let b ← y; let a ← x; g a b).run count = .ok result := by
    obtain ⟨a, between, hfirst, hrest⟩ := run_bind_eq_ok_iff.mp hread
    obtain ⟨b, end', hsecond, hlast⟩ := run_bind_eq_ok_iff.mp hrest
    obtain ⟨cost, rfl, hlimit, hfirst⟩ := hx _ _ _ hfirst
    obtain ⟨more, rfl, hlimit', hsecond⟩ := hy _ _ _ hsecond
    refine run_bind_eq_ok_iff.mpr ⟨b, _, hsecond count (by omega),
      run_bind_eq_ok_iff.mpr ⟨a, _, hfirst _ (by omega), ?_⟩⟩
    rw [Nat.add_right_comm]
    exact hlast
  exact ⟨fun count result ↦ ⟨hswap hr hs, hswap hs hr⟩,
    hr.bind fun a ↦ hs.bind fun b ↦ hf a b⟩

end Alike

end Reader

end ClusterProbe.Yaml
