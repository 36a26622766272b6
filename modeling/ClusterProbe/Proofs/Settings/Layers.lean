import ClusterProbe.Settings
import Mathlib.Data.List.Induction

/-!
# Layers of settings

Layers are put over settings one after another, and a layer that makes no sense leaves everything as
it is. Main statement: what is in force always leaves room for one attempt and one second, holds of
each field what the latest accepted layer with that field says, and accepts invalid certificates
from the first accepted layer on that does.
-/

namespace ClusterProbe

/-- One layer in place of two: the later one where it sets something, and else the earlier one. -/
def Overrides.over (later earlier : Overrides) : Overrides where
  retries := later.retries <|> earlier.retries
  retryInterval := later.retryInterval <|> earlier.retryInterval
  requestTimeout := later.requestTimeout <|> earlier.requestTimeout
  insecure := earlier.insecure || later.insecure
  kubectl := later.kubectl <|> earlier.kubectl

/-- What the latest layer that sets a field sets it to, or else what held before all layers. -/
inductive Overrides.Latest {α : Type} (field : Overrides → Option α) (base : α)
    (layers : List Overrides) : α → Prop
  | unset (h : ∀ o ∈ layers, field o = Option.none) : Latest field base layers base
  | set {x : α} {front : List Overrides} {o : Overrides} {back : List Overrides}
      (split : layers = front ++ o :: back) (h : field o = some x)
      (unset : ∀ p ∈ back, field p = Option.none) : Latest field base layers x

/-- One more layer decides on a field if it sets it. -/
theorem Overrides.Latest.append {α : Type} {field : Overrides → Option α} {base x : α}
    {layers : List Overrides} (h : Latest field base layers x) (o : Overrides) :
    Latest field base (layers ++ [o]) ((field o).getD x) := by
  have hlast (hnone : field o = Option.none) : ∀ p ∈ [o], field p = Option.none :=
    List.forall_mem_singleton.mpr hnone
  cases ho : field o with
  | some y => exact .set rfl ho (List.forall_mem_nil _)
  | none =>
    cases h with
    | unset h =>
      exact .unset fun p hp ↦ (List.mem_append.mp hp).elim (h p) (hlast ho p)
    | set split h unset =>
      refine .set (split.symm ▸ List.append_assoc _ _ _) h fun p hp ↦ ?_
      exact (List.mem_append.mp hp).elim (unset p) (hlast ho p)

namespace Settings

/-- Settings with which a run can begin: those that hold by default, or those of a settings file. -/
def IsLoaded (s : Settings) : Prop := s = standard ∨ ∃ text, parse text = .ok s

/-- There is room for one attempt and one second. -/
structure Valid (s : Settings) : Prop where
  retries : 1 ≤ s.retries
  requestTimeout : 1 ≤ s.requestTimeout

/-- Why settings make no sense. The number of attempts is looked at first. -/
inductive Flaw (s : Settings) : Error → Prop
  | retries (h : s.retries = 0) : Flaw s (.config "retries must be at least 1")
  | requestTimeout (hretries : s.retries ≠ 0) (h : s.requestTimeout = 0) :
      Flaw s (.config "request_timeout_secs must be at least 1")

section Validate

variable {s t u : Settings} {a b o : Overrides} {error : Error}

theorem validate_eq_ok_iff : s.validate = .ok t ↔ s.Valid ∧ t = s := by
  rw [validate]
  split
  next h => exact iff_of_false nofun fun ⟨hvalid, _⟩ ↦ absurd hvalid.retries (by omega)
  split
  next h => exact iff_of_false nofun fun ⟨hvalid, _⟩ ↦ absurd hvalid.requestTimeout (by omega)
  next hretries htimeout =>
    rw [Except.ok.injEq, eq_comm]
    exact (and_iff_right ⟨by omega, by omega⟩).symm

theorem validate_eq_error_iff : s.validate = .error error ↔ s.Flaw error := by
  rw [validate]
  constructor
  · intro h
    split at h
    next hretries =>
      obtain rfl := Except.error.inj h
      exact .retries hretries
    split at h
    next hretries htimeout =>
      obtain rfl := Except.error.inj h
      exact .requestTimeout hretries htimeout
    · cases h
  · intro h
    cases h with
    | retries h => rw [if_pos h]
    | requestTimeout hretries h => rw [if_neg hretries, if_pos h]

/-- A layer is accepted if the settings with it make sense. -/
theorem withOverrides_eq_ok_iff : s.withOverrides o = .ok t ↔ (s.merge o).Valid ∧ t = s.merge o :=
  validate_eq_ok_iff

/-- A layer is refused for what is wrong with the settings with it. -/
theorem withOverrides_eq_error_iff : s.withOverrides o = .error error ↔ (s.merge o).Flaw error :=
  validate_eq_error_iff

theorem IsLoaded.valid (h : s.IsLoaded) : s.Valid := by
  rcases h with rfl | ⟨text, h⟩
  · exact ⟨by decide, by decide⟩
  · rw [parse] at h
    split at h
    · cases h
    split at h
    · obtain ⟨hvalid, rfl⟩ := validate_eq_ok_iff.mp h
      exact hvalid
    · cases h

theorem merge_merge (s : Settings) (a b : Overrides) :
    (s.merge a).merge b = s.merge (b.over a) := by
  have getD_orElse {α : Type} (x y : Option α) (d : α) : x.getD (y.getD d) = (x <|> y).getD d := by
    cases x <;> rfl
  simp only [merge, Overrides.over, getD_orElse, Bool.or_assoc]

/-- Two accepted layers are as good as one. -/
theorem withOverrides_over (ha : s.withOverrides a = .ok t) (hb : t.withOverrides b = .ok u) :
    s.withOverrides (b.over a) = .ok u := by
  obtain ⟨-, rfl⟩ := withOverrides_eq_ok_iff.mp ha
  rw [← hb, withOverrides, withOverrides, merge_merge]

end Validate

/-- The settings in force behind a list of layers, and the layers that were accepted. -/
inductive Settles (start : Settings) : List Overrides → List Overrides → Settings → Prop
  | loaded : Settles start [] [] start
  | accepted {layers taken : List Overrides} {s t : Settings} {o : Overrides}
      (before : Settles start layers taken s) (h : s.withOverrides o = .ok t) :
      Settles start (layers ++ [o]) (taken ++ [o]) t
  | refused {layers taken : List Overrides} {s : Settings} {o : Overrides} {error : Error}
      (before : Settles start layers taken s) (h : s.withOverrides o = .error error) :
      Settles start (layers ++ [o]) taken s

/-- What holds of settings in force behind the layers that were accepted. -/
structure InForce (start : Settings) (taken : List Overrides) (s : Settings) : Prop where
  valid : s.Valid
  retries : Overrides.Latest Overrides.retries start.retries taken s.retries
  retryInterval : Overrides.Latest Overrides.retryInterval start.retryInterval taken s.retryInterval
  requestTimeout :
    Overrides.Latest Overrides.requestTimeout start.requestTimeout taken s.requestTimeout
  kubectl : Overrides.Latest Overrides.kubectl start.kubectl taken s.kubectl
  insecure : s.insecure = true ↔ start.insecure = true ∨ ∃ o ∈ taken, o.insecure = true

section Run

variable {start s t : Settings} {layers taken : List Overrides} {o : Overrides}

theorem InForce.loaded (h : start.Valid) : InForce start [] start where
  valid := h
  retries := .unset (List.forall_mem_nil _)
  retryInterval := .unset (List.forall_mem_nil _)
  requestTimeout := .unset (List.forall_mem_nil _)
  kubectl := .unset (List.forall_mem_nil _)
  insecure := by simp

/-- An accepted layer keeps what holds of settings in force. -/
theorem InForce.accepted (h : InForce start taken s) (ho : s.withOverrides o = .ok t) :
    InForce start (taken ++ [o]) t := by
  obtain ⟨hvalid, rfl⟩ := withOverrides_eq_ok_iff.mp ho
  exact {
    valid := hvalid
    retries := h.retries.append o
    retryInterval := h.retryInterval.append o
    requestTimeout := h.requestTimeout.append o
    kubectl := h.kubectl.append o
    insecure := by
      rw [merge, Bool.or_eq_true, h.insecure, or_assoc]
      simp [or_and_right, exists_or] }

theorem Settles.inForce (h : Settles start layers taken s) (hstart : start.Valid) :
    InForce start taken s := by
  induction h with
  | loaded => exact .loaded hstart
  | accepted _ ho ih => exact ih.accepted ho
  | refused _ _ ih => exact ih

/-- Every list of layers comes to some settings. -/
theorem exists_settles (start : Settings) (layers : List Overrides) :
    ∃ taken s, Settles start layers taken s := by
  induction layers using List.reverseRecOn with
  | nil => exact ⟨_, _, .loaded⟩
  | append_singleton layers o ih =>
    obtain ⟨taken, s, h⟩ := ih
    cases ho : s.withOverrides o with
    | ok t => exact ⟨_, _, .accepted h ho⟩
    | error error => exact ⟨_, _, .refused h ho⟩

/-- Whatever layers are put over settings that were loaded, one after another: what is in force
leaves room for one attempt and one second, has every field from the latest accepted layer with it,
and accepts invalid certificates once it has done so. A layer is refused exactly for a flaw in the
settings with it, and two layers that are accepted in a row are as good as one. -/
theorem layers_in_force {start : Settings} (hstart : start.IsLoaded) (layers : List Overrides) :
    (∃ taken s, Settles start layers taken s) ∧
    ∀ taken s, Settles start layers taken s →
      InForce start taken s ∧
      (∀ more taken' t, Settles s more taken' t → s.insecure = true → t.insecure = true) ∧
      (∀ o error, s.withOverrides o = .error error ↔ (s.merge o).Flaw error) ∧
      ∀ a b t u, s.withOverrides a = .ok t → t.withOverrides b = .ok u →
        s.withOverrides (b.over a) = .ok u := by
  refine ⟨exists_settles start layers, fun taken s h ↦ ?_⟩
  have hs := h.inForce hstart.valid
  -- settings in force are valid, so they can in turn be what further layers are put over
  refine ⟨hs, fun more taken' t ht hinsecure ↦ ?_, fun _ _ ↦ withOverrides_eq_error_iff,
    fun a b t u ↦ withOverrides_over⟩
  exact (ht.inForce hs.valid).insecure.mpr (.inl hinsecure)

/-- A settings file, a layer that is refused as a whole, and one that is accepted. -/
theorem layers_in_force_of_file :
    ∃ start, parse "retries = 5\ninsecure = true\n" = .ok start ∧
      Settles start
        [⟨some 0, some 9, none, false, none⟩, ⟨some 7, none, none, false, some "k"⟩]
        [⟨some 7, none, none, false, some "k"⟩] ⟨7, 2, 2, true, "k"⟩ ∧
      InForce start [⟨some 7, none, none, false, some "k"⟩] ⟨7, 2, 2, true, "k"⟩ := by
  have hread : (parse "retries = 5\ninsecure = true\n").toOption =
      some ⟨5, 2, 2, true, "kubectl"⟩ := by decide +kernel
  cases hparse : parse "retries = 5\ninsecure = true\n" with
  | error error =>
    rw [hparse] at hread
    cases hread
  | ok start =>
    rw [hparse] at hread
    obtain rfl := Option.some.inj hread
    have hsettles : Settles ⟨5, 2, 2, true, "kubectl"⟩
        [⟨some 0, some 9, none, false, none⟩, ⟨some 7, none, none, false, some "k"⟩]
        [⟨some 7, none, none, false, some "k"⟩] ⟨7, 2, 2, true, "k"⟩ :=
      .accepted (.refused .loaded rfl) rfl
    have hforce := ((layers_in_force (.inr ⟨_, hparse⟩) _).2 _ _ hsettles).1
    exact ⟨_, rfl, hsettles, hforce⟩

end Run

end Settings

end ClusterProbe
