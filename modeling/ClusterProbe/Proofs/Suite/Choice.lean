import ClusterProbe.Suite.Filter

/-!
# What a filter chooses

A choice is made by going through the suite once and keeping the test cases with one of the given
names. Main statement: a filter with names succeeds exactly if every name belongs to a test case,
and then with this choice; else the first name that belongs to none is the error. So it does not
matter in which order or how often names are given, and a choice is its own choice.
-/

namespace ClusterProbe.Suite

/-- The name belongs to a test case. -/
def HasName (cases : List TestCase) (n : String) : Prop := ∃ c ∈ cases, c.name = n

/-- The test cases that are left of a suite by keeping those with one of the names, each in its
place. -/
inductive Chosen (names : List String) : List TestCase → List TestCase → Prop
  | nil : Chosen names [] []
  | keep {c : TestCase} {cases chosen : List TestCase} (h : c.name ∈ names)
      (rest : Chosen names cases chosen) : Chosen names (c :: cases) (c :: chosen)
  | drop {c : TestCase} {cases chosen : List TestCase} (h : c.name ∉ names)
      (rest : Chosen names cases chosen) : Chosen names (c :: cases) chosen

namespace Chosen

variable {names others : List String} {cases chosen : List TestCase}

/-- There is one choice. -/
theorem iff_filter : Chosen names cases chosen ↔ chosen = cases.filter (·.name ∈ names) := by
  constructor
  · intro h
    induction h with
    | nil => rfl
    | keep h _ ih => rw [List.filter_cons_of_pos (by simpa using h), ih]
    | drop h _ ih => rw [List.filter_cons_of_neg (by simpa using h), ih]
  · rintro rfl
    induction cases with
    | nil => exact .nil
    | cons c cases ih =>
      by_cases h : c.name ∈ names
      · rw [List.filter_cons_of_pos (by simpa using h)]
        exact .keep h ih
      · rw [List.filter_cons_of_neg (by simpa using h)]
        exact .drop h ih

theorem mem_iff (h : Chosen names cases chosen) {c : TestCase} :
    c ∈ chosen ↔ c ∈ cases ∧ c.name ∈ names := by
  rw [iff_filter.mp h, List.mem_filter, decide_eq_true_iff]

/-- Only the members of the list of names count. -/
theorem congr (h : Chosen names cases chosen) (hsame : ∀ n, n ∈ others ↔ n ∈ names) :
    Chosen others cases chosen := by
  induction h with
  | nil => exact .nil
  | keep h _ ih => exact .keep ((hsame _).mpr h) ih
  | drop h _ ih => exact .drop (mt (hsame _).mp h) ih

/-- A choice is all that is chosen of itself. -/
theorem self (h : Chosen names cases chosen) : Chosen names chosen chosen := by
  induction h with
  | nil => exact .nil
  | keep h _ ih => exact .keep h ih
  | drop _ _ ih => exact ih

/-- A name that is given belongs to what is chosen if it belongs to the suite. -/
theorem hasName (h : Chosen names cases chosen) {n : String} (hn : n ∈ names)
    (hcase : HasName cases n) : HasName chosen n := by
  obtain ⟨c, hc, rfl⟩ := hcase
  exact ⟨c, h.mem_iff.mpr ⟨hc, hn⟩, rfl⟩

end Chosen

section Filter

variable {names others : List String} {cases chosen : List TestCase}

theorem filter_nil : filter cases [] = .ok cases := rfl

theorem any_name_iff {n : String} : (cases.any fun c ↦ c.name = n) = true ↔ HasName cases n := by
  rw [List.any_eq_true, HasName]
  simp only [decide_eq_true_iff]

/-- The error of a filter is the first name that belongs to no test case. -/
theorem filter_eq_error_iff (hne : names ≠ []) {error : Error} :
    filter cases names = .error error ↔
      ∃ front unknown back, names = front ++ unknown :: back ∧ (∀ n ∈ front, HasName cases n) ∧
        ¬ HasName cases unknown ∧ error = .caseNotFound unknown := by
  rw [filter, if_neg (by simpa using hne)]
  constructor
  · intro h
    split at h
    next unknown hfind =>
      obtain ⟨hunknown, front, back, hnames, hfront⟩ := List.find?_eq_some_iff_append.mp hfind
      refine ⟨front, unknown, back, hnames, fun n hn ↦ ?_, ?_, (Except.error.inj h).symm⟩
      · exact any_name_iff.mp (by simpa using hfront n hn)
      · exact mt any_name_iff.mpr (by simpa using hunknown)
    · cases h
  · rintro ⟨front, unknown, back, hnames, hfront, hunknown, rfl⟩
    have hfind : (names.find? fun n ↦ !cases.any fun c ↦ c.name = n) = some unknown := by
      refine List.find?_eq_some_iff_append.mpr ⟨?_, front, back, hnames, fun n hn ↦ ?_⟩
      · simpa using mt any_name_iff.mp hunknown
      · simpa using any_name_iff.mpr (hfront n hn)
    rw [hfind]

/-- A filter succeeds with its choice if every name belongs to a test case. -/
theorem filter_eq_ok_iff (hne : names ≠ []) :
    filter cases names = .ok chosen ↔
      (∀ n ∈ names, HasName cases n) ∧ Chosen names cases chosen := by
  have hnone : (names.find? fun n ↦ !cases.any fun c ↦ c.name = n) = none ↔
      ∀ n ∈ names, HasName cases n := by
    rw [List.find?_eq_none]
    exact forall₂_congr fun n _ ↦ by rw [← any_name_iff]; simp
  rw [filter, if_neg (by simpa using hne), ← hnone, Chosen.iff_filter]
  split
  next unknown hfind =>
    rw [hfind]
    exact iff_of_false nofun fun h ↦ Option.some_ne_none _ h.1
  next hfind =>
    rw [hfind, Except.ok.injEq, eq_comm]
    simp

/-- Only the members of the list of names count. -/
theorem filter_congr (h : filter cases names = .ok chosen) (hsame : ∀ n, n ∈ others ↔ n ∈ names) :
    filter cases others = .ok chosen := by
  have hnil : others = [] ↔ names = [] := by
    simp only [List.eq_nil_iff_forall_not_mem, hsame]
  by_cases hne : names = []
  · rwa [hnil.mpr hne, ← hne]
  · obtain ⟨hall, hchosen⟩ := (filter_eq_ok_iff hne).mp h
    refine (filter_eq_ok_iff (mt hnil.mp hne)).mpr ⟨fun n hn ↦ ?_, hchosen.congr hsame⟩
    exact hall n ((hsame n).mp hn)

/-- A choice is left as it is by the filter that made it. -/
theorem filter_filter (h : filter cases names = .ok chosen) : filter chosen names = .ok chosen := by
  by_cases hne : names = []
  · rw [hne, filter_nil]
  · obtain ⟨hall, hchosen⟩ := (filter_eq_ok_iff hne).mp h
    exact (filter_eq_ok_iff hne).mpr ⟨fun n hn ↦ hchosen.hasName hn (hall n hn), hchosen.self⟩

/-- Every given name belongs to what is chosen. -/
theorem hasName_of_filter (h : filter cases names = .ok chosen) {n : String} (hn : n ∈ names) :
    HasName chosen n := by
  obtain ⟨hall, hchosen⟩ := (filter_eq_ok_iff (List.ne_nil_of_mem hn)).mp h
  exact hchosen.hasName hn (hall n hn)

/-- Something is chosen of a suite with test cases. -/
theorem eq_nil_of_filter (h : filter cases names = .ok []) : cases = [] := by
  cases names with
  | nil => exact Except.ok.inj h
  | cons n names =>
    obtain ⟨c, hc, -⟩ := hasName_of_filter h List.mem_cons_self
    cases hc

/-- A filter without names leaves the suite as it is. With names it fails exactly with the first
name that belongs to no test case, and else it chooses the test cases with the names, all of them
and in their order. What it succeeds with depends on the set of names only, stays as it is when it
is filtered again, has every name, and is empty for an empty suite only. -/
theorem filter_chooses (cases : List TestCase) (names : List String) :
    filter cases [] = .ok cases ∧
    (names ≠ [] →
      (∀ error, filter cases names = .error error ↔
        ∃ front unknown back, names = front ++ unknown :: back ∧ (∀ n ∈ front, HasName cases n) ∧
          ¬ HasName cases unknown ∧ error = .caseNotFound unknown) ∧
      ∀ chosen, filter cases names = .ok chosen ↔
        (∀ n ∈ names, HasName cases n) ∧ Chosen names cases chosen) ∧
    ∀ chosen, filter cases names = .ok chosen →
      (∀ others, (∀ n, n ∈ others ↔ n ∈ names) → filter cases others = .ok chosen) ∧
      filter chosen names = .ok chosen ∧
      (∀ n ∈ names, HasName chosen n) ∧
      (chosen = [] → cases = []) := by
  refine ⟨filter_nil, fun hne ↦ ⟨fun _ ↦ filter_eq_error_iff hne, fun _ ↦ filter_eq_ok_iff hne⟩,
    fun chosen h ↦ ⟨fun others ↦ filter_congr h, filter_filter h, fun n ↦ hasName_of_filter h, ?_⟩⟩
  rintro rfl
  exact eq_nil_of_filter h

end Filter

end ClusterProbe.Suite
