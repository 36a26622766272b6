import ClusterProbe.Proofs.Json.Inclusion
import ClusterProbe.Service.Response

/-!
# Expected headers and headers that were sent

What it takes to meet the expectation of a header, said of the values that were sent and without
building mappings of them. Main statement: the headers of a response are refused at the first name,
in order, whose expectation is not met, and for the reason that it falls short of it.
-/

namespace ClusterProbe

namespace ExpectedResponse

/-- What is expected of the header `k`: of the entries whose names are `k` in small letters, the one
whose name sorts last. -/
def Asks (e : ExpectedResponse) (k : String) (x : Json) : Prop :=
  ∃ name, (name, x) ∈ e.headers ∧ headerKey name = k ∧
    ∀ other y, (other, y) ∈ e.headers → headerKey other = k → other ≤ name

end ExpectedResponse

namespace Response

/-- The header was sent. -/
def Has (r : Response) (k : String) : Prop := ∃ h ∈ r.headers, headerKey h.1 = k

/-- The values of a header as one text. -/
def joined (r : Response) (k : String) : String := Text.joinWith ", " (r.valuesOf k)

/-- The header was sent and is as expected: of a list, the text of every item is one of its values;
of a scalar, the text is all of its values together. No header is as a mapping expects it. -/
inductive Meets (r : Response) (k : String) : Json → Prop
  | items {items : List Json} (sent : r.Has k) (h : ∀ v ∈ items, v.plainText ∈ r.valuesOf k) :
      Meets r k (.array items)
  | scalar {x : Json} (sent : r.Has k) (hx : x.IsScalar) (h : x.plainText = r.joined k) :
      Meets r k x

/-- Where a header falls short of what is expected of it. -/
def shortfall (r : Response) (k : String) (x : Json) : Option Discrepancy :=
  if r.valuesOf k = [] then some (.missingEntry (headerExpectation x))
  else match x with
    | .array items =>
      (items.find? fun v ↦ v.plainText ∉ r.valuesOf k).map fun v ↦
        .missingItem (.string v.plainText)
    | .object entries => some (.kinds (.object entries) (.string (r.joined k)))
    | x =>
      if x.plainText = r.joined k then none
      else some (.values (.string x.plainText) (.string (r.joined k)))

/-- The values of a header in the shape that an expectation asks for. -/
def shaped (r : Response) (k : String) : Option Json → Json
  | some (.array _) => .array ((r.valuesOf k).map .string)
  | _ => .string (r.joined k)

section Sent

variable {r : Response} {k : String} {x : Json}

theorem has_iff_valuesOf_ne_nil : r.Has k ↔ r.valuesOf k ≠ [] := by
  rw [Has, valuesOf, ne_eq, List.map_eq_nil_iff, List.filter_eq_nil_iff]
  simp

theorem meets_array_iff {items : List Json} :
    r.Meets k (.array items) ↔ r.Has k ∧ ∀ v ∈ items, v.plainText ∈ r.valuesOf k := by
  constructor
  · intro h
    cases h with
    | items sent h => exact ⟨sent, h⟩
    | scalar _ hx => exact hx.elim
  · rintro ⟨sent, h⟩
    exact .items sent h

theorem meets_scalar_iff (hx : x.IsScalar) :
    r.Meets k x ↔ r.Has k ∧ x.plainText = r.joined k := by
  constructor
  · intro h
    cases h with
    | items => exact hx.elim
    | scalar sent _ h => exact ⟨sent, h⟩
  · rintro ⟨sent, h⟩
    exact .scalar sent hx h

theorem not_meets_object {entries : List (String × Json)} : ¬ r.Meets k (.object entries) := by
  intro h
  cases h with
  | scalar _ hx => exact hx.elim

/-- A header falls short of its expectation exactly if it does not meet it. -/
theorem shortfall_eq_none_iff : r.shortfall k x = none ↔ r.Meets k x := by
  by_cases hsent : r.Has k
  · have hvalues := has_iff_valuesOf_ne_nil.mp hsent
    unfold shortfall
    rw [if_neg hvalues]
    split
    · simp [meets_array_iff, hsent]
    · simp [not_meets_object]
    next harray hobject =>
      have hx : x.IsScalar := by
        cases x with
        | array items => exact harray items rfl
        | object entries => exact hobject entries rfl
        | _ => trivial
      rw [meets_scalar_iff hx]
      simp [hsent]
  · have hvalues := not_not.mp (mt has_iff_valuesOf_ne_nil.mpr hsent)
    unfold shortfall
    rw [if_pos hvalues]
    refine iff_of_false (Option.some_ne_none _) fun h ↦ hsent ?_
    cases h <;> assumption

theorem not_meets_of_shortfall {why : Discrepancy} (h : r.shortfall k x = some why) :
    ¬ r.Meets k x := by
  rw [← shortfall_eq_none_iff, h]
  exact Option.some_ne_none why

end Sent

section Mappings

variable {r : Response} {k : String}

/-- The values of a header hold no mapping. -/
theorem sortedKeys_shaped (r : Response) (k : String) (x : Option Json) :
    (r.shaped k x).SortedKeys := by
  unfold shaped
  split
  · exact Json.sortedKeys_array_iff.mpr (by simp [Json.SortedKeys])
  · trivial

theorem headerEntries_eq (r : Response) (expected : List (String × Json)) :
    r.headerEntries expected =
      Json.ofEntries (r.headers.map fun h ↦
        (headerKey h.1, r.shaped (headerKey h.1) (Json.find? (headerKey h.1) expected))) := by
  unfold headerEntries shaped joined
  congr 2
  funext h
  dsimp only
  cases Json.find? (headerKey h.1) expected with
  | none => rfl
  | some x => cases x <;> rfl

/-- A header that was sent is found in the shape that is asked for. -/
theorem find?_headerEntries_of_has (h : r.Has k) (expected : List (String × Json)) :
    Json.find? k (r.headerEntries expected) = some (r.shaped k (Json.find? k expected)) := by
  rw [headerEntries_eq, Json.find?_ofEntries, ← List.map_reverse]
  refine Json.find?_map_key (f := fun k ↦ r.shaped k (Json.find? k expected)) ?_
  obtain ⟨header, hmem, hk⟩ := h
  exact ⟨header, List.mem_reverse.mpr hmem, hk⟩

/-- Nothing is found of a header that was not sent. -/
theorem find?_headerEntries_of_not_has (h : ¬ r.Has k) (expected : List (String × Json)) :
    Json.find? k (r.headerEntries expected) = none := by
  rw [headerEntries_eq, Json.find?_ofEntries, Json.find?_eq_none_iff]
  intro hmem
  simp only [List.mem_map, List.mem_reverse] at hmem
  obtain ⟨_, ⟨header, hheader, rfl⟩, hk⟩ := hmem
  exact h ⟨header, hheader, hk⟩

/-- A header in the shape of its expectation mismatches it where it falls short of it. -/
theorem mismatch_shaped {x : Json} (h : r.Has k) :
    Json.mismatch (headerExpectation x) (r.shaped k (some (headerExpectation x))) =
      (r.shortfall k x).map fun why ↦ ⟨[], why⟩ := by
  have hvalues := has_iff_valuesOf_ne_nil.mp h
  unfold shortfall
  rw [if_neg hvalues]
  cases x with
  | array items =>
    simp [headerExpectation, shaped, Json.mismatch, List.find?_map, Function.comp_def,
      Json.memberOf_strings]
  | object entries => rfl
  | _ =>
    simp only [headerExpectation, shaped, Json.mismatch, Json.kind, Json.same, ne_eq, not_true,
      if_false, decide_eq_true_eq]
    split <;> rfl

/-- The mismatch at the entry of an expected header is where the header falls short of it. -/
theorem mismatchAt_headerEntries {x : Json} {expected : List (String × Json)}
    (h : Json.find? k expected = some (headerExpectation x)) :
    Json.mismatchAt (r.headerEntries expected) k (headerExpectation x) =
      (r.shortfall k x).map fun why ↦ ⟨[k], why⟩ := by
  rw [Json.mismatchAt]
  by_cases hsent : r.Has k
  · rw [find?_headerEntries_of_has hsent, h]
    dsimp only
    rw [mismatch_shaped hsent, Option.map_map]
    rfl
  · have hvalues := not_not.mp (mt has_iff_valuesOf_ne_nil.mpr hsent)
    rw [find?_headerEntries_of_not_has hsent]
    unfold shortfall
    rw [if_pos hvalues]
    rfl

end Mappings

end Response

namespace ExpectedResponse

/-- Of entries by falling names, what is found under a key is what is expected by the first one
whose name is the key in small letters. -/
theorem find?_map_headers_iff {headers : List (String × Json)} {k : String} {y : Json}
    (h : (headers.map Prod.fst).Pairwise (· > ·)) :
    Json.find? k (headers.map fun e ↦ (headerKey e.1, headerExpectation e.2)) = some y ↔
      ∃ name x, (name, x) ∈ headers ∧ headerKey name = k ∧
        (∀ other z, (other, z) ∈ headers → headerKey other = k → other ≤ name) ∧
        headerExpectation x = y := by
  induction headers with
  | nil => simp [Json.find?]
  | cons entry rest ih =>
    obtain ⟨first, z⟩ := entry
    obtain ⟨hfirst, hrest⟩ := List.pairwise_cons.mp h
    have hbelow (name : String) (x : Json) (hmem : (name, x) ∈ rest) : name < first :=
      hfirst name (List.mem_map.mpr ⟨_, hmem, rfl⟩)
    rw [List.map_cons, Json.find?]
    split
    next hk =>
      rw [Option.some.injEq]
      constructor
      · intro hy
        refine ⟨first, z, List.mem_cons_self, hk, fun other w hmem _ ↦ ?_, hy⟩
        rcases List.mem_cons.mp hmem with heq | hmem
        · exact (Prod.mk.inj heq).1.le
        · exact (hbelow other w hmem).le
      · rintro ⟨name, x, hmem, _, hlast, hy⟩
        rcases List.mem_cons.mp hmem with heq | hmem
        · rw [← (Prod.mk.inj heq).2]
          exact hy
        · exact absurd (hlast first z List.mem_cons_self hk) (not_le.mpr (hbelow name x hmem))
    next hk =>
      rw [ih hrest]
      refine exists_congr fun name ↦ exists_congr fun x ↦ ?_
      constructor
      · rintro ⟨hmem, hname, hlast, hy⟩
        refine ⟨List.mem_cons_of_mem _ hmem, hname, fun other w hother hkey ↦ ?_, hy⟩
        rcases List.mem_cons.mp hother with heq | hother
        · obtain ⟨rfl, rfl⟩ := Prod.mk.inj heq
          exact absurd hkey hk
        · exact hlast other w hother hkey
      · rintro ⟨hmem, hname, hlast, hy⟩
        rcases List.mem_cons.mp hmem with heq | hmem
        · obtain ⟨rfl, rfl⟩ := Prod.mk.inj heq
          exact absurd hname hk
        · exact ⟨hmem, hname, fun other w hother ↦ hlast other w (List.mem_cons_of_mem _ hother), hy⟩

variable {e : ExpectedResponse} {k : String} {y : Json}

/-- The mapping of expected headers holds what is expected of each header. -/
theorem find?_headerEntries_iff (he : (e.headers.map Prod.fst).Pairwise (· < ·)) :
    Json.find? k e.headerEntries = some y ↔ ∃ x, e.Asks k x ∧ headerExpectation x = y := by
  have hreverse : (e.headers.reverse.map Prod.fst).Pairwise (· > ·) := by
    rw [List.map_reverse, List.pairwise_reverse]
    exact he
  rw [headerEntries, Json.find?_ofEntries, ← List.map_reverse]
  refine (find?_map_headers_iff hreverse).trans ?_
  simp only [Asks, List.mem_reverse]
  constructor
  · rintro ⟨name, x, hmem, hname, hlast, hy⟩
    exact ⟨x, ⟨name, hmem, hname, hlast⟩, hy⟩
  · rintro ⟨x, ⟨name, hmem, hname, hlast⟩, hy⟩
    exact ⟨name, x, hmem, hname, hlast, hy⟩

/-- The entries of the mapping of expected headers are what is expected of each header. -/
theorem mem_headerEntries_iff (he : (e.headers.map Prod.fst).Pairwise (· < ·)) :
    (k, y) ∈ e.headerEntries ↔ ∃ x, e.Asks k x ∧ headerExpectation x = y := by
  have hkeys : (e.headerEntries.map Prod.fst).Pairwise (· < ·) := Json.pairwise_keys_ofEntries _
  rw [← Json.find?_eq_some_iff (hkeys.imp ne_of_lt), find?_headerEntries_iff he]

end ExpectedResponse

namespace Response

variable {e : ExpectedResponse} {r : Response}

/-- The mismatch at what is expected of a header. -/
theorem mismatchAt_of_asks (he : (e.headers.map Prod.fst).Pairwise (· < ·)) {k : String} {x : Json}
    (h : e.Asks k x) :
    Json.mismatchAt (r.headerEntries e.headerEntries) k (headerExpectation x) =
      (r.shortfall k x).map fun why ↦ ⟨[k], why⟩ :=
  mismatchAt_headerEntries ((ExpectedResponse.find?_headerEntries_iff he).mpr ⟨x, h, rfl⟩)

/-- The headers pass if the expected ones are included in those that were sent. -/
theorem checkHeaders_eq_ok_iff_mismatch :
    r.checkHeaders e = .ok () ↔
      Json.mismatch (.object e.headerEntries) (.object (r.headerEntries e.headerEntries)) = none := by
  rw [checkHeaders]
  split
  next m hm => simp [hm]
  next hm => simp [hm]

/-- The headers are refused for the mismatch of the expected ones and those that were sent. -/
theorem checkHeaders_eq_error_iff_mismatch {f : Refusal} :
    r.checkHeaders e = .error f ↔
      ∃ m, Json.mismatch (.object e.headerEntries) (.object (r.headerEntries e.headerEntries)) =
        some m ∧ f = .header m := by
  rw [checkHeaders]
  split
  next m hm => simp [hm, eq_comm]
  next hm => simp [hm]

/-- The headers pass if every expected header is met. -/
theorem checkHeaders_eq_ok_iff (he : (e.headers.map Prod.fst).Pairwise (· < ·)) :
    r.checkHeaders e = .ok () ↔ ∀ k x, e.Asks k x → r.Meets k x := by
  rw [checkHeaders_eq_ok_iff_mismatch, Json.mismatch, Json.mismatchEntries_eq_findSome?,
    List.findSome?_eq_none_iff, Prod.forall]
  constructor
  · intro h k x hx
    have hmismatch := h k _ ((ExpectedResponse.mem_headerEntries_iff he).mpr ⟨x, hx, rfl⟩)
    rw [mismatchAt_of_asks he hx, Option.map_eq_none_iff] at hmismatch
    exact shortfall_eq_none_iff.mp hmismatch
  · intro h k y hy
    obtain ⟨x, hx, rfl⟩ := (ExpectedResponse.mem_headerEntries_iff he).mp hy
    rw [mismatchAt_of_asks he hx, Option.map_eq_none_iff]
    exact shortfall_eq_none_iff.mpr (h k x hx)

/-- The headers are refused at the least name whose expectation is not met. -/
theorem checkHeaders_eq_error_iff (he : (e.headers.map Prod.fst).Pairwise (· < ·)) {f : Refusal} :
    r.checkHeaders e = .error f ↔
      ∃ k x why, e.Asks k x ∧ r.shortfall k x = some why ∧
        (∀ j y, e.Asks j y → j < k → r.Meets j y) ∧ f = .header ⟨[k], why⟩ := by
  have hkeys : (e.headerEntries.map Prod.fst).Pairwise (· < ·) := Json.pairwise_keys_ofEntries _
  simp only [checkHeaders_eq_error_iff_mismatch, Json.mismatch, Json.mismatchEntries_eq_findSome?,
    Json.findSome?_eq_some_iff_least hkeys]
  constructor
  · rintro ⟨m, ⟨k, y, hy, hm, hleast⟩, rfl⟩
    obtain ⟨x, hx, rfl⟩ := (ExpectedResponse.mem_headerEntries_iff he).mp hy
    rw [mismatchAt_of_asks he hx, Option.map_eq_some_iff] at hm
    obtain ⟨why, hwhy, rfl⟩ := hm
    refine ⟨k, x, why, hx, hwhy, fun j z hz hlt ↦ ?_, rfl⟩
    have hnone := hleast j _ ((ExpectedResponse.mem_headerEntries_iff he).mpr ⟨z, hz, rfl⟩) hlt
    rw [mismatchAt_of_asks he hz, Option.map_eq_none_iff] at hnone
    exact shortfall_eq_none_iff.mp hnone
  · rintro ⟨k, x, why, hx, hwhy, hleast, rfl⟩
    refine ⟨_, ⟨k, _, (ExpectedResponse.mem_headerEntries_iff he).mpr ⟨x, hx, rfl⟩, ?_, ?_⟩, rfl⟩
    · rw [mismatchAt_of_asks he hx, hwhy, Option.map_some]
    · intro j y hy hlt
      obtain ⟨z, hz, rfl⟩ := (ExpectedResponse.mem_headerEntries_iff he).mp hy
      rw [mismatchAt_of_asks he hz, Option.map_eq_none_iff]
      exact shortfall_eq_none_iff.mpr (hleast j z hz hlt)

end Response

end ClusterProbe
