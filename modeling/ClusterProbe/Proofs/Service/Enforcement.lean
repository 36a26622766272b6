import ClusterProbe.Proofs.Service.Spelling

/-!
# Which expected headers are enforced

A suite may expect two things of one header, under names that differ only in the case of letters. Of
these the one whose name sorts last is enforced, and the others are forgotten. Main statement: an
accepted response meets every entry that no later spelling of its name overrules, and it meets all
entries, whatever was sent, exactly where nothing is forgotten that the later spelling does not
ask for itself.
-/

namespace ClusterProbe

namespace ExpectedResponse

variable {e : ExpectedResponse} {name : String} {x : Json}

/-- Of all spellings of a name, one counts. -/
theorem exists_asks (he : e.WellFormed) (hmem : (name, x) ∈ e.headers) :
    ∃ y, e.Asks (headerKey name) y := by
  have hkeys := (Json.sortedKeys_object_iff.mp he.headers).1
  cases hfind : Json.find? (headerKey name) e.headerEntries with
  | some y =>
    obtain ⟨z, hz, -⟩ := (find?_headerEntries_iff hkeys).mp hfind
    exact ⟨z, hz⟩
  | none =>
    rw [headerEntries, Json.find?_ofEntries, Json.find?_eq_none_iff] at hfind
    apply absurd _ hfind
    simp only [List.mem_map, List.mem_reverse]
    exact ⟨_, ⟨(name, x), hmem, rfl⟩, rfl⟩

end ExpectedResponse

namespace Response

variable {e : ExpectedResponse} {r s : Response} {k : String}

/-- The response in which one header is sent as it is in another response. -/
def withHeaderOf (r : Response) (k : String) (s : Response) : Response :=
  { r with headers := (r.headers.filter fun h ↦ headerKey h.1 ≠ k) ++
      s.headers.filter fun h ↦ headerKey h.1 = k }

/-- Headers that are picked by their names are picked with all that was sent under them. -/
theorem octetsOf_filter (hs : List (String × List UInt8)) (p : String → Bool) (j : String) :
    octetsOf (hs.filter fun h ↦ p (headerKey h.1)) j = if p j then octetsOf hs j else [] := by
  induction hs with
  | nil => simp [octetsOf]
  | cons h rest ih =>
    by_cases hj : headerKey h.1 = j
    · subst hj
      by_cases hp : p (headerKey h.1) = true
      · simp [hp, octetsOf_cons_of_eq, ih]
      · simp [hp, ih]
    · by_cases hp : p (headerKey h.1) = true
      · simp [hp, octetsOf_cons_of_ne hj, ih]
      · simp [hp, octetsOf_cons_of_ne hj, ih]

/-- That header has the values of the other response, and all others have those that they had. -/
theorem valuesOf_withHeaderOf (r : Response) (k : String) (s : Response) (j : String) :
    (r.withHeaderOf k s).valuesOf j = if j = k then s.valuesOf j else r.valuesOf j := by
  have hsplit : octetsOf (r.withHeaderOf k s).headers j =
      (if j ≠ k then octetsOf r.headers j else []) ++
        if j = k then octetsOf s.headers j else [] := by
    have hrest := octetsOf_filter r.headers (fun i ↦ i ≠ k) j
    have hmoved := octetsOf_filter s.headers (fun i ↦ i = k) j
    simp only [decide_eq_true_eq] at hrest hmoved
    rw [← hrest, ← hmoved]
    simp [withHeaderOf, octetsOf]
  rw [valuesOf_eq, valuesOf_eq, valuesOf_eq, hsplit]
  by_cases hj : j = k
  · simp [hj]
  · simp [hj]

/-- The headers of an accepted response meet what is expected of each of them. -/
theorem meets_of_check (he : e.WellFormed) (h : r.check e = .ok ()) {x : Json} (hx : e.Asks k x) :
    r.Meets k x := by
  have hkeys := (Json.sortedKeys_object_iff.mp he.headers).1
  rcases check_eq_iff.mp h with ⟨-, h⟩ | ⟨-, _, -, h⟩ | ⟨-, hheaders, -⟩
  · cases h
  · cases h
  · exact (checkHeaders_eq_ok_iff hkeys).mp hheaders k x hx

/-- An accepted response stays accepted when one header is sent in another way that meets what is
expected of it. -/
theorem check_withHeaderOf (he : e.WellFormed) (h : r.check e = .ok ()) {y : Json}
    (hy : e.Asks k y) (hs : s.Meets k y) : (r.withHeaderOf k s).check e = .ok () := by
  have hkeys := (Json.sortedKeys_object_iff.mp he.headers).1
  rcases check_eq_iff.mp h with ⟨-, h⟩ | ⟨-, _, -, h⟩ | ⟨hstatus, hheaders, hbody⟩
  · cases h
  · cases h
  · apply check_eq_iff.mpr
    refine .inr (.inr ⟨hstatus, (checkHeaders_eq_ok_iff hkeys).mpr ?_, hbody⟩)
    intro j z hz
    have hvalues := r.valuesOf_withHeaderOf k s j
    by_cases hj : j = k
    · subst hj
      obtain rfl := hz.unique he hy
      rw [if_pos rfl] at hvalues
      exact (meets_congr hvalues).mpr hs
    · rw [if_neg hj] at hvalues
      exact (meets_congr hvalues).mpr ((checkHeaders_eq_ok_iff hkeys).mp hheaders j z hz)

end Response

/-- One header that is expected in two spellings. -/
def twoSpellings : ExpectedResponse :=
  ⟨200, [("X-Id", .string "1"), ("x-id", .string "2")], some (.string "pong")⟩

/-- A response that is as the second spelling expects it, and not as the first one does. -/
def secondSpelling : Response := ⟨200, [("x-id", [0x32])], "pong"⟩

namespace Response

theorem wellFormed_twoSpellings : twoSpellings.WellFormed :=
  ⟨by decide, by simp [twoSpellings, Json.SortedKeys]⟩

theorem mem_twoSpellings_iff {name : String} {x : Json} :
    (name, x) ∈ twoSpellings.headers ↔
      name = "X-Id" ∧ x = .string "1" ∨ name = "x-id" ∧ x = .string "2" := by
  simp [twoSpellings]

/-- Both spellings are of one name. -/
theorem headerKey_spellings : headerKey "X-Id" = "x-id" ∧ headerKey "x-id" = "x-id" := by
  decide +kernel

/-- The response has the value that the second spelling asks for, and no other. -/
theorem meets_secondSpelling_iff {s : String} :
    secondSpelling.Meets "x-id" (.string s) ↔ s = "2" := by
  have hscalar : Json.IsScalar (.string s) := trivial
  have hvalues : secondSpelling.valuesOf "x-id" = ["2"] := by decide +kernel
  have hjoined : secondSpelling.joined "x-id" = "2" := by
    rw [joined, hvalues]
    rfl
  rw [meets_scalar_iff hscalar, has_iff_valuesOf_ne_nil, hvalues, hjoined]
  exact and_iff_right (List.cons_ne_nil _ _)

/-- The second spelling is the one that counts, so the response is accepted. -/
theorem check_secondSpelling : secondSpelling.check twoSpellings = .ok () := by
  have hkeys := (Json.sortedKeys_object_iff.mp wellFormed_twoSpellings.headers).1
  refine check_eq_iff.mpr (.inr (.inr ⟨rfl, (checkHeaders_eq_ok_iff hkeys).mpr ?_, ?_⟩))
  · rintro k x ⟨name, hmem, rfl, hlast⟩
    rcases mem_twoSpellings_iff.mp hmem with ⟨rfl, -⟩ | ⟨rfl, rfl⟩
    · have hother : ("x-id", .string "2") ∈ twoSpellings.headers := by simp [twoSpellings]
      have hle := hlast _ _ hother (headerKey_spellings.2.trans headerKey_spellings.1.symm)
      exact absurd hle (by decide)
    · rw [headerKey_spellings.2]
      exact meets_secondSpelling_iff.mpr rfl
  · have hbody : twoSpellings.body = some (.string "pong") := rfl
    rw [checkBody_of_text hbody]
    rfl

/-- An accepted response meets every expected header whose name no other spelling of it sorts behind.
All expected headers are met by every response that is accepted exactly if none is accepted, or if
whatever meets the spelling of a header that counts meets its other spellings too. -/
theorem meets_of_last_spelling {e : ExpectedResponse} (he : e.WellFormed) :
    (∀ r : Response, r.check e = .ok () → ∀ name x, (name, x) ∈ e.headers →
      (∀ other y, (other, y) ∈ e.headers → headerKey other = headerKey name → other ≤ name) →
      r.Meets (headerKey name) x) ∧
    ((∀ r : Response, r.check e = .ok () → ∀ name x, (name, x) ∈ e.headers →
        r.Meets (headerKey name) x) ↔
      (∀ r : Response, r.check e ≠ .ok ()) ∨
        ∀ name x y, (name, x) ∈ e.headers → e.Asks (headerKey name) y →
          ∀ s : Response, s.Meets (headerKey name) y → s.Meets (headerKey name) x) := by
  constructor
  · intro r h name x hmem hlast
    exact meets_of_check he h ⟨name, hmem, rfl, hlast⟩
  · constructor
    · intro hall
      by_cases hnone : ∀ r : Response, r.check e ≠ .ok ()
      · exact .inl hnone
      · right
        simp only [ne_eq, not_forall, not_not] at hnone
        obtain ⟨r, hr⟩ := hnone
        intro name x y hmem hy s hs
        have hvalues := r.valuesOf_withHeaderOf (headerKey name) s (headerKey name)
        rw [if_pos rfl] at hvalues
        exact (meets_congr hvalues).mp (hall _ (check_withHeaderOf he hr hy hs) name x hmem)
    · intro hcases r hr name x hmem
      rcases hcases with hnone | himplied
      · exact absurd hr (hnone r)
      · obtain ⟨y, hy⟩ := ExpectedResponse.exists_asks he hmem
        exact himplied name x y hmem hy r (meets_of_check he hr hy)

/-- The spelling that sorts last is enforced. -/
theorem meets_second_spelling :
    secondSpelling.check twoSpellings = .ok () ∧
      secondSpelling.Meets (headerKey "x-id") (.string "2") := by
  have hmem : ("x-id", .string "2") ∈ twoSpellings.headers := by simp [twoSpellings]
  have hlast (other : String) (y : Json) (h : (other, y) ∈ twoSpellings.headers) :
      other ≤ "x-id" := by
    rcases mem_twoSpellings_iff.mp h with ⟨rfl, -⟩ | ⟨rfl, -⟩
    · decide
    · decide
  have henforced := (meets_of_last_spelling wellFormed_twoSpellings).1 _ check_secondSpelling
  exact ⟨check_secondSpelling, henforced "x-id" _ hmem fun other y h _ ↦ hlast other y h⟩

/-- The other spelling is forgotten: a response is accepted that does not meet it. -/
theorem check_forgets_first_spelling :
    secondSpelling.check twoSpellings = .ok () ∧ ("X-Id", .string "1") ∈ twoSpellings.headers ∧
      ¬ secondSpelling.Meets (headerKey "X-Id") (.string "1") := by
  refine ⟨check_secondSpelling, by simp [twoSpellings], ?_⟩
  rw [headerKey_spellings.1, meets_secondSpelling_iff]
  decide

end Response

end ClusterProbe
