import ClusterProbe.Proofs.Service.Check

/-!
# Spelling and order of headers

The name of a header may be written in large and small letters, and the headers of a response come
in some order. Main statements: one list of headers can be brought into the form of another by
spelling names differently and exchanging neighbours of different names exactly if each header has
the same values in both, in the same order; and the check of a response sees nothing of such a
change, nor of how the suite spells the names it expects.
-/

namespace ClusterProbe

/-- What was sent under a name, in order. -/
def octetsOf (headers : List (String × List UInt8)) (k : String) : List (List UInt8) :=
  (headers.filter fun h ↦ headerKey h.1 = k).map Prod.snd

/-- The second list of headers is the first one with names spelled in other letters, large or small,
and with neighbours of different names exchanged, any number of times. -/
inductive Rearranged : List (String × List UInt8) → List (String × List UInt8) → Prop
  | nil : Rearranged [] []
  | cons {name other : String} (octets : List UInt8) {hs gs : List (String × List UInt8)}
      (h : headerKey other = headerKey name) (rest : Rearranged hs gs) :
      Rearranged ((name, octets) :: hs) ((other, octets) :: gs)
  | swap (f g : String × List UInt8) (hs : List (String × List UInt8))
      (h : headerKey f.1 ≠ headerKey g.1) : Rearranged (f :: g :: hs) (g :: f :: hs)
  | trans {fs gs hs : List (String × List UInt8)} (h : Rearranged fs gs) (k : Rearranged gs hs) :
      Rearranged fs hs

section Octets

variable {hs gs : List (String × List UInt8)} {f : String × List UInt8} {k : String}

theorem octetsOf_cons_of_eq (h : headerKey f.1 = k) :
    octetsOf (f :: hs) k = f.2 :: octetsOf hs k := by
  rw [octetsOf, List.filter_cons_of_pos (by simpa using h)]
  rfl

theorem octetsOf_cons_of_ne (h : headerKey f.1 ≠ k) : octetsOf (f :: hs) k = octetsOf hs k := by
  rw [octetsOf, List.filter_cons_of_neg (by simpa using h)]
  rfl

theorem octetsOf_eq_nil_iff : octetsOf hs k = [] ↔ ∀ h ∈ hs, headerKey h.1 ≠ k := by
  simp [octetsOf]

/-- Where a header comes first with some octets, it can be found there, behind other headers only. -/
theorem exists_of_octetsOf_eq_cons {o : List UInt8} {os : List (List UInt8)}
    (h : octetsOf hs k = o :: os) :
    ∃ before name after, hs = before ++ (name, o) :: after ∧ headerKey name = k ∧
      octetsOf before k = [] := by
  induction hs with
  | nil => cases h
  | cons g rest ih =>
    by_cases hk : headerKey g.1 = k
    · rw [octetsOf_cons_of_eq hk, List.cons.injEq] at h
      exact ⟨[], g.1, rest, by rw [← h.1]; rfl, hk, rfl⟩
    · rw [octetsOf_cons_of_ne hk] at h
      obtain ⟨before, name, after, rfl, hname, hbefore⟩ := ih h
      exact ⟨g :: before, name, after, rfl, hname, (octetsOf_cons_of_ne hk).trans hbefore⟩

end Octets

namespace Rearranged

variable {hs gs : List (String × List UInt8)}

theorem refl (hs : List (String × List UInt8)) : Rearranged hs hs := by
  induction hs with
  | nil => exact .nil
  | cons h rest ih => exact .cons h.2 rfl ih

/-- One change leaves what was sent under each name as it is, and so do all of them together. -/
theorem octetsOf_eq (h : Rearranged hs gs) (k : String) : octetsOf gs k = octetsOf hs k := by
  induction h with
  | nil => rfl
  | @cons name other octets hs gs hname _ ih =>
    by_cases hk : headerKey name = k
    · rw [octetsOf_cons_of_eq (hname.trans hk), octetsOf_cons_of_eq hk, ih]
    · rw [octetsOf_cons_of_ne (hname ▸ hk), octetsOf_cons_of_ne hk, ih]
  | swap f g hs hne =>
    by_cases hf : headerKey f.1 = k
    · have hg : headerKey g.1 ≠ k := fun hg ↦ hne (hf.trans hg.symm)
      rw [octetsOf_cons_of_ne hg, octetsOf_cons_of_eq hf, octetsOf_cons_of_eq hf,
        octetsOf_cons_of_ne hg]
    · rw [octetsOf_cons_of_ne (f := f) hf]
      by_cases hg : headerKey g.1 = k
      · rw [octetsOf_cons_of_eq hg, octetsOf_cons_of_eq hg, octetsOf_cons_of_ne hf]
      · rw [octetsOf_cons_of_ne hg, octetsOf_cons_of_ne hg, octetsOf_cons_of_ne hf]
  | trans _ _ ihh ihk => exact ihk.trans ihh

/-- A header can be moved behind headers of other names. -/
theorem move (f : String × List UInt8) {before : List (String × List UInt8)}
    (after : List (String × List UInt8)) (h : octetsOf before (headerKey f.1) = []) :
    Rearranged (f :: (before ++ after)) (before ++ f :: after) := by
  induction before with
  | nil => exact refl _
  | cons g rest ih =>
    have hne := octetsOf_eq_nil_iff.mp h
    have hrest : octetsOf rest (headerKey f.1) = [] :=
      octetsOf_eq_nil_iff.mpr fun x hx ↦ hne x (List.mem_cons_of_mem _ hx)
    exact (swap f g _ (hne g List.mem_cons_self).symm).trans (.cons g.2 rfl (ih hrest))

end Rearranged

/-- Headers can be rearranged into others exactly if the same was sent under each name, in the same
order. -/
theorem rearranged_iff {hs gs : List (String × List UInt8)} :
    Rearranged hs gs ↔ ∀ k, octetsOf gs k = octetsOf hs k := by
  refine ⟨Rearranged.octetsOf_eq, fun h ↦ ?_⟩
  induction hs generalizing gs with
  | nil =>
    cases gs with
    | nil => exact .nil
    | cons g rest =>
      have hnil := h (headerKey g.1)
      rw [octetsOf_cons_of_eq rfl] at hnil
      cases hnil
  | cons f hs ih =>
    obtain ⟨name, octets⟩ := f
    have hfirst : octetsOf gs (headerKey name) = octets :: octetsOf hs (headerKey name) := by
      rw [h, octetsOf_cons_of_eq rfl]
    obtain ⟨before, other, after, rfl, hother, hbefore⟩ := exists_of_octetsOf_eq_cons hfirst
    rw [← hother] at hbefore
    have hrest (k : String) : octetsOf (before ++ after) k = octetsOf hs k := by
      have hmoved := (Rearranged.move (other, octets) after hbefore).octetsOf_eq k
      rw [h k] at hmoved
      by_cases hk : headerKey name = k
      · rw [octetsOf_cons_of_eq hk, octetsOf_cons_of_eq (hother.trans hk), List.cons.injEq] at hmoved
        exact hmoved.2.symm
      · rw [octetsOf_cons_of_ne hk, octetsOf_cons_of_ne (hother ▸ hk)] at hmoved
        exact hmoved.symm
    exact (Rearranged.cons octets hother (ih hrest)).trans (.move _ after hbefore)

namespace ExpectedResponse

/-- The second expectation is the first one with the names of headers spelled in other letters, large
or small, so that they may come in another order. -/
structure Respelled (e f : ExpectedResponse) : Prop where
  statusCode : f.statusCode = e.statusCode
  headers : (f.headers.map fun h ↦ (headerKey h.1, h.2)).Perm
    (e.headers.map fun h ↦ (headerKey h.1, h.2))
  body : f.body = e.body

/-- Under names whose expectation is a list the same was sent in the second list of headers as in the
first, in any order and any number of times; under all other names, in the same order. -/
structure Regrouped (e : ExpectedResponse) (hs gs : List (String × List UInt8)) : Prop where
  ofList : ∀ k items, e.Asks k (.array items) → ∀ v, v ∈ octetsOf gs k ↔ v ∈ octetsOf hs k
  other : ∀ k, (∀ items, ¬ e.Asks k (.array items)) → octetsOf gs k = octetsOf hs k

variable {e f : ExpectedResponse}

/-- At most one thing is expected of a header. -/
theorem Asks.unique {k : String} {x y : Json} (hx : e.Asks k x) (he : e.WellFormed)
    (hy : e.Asks k y) : x = y := by
  obtain ⟨name, hmem, hname, hlast⟩ := hx
  obtain ⟨other, hmem', hother, hlast'⟩ := hy
  obtain rfl : name = other := le_antisymm (hlast' name x hmem hname) (hlast other y hmem' hother)
  have hfind := (Json.find?_eq_some_iff he.headers.nodup_keys).mpr hmem
  rw [(Json.find?_eq_some_iff he.headers.nodup_keys).mpr hmem'] at hfind
  exact (Option.some.inj hfind).symm

/-- Names that differ in more than the case of letters make up the same mapping however they are
spelled. -/
theorem Respelled.headerEntries_eq (h : e.Respelled f)
    (hdistinct : (e.headers.map fun h ↦ headerKey h.1).Nodup) :
    f.headerEntries = e.headerEntries := by
  have hperm := h.headers.map fun h ↦ (h.1, headerExpectation h.2)
  simp only [List.map_map, Function.comp_def] at hperm
  refine (Json.ofEntries_of_perm hperm.symm ?_).symm
  rw [List.map_map]
  exact hdistinct

end ExpectedResponse

namespace Response

variable {e : ExpectedResponse} {r s : Response} {k : String}

theorem valuesOf_eq : r.valuesOf k =
    (octetsOf r.headers k).map fun octets ↦ String.ofList (Text.decodeLossy octets) := by
  rw [valuesOf, octetsOf, List.map_map]
  rfl

/-- The mapping of headers is made of the values of each header. -/
theorem headerEntries_congr (h : ∀ k, s.valuesOf k = r.valuesOf k)
    (expected : List (String × Json)) : s.headerEntries expected = r.headerEntries expected := by
  refine Json.eq_of_find?_eq (Json.pairwise_keys_ofEntries _) (Json.pairwise_keys_ofEntries _)
    fun k ↦ ?_
  have hsent : s.Has k ↔ r.Has k := by
    rw [has_iff_valuesOf_ne_nil, has_iff_valuesOf_ne_nil, h]
  by_cases hr : r.Has k
  · rw [find?_headerEntries_of_has hr, find?_headerEntries_of_has (hsent.mpr hr)]
    unfold shaped joined
    rw [h]
  · rw [find?_headerEntries_of_not_has hr, find?_headerEntries_of_not_has (mt hsent.mp hr)]

/-- What is met depends on the values of the header alone. -/
theorem meets_congr (h : s.valuesOf k = r.valuesOf k) {x : Json} : s.Meets k x ↔ r.Meets k x := by
  rw [← shortfall_eq_none_iff, ← shortfall_eq_none_iff]
  unfold shortfall joined
  rw [h]

/-- A list is met by values in any order and number, everything else by the same values in the same
order. -/
theorem meets_iff_of_regrouped (he : e.WellFormed) (h : e.Regrouped r.headers s.headers) {x : Json}
    (hx : e.Asks k x) : s.Meets k x ↔ r.Meets k x := by
  by_cases hlist : ∃ items, e.Asks k (.array items)
  · obtain ⟨items, hitems⟩ := hlist
    obtain rfl := hx.unique he hitems
    have hmem (v : String) : v ∈ s.valuesOf k ↔ v ∈ r.valuesOf k := by
      rw [valuesOf_eq, valuesOf_eq, List.mem_map, List.mem_map]
      exact exists_congr fun octets ↦ and_congr_left' (h.ofList k items hitems octets)
    have hsent : s.Has k ↔ r.Has k := by
      rw [has_iff_valuesOf_ne_nil, has_iff_valuesOf_ne_nil, ne_eq, ne_eq,
        List.eq_nil_iff_forall_not_mem, List.eq_nil_iff_forall_not_mem]
      simp only [hmem]
    rw [meets_array_iff, meets_array_iff, hsent]
    exact and_congr_right' (forall₂_congr fun v _ ↦ hmem v.plainText)
  · have hoctets := h.other k (not_exists.mp hlist)
    exact meets_congr (by rw [valuesOf_eq, valuesOf_eq, hoctets])

/-- How names of headers are spelled, by the suite or in the response, and in which order headers of
different names come, does not matter to the check of a response; nor does it matter to the
acceptance of the headers in which order and how often something was sent under a name whose
expectation is a list. -/
theorem check_of_respelled {f : ExpectedResponse} (he : e.WellFormed)
    (hdistinct : (e.headers.map fun h ↦ headerKey h.1).Nodup) (hexpected : e.Respelled f)
    (hstatus : s.status = r.status) (hheaders : Rearranged r.headers s.headers)
    (hbody : s.body = r.body) :
    s.check f = r.check e ∧
      ∀ t : Response, e.Regrouped r.headers t.headers →
        (t.checkHeaders e = .ok () ↔ r.checkHeaders e = .ok ()) := by
  constructor
  · have hvalues (k : String) : s.valuesOf k = r.valuesOf k := by
      rw [valuesOf_eq, valuesOf_eq, rearranged_iff.mp hheaders k]
    unfold check checkStatus checkHeaders checkBody
    rw [hexpected.headerEntries_eq hdistinct, headerEntries_congr hvalues, hexpected.statusCode,
      hexpected.body, hstatus, hbody]
  · intro t hregrouped
    have hkeys := (Json.sortedKeys_object_iff.mp he.headers).1
    rw [checkHeaders_eq_ok_iff hkeys, checkHeaders_eq_ok_iff hkeys]
    exact forall₂_congr fun k x ↦ imp_congr_right (meets_iff_of_regrouped he hregrouped)

/-- Two cookies around another header: it does not matter how the names are spelled and that the
other header comes first, nor that a cookie which a list expects was sent twice. -/
theorem check_cookies_respelled :
    let cookies : Json := .array [.string "b", .string "a"]
    let e : ExpectedResponse :=
      ⟨200, [("Content-Type", .string "x"), ("Set-Cookie", cookies)], none⟩
    let f : ExpectedResponse :=
      ⟨200, [("SET-cookie", cookies), ("content-TYPE", .string "x")], none⟩
    let r : Response :=
      ⟨200, [("set-cookie", [0x61]), ("content-type", [0x79]), ("Set-Cookie", [0x62])], ""⟩
    let s : Response :=
      ⟨200, [("CONTENT-type", [0x79]), ("SET-COOKIE", [0x61]), ("set-cookie", [0x62])], ""⟩
    let t : Response := ⟨200, [("set-cookie", [0x62]), ("set-cookie", [0x61]),
      ("content-type", [0x79]), ("set-cookie", [0x62])], ""⟩
    s.check f = r.check e ∧ (t.checkHeaders e = .ok () ↔ r.checkHeaders e = .ok ()) := by
  intro cookies e f r s t
  have hcookie : headerKey "set-cookie" = "set-cookie" ∧ headerKey "Set-Cookie" = "set-cookie" ∧
      headerKey "SET-COOKIE" = "set-cookie" ∧ headerKey "SET-cookie" = "set-cookie" := by
    decide +kernel
  have htype : headerKey "content-type" = "content-type" ∧
      headerKey "Content-Type" = "content-type" ∧ headerKey "CONTENT-type" = "content-type" ∧
      headerKey "content-TYPE" = "content-type" := by
    decide +kernel
  have he : e.WellFormed := ⟨by decide, by simp [e]⟩
  have hdistinct : (e.headers.map fun h ↦ headerKey h.1).Nodup := by
    simp [e, hcookie, htype]
  have hexpected : e.Respelled f := by
    refine ⟨rfl, ?_, rfl⟩
    simp only [e, f, List.map_cons, List.map_nil, hcookie, htype]
    exact .swap ..
  have hheaders : Rearranged r.headers s.headers := by
    refine .trans (.swap _ _ _ ?_) (.cons _ ?_ (.cons _ ?_ (.cons _ ?_ .nil)))
    · simp [hcookie, htype]
    · rw [htype.1, htype.2.2.1]
    · rw [hcookie.1, hcookie.2.2.1]
    · rw [hcookie.1, hcookie.2.1]
  have hcheck := check_of_respelled (r := r) (s := s) he hdistinct hexpected rfl hheaders rfl
  refine ⟨hcheck.1, hcheck.2 t ⟨?_, ?_⟩⟩
  · rintro k items ⟨name, hmem, rfl, -⟩ v
    have hname : headerKey name = "set-cookie" := by
      rcases List.mem_cons.mp hmem with heq | hmem
      · cases heq
      · rw [(Prod.mk.inj (List.mem_singleton.mp hmem)).1]
        exact hcookie.2.1
    rw [hname]
    simp [octetsOf, r, t, hcookie, htype]
    tauto
  · intro k hk
    have hne : "set-cookie" ≠ k := by
      rintro rfl
      have hmem : ("Set-Cookie", cookies) ∈ e.headers := by simp [e]
      refine hk _ ⟨"Set-Cookie", hmem, hcookie.2.1, fun other y hmem _ ↦ ?_⟩
      rcases List.mem_cons.mp hmem with heq | hmem
      · rw [(Prod.mk.inj heq).1]
        decide +kernel
      · rw [(Prod.mk.inj (List.mem_singleton.mp hmem)).1]
    simp [octetsOf, r, t, List.filter_cons, hcookie, hne]

end Response

end ClusterProbe
