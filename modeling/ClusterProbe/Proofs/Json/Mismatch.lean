import ClusterProbe.Proofs.Json.Inclusion

/-!
# Where a mismatch is

Keys are followed through the mappings of an expectation and of a document side by side. Main
statement: the search reports some keys and a reason exactly if that is what is wrong where the keys
lead, and at every mapping on the way there all that comes before in the order of keys is as
expected. So the mismatch that is reported is the first one, and there is no other that could be.
-/

namespace ClusterProbe

/-- The path of a mismatch shows all its keys. -/
theorem Mismatch.path_eq (m : Mismatch) :
    m.path = "$" ++ String.join (m.keys.map fun k ↦ "." ++ k) := by
  have hfold (keys : List String) (front : String) :
      keys.foldl (fun acc k ↦ acc ++ "." ++ k) front =
        front ++ String.join (keys.map fun k ↦ "." ++ k) := by
    induction keys generalizing front with
    | nil => simp [String.join]
    | cons k rest ih =>
      rw [List.foldl_cons, ih, List.map_cons, String.join_cons]
      simp only [String.append_assoc]
  exact hfold m.keys "$"

namespace Json

/-- Keys lead from a document to a part of it, each key through a mapping. -/
inductive Leads : Json → List String → Json → Prop
  | here (v : Json) : Leads v [] v
  | under {es : List (String × Json)} {k : String} {keys : List String} {w v : Json}
      (entry : (k, w) ∈ es) (rest : Leads w keys v) : Leads (.object es) (k :: keys) v

/-- What is wrong with a document that is not compared entry by entry with what is expected. -/
inductive Differs : Json → Json → Discrepancy → Prop
  /-- An item is missing, and none that is expected before it is. -/
  | item {before after items : List Json} {v : Json}
      (found : ∀ u ∈ before, ∃ w ∈ items, u.Equal w) (missing : ∀ w ∈ items, ¬ v.Equal w) :
      Differs (.array (before ++ v :: after)) (.array items) (.missingItem v)
  | kind {e a : Json} (h : e.kind ≠ a.kind) : Differs e a (.kinds e a)
  | value {e a : Json} (he : e.IsScalar) (hkind : e.kind = a.kind) (h : ¬ e.Equal a) :
      Differs e a (.values e a)

/-- What is wrong where keys lead: an entry is missing, or the parts that both documents have there
differ. -/
inductive WrongAt (e a : Json) : List String → Discrepancy → Prop
  | missing {keys : List String} {es as : List (String × Json)} {k : String} {v : Json}
      (expected : e.Leads keys (.object es)) (actual : a.Leads keys (.object as))
      (entry : (k, v) ∈ es) (absent : k ∉ as.map Prod.fst) :
      WrongAt e a (keys ++ [k]) (.missingEntry v)
  | differs {keys : List String} {v w : Json} {reason : Discrepancy} (expected : e.Leads keys v)
      (actual : a.Leads keys w) (h : v.Differs w reason) : WrongAt e a keys reason

/-- Of two mappings, everything in front of a key is as expected. -/
def MetBefore (es as : List (String × Json)) (k : String) : Prop :=
  ∀ j v, (j, v) ∈ es → j < k → ∃ w, (j, w) ∈ as ∧ v.IncludedIn w

/-- At every mapping that keys lead through, everything in front of the next key is as expected. -/
def MetOnTheWay (e a : Json) (keys : List String) : Prop :=
  ∀ front k back, keys = front ++ k :: back →
    ∃ es as, e.Leads front (.object es) ∧ a.Leads front (.object as) ∧ MetBefore es as k

section Keys

variable {e a v w x : Json} {es as : List (String × Json)} {k : String} {keys : List String}
  {reason : Discrepancy}

theorem leads_nil_iff : v.Leads [] w ↔ w = v := by
  constructor
  · intro h
    cases h
    rfl
  · rintro rfl
    exact .here w

theorem leads_cons_iff :
    v.Leads (k :: keys) x ↔ ∃ es w, v = .object es ∧ (k, w) ∈ es ∧ w.Leads keys x := by
  constructor
  · intro h
    cases h with
    | @under es _ _ w _ entry rest => exact ⟨es, w, rfl, entry, rest⟩
  · rintro ⟨es, w, rfl, entry, rest⟩
    exact .under entry rest

/-- Where the keys of mappings are in order, what a key leads to is what is found there. -/
theorem leads_object_iff (hes : (object es).SortedKeys) (hv : (k, v) ∈ es) :
    (object es).Leads (k :: keys) x ↔ v.Leads keys x := by
  constructor
  · intro h
    obtain ⟨_, w, ⟨⟩, hw, hrest⟩ := leads_cons_iff.mp h
    have hfind := (find?_eq_some_iff hes.nodup_keys).mpr hv
    rw [(find?_eq_some_iff hes.nodup_keys).mpr hw] at hfind
    obtain rfl := Option.some.inj hfind
    exact hrest
  · exact .under hv

/-- A step through two mappings leads to whatever is wrong behind it. -/
theorem WrongAt.under (hv : (k, v) ∈ es) (hw : (k, w) ∈ as) (h : WrongAt v w keys reason) :
    WrongAt (.object es) (.object as) (k :: keys) reason := by
  cases h with
  | missing expected actual entry absent =>
    exact .missing (.under hv expected) (.under hw actual) entry absent
  | differs expected actual h => exact .differs (.under hv expected) (.under hw actual) h

/-- Something that is wrong where keys lead is a missing entry, if there is but one key, or else it
is wrong behind the first step. -/
theorem WrongAt.of_cons (h : WrongAt (.object es) (.object as) (k :: keys) reason) :
    (∃ v, (k, v) ∈ es ∧ k ∉ as.map Prod.fst ∧ keys = [] ∧ reason = .missingEntry v) ∨
      ∃ v w, (k, v) ∈ es ∧ (k, w) ∈ as ∧ WrongAt v w keys reason := by
  generalize hkeys : k :: keys = all at h
  cases h with
  | @missing front _ _ last v expected actual entry absent =>
    cases front with
    | nil =>
      obtain ⟨rfl, rfl⟩ := List.cons.inj hkeys
      obtain ⟨⟩ := leads_nil_iff.mp expected
      obtain ⟨⟩ := leads_nil_iff.mp actual
      exact .inl ⟨v, entry, absent, rfl, rfl⟩
    | cons j front =>
      obtain ⟨rfl, rfl⟩ := List.cons.inj hkeys
      obtain ⟨_, u, ⟨⟩, hu, hexpected⟩ := leads_cons_iff.mp expected
      obtain ⟨_, w, ⟨⟩, hw, hactual⟩ := leads_cons_iff.mp actual
      exact .inr ⟨u, w, hu, hw, .missing hexpected hactual entry absent⟩
  | differs expected actual h =>
    subst hkeys
    obtain ⟨_, u, ⟨⟩, hu, hexpected⟩ := leads_cons_iff.mp expected
    obtain ⟨_, w, ⟨⟩, hw, hactual⟩ := leads_cons_iff.mp actual
    exact .inr ⟨u, w, hu, hw, .differs hexpected hactual h⟩

/-- Without a key, what is wrong is how the two documents differ. -/
theorem wrongAt_nil_iff : WrongAt e a [] reason ↔ e.Differs a reason := by
  constructor
  · intro h
    generalize hkeys : ([] : List String) = all at h
    cases h with
    | missing => simp at hkeys
    | differs expected actual h =>
      subst hkeys
      rw [leads_nil_iff] at expected actual
      rw [expected, actual] at h
      exact h
  · exact .differs (.here e) (.here a)

/-- Nothing comes before where there is no key. -/
theorem metOnTheWay_nil : MetOnTheWay e a [] := by
  intro front k back h
  simp at h

/-- The way through two mappings begins with what is in front of the first key. -/
theorem MetOnTheWay.before (h : MetOnTheWay (.object es) (.object as) (k :: keys)) :
    MetBefore es as k := by
  obtain ⟨_, _, hes, has, hbefore⟩ := h [] k keys rfl
  obtain ⟨⟩ := leads_nil_iff.mp hes
  obtain ⟨⟩ := leads_nil_iff.mp has
  exact hbefore

/-- The way to an entry of two mappings is no more than that. -/
theorem MetBefore.metOnTheWay (h : MetBefore es as k) :
    MetOnTheWay (.object es) (.object as) [k] := by
  intro front j back hkeys
  cases front with
  | nil =>
    obtain ⟨rfl, -⟩ := List.cons.inj hkeys
    exact ⟨es, as, .here _, .here _, h⟩
  | cons i front => simp at hkeys

/-- A longer way goes on behind the first key. -/
theorem metOnTheWay_cons_iff (he : (object es).SortedKeys) (ha : (object as).SortedKeys)
    (hv : (k, v) ∈ es) (hw : (k, w) ∈ as) :
    MetOnTheWay (.object es) (.object as) (k :: keys) ↔
      MetBefore es as k ∧ MetOnTheWay v w keys := by
  constructor
  · intro h
    refine ⟨h.before, ?_⟩
    intro front j back hkeys
    obtain ⟨fs, gs, hfs, hgs, hbefore⟩ := h (k :: front) j back (congrArg (k :: ·) hkeys)
    rw [leads_object_iff he hv] at hfs
    rw [leads_object_iff ha hw] at hgs
    exact ⟨fs, gs, hfs, hgs, hbefore⟩
  · rintro ⟨hbefore, hrest⟩ front j back hkeys
    cases front with
    | nil =>
      obtain ⟨rfl, -⟩ := List.cons.inj hkeys
      exact ⟨es, as, .here _, .here _, hbefore⟩
    | cons i front =>
      obtain ⟨rfl, htail⟩ := List.cons.inj hkeys
      obtain ⟨fs, gs, hfs, hgs, hmet⟩ := hrest front j back htail
      exact ⟨fs, gs, .under hv hfs, .under hw hgs, hmet⟩

/-- Without two mappings to compare there is nowhere to go. -/
theorem wrongAt_iff_of_not_objects (h : ∀ es as, e = .object es → a ≠ .object as) :
    WrongAt e a keys reason ∧ MetOnTheWay e a keys ↔ keys = [] ∧ e.Differs a reason := by
  constructor
  · rintro ⟨hwrong, hway⟩
    cases keys with
    | nil => exact ⟨rfl, wrongAt_nil_iff.mp hwrong⟩
    | cons k rest =>
      obtain ⟨es, as, hes, has, -⟩ := hway [] k rest rfl
      rw [leads_nil_iff] at hes has
      exact absurd has.symm (h es as hes.symm)
  · rintro ⟨rfl, hdiffers⟩
    exact ⟨wrongAt_nil_iff.mpr hdiffers, metOnTheWay_nil⟩

end Keys

section Search

variable {e a v : Json} {es as : List (String × Json)} {k : String} {keys : List String}
  {reason : Discrepancy} {m : Mismatch}

/-- Lists differ at the first expected item that is missing. -/
theorem differs_array_iff {items others : List Json} :
    (array items).Differs (.array others) reason ↔
      ∃ before v after, items = before ++ v :: after ∧ (∀ u ∈ before, ∃ w ∈ others, u.Equal w) ∧
        (∀ w ∈ others, ¬ v.Equal w) ∧ reason = .missingItem v := by
  constructor
  · intro h
    generalize hitems : array items = e at h
    generalize hothers : array others = a at h
    cases h with
    | item found missing =>
      cases hitems
      cases hothers
      exact ⟨_, _, _, rfl, found, missing, rfl⟩
    | kind h =>
      subst hitems hothers
      exact absurd rfl h
    | value he =>
      subst hitems
      exact he.elim
  · rintro ⟨before, v, after, rfl, found, missing, rfl⟩
    exact .item found missing

/-- Lists are compared up to the first expected item that is missing. -/
theorem mismatch_array_eq_some_iff {items others : List Json}
    (hitems : (array items).SortedKeys) (hothers : (array others).SortedKeys) :
    mismatch (.array items) (.array others) = some m ↔
      m.keys = [] ∧ (array items).Differs (.array others) m.reason := by
  have hmember (v : Json) (hv : v ∈ items) :
      memberOf others v = true ↔ ∃ w ∈ others, v.Equal w := by
    rw [memberOf, List.any_eq_true]
    refine exists_congr fun w ↦ and_congr_right fun hw ↦ ?_
    have hitem := sortedKeys_array_iff.mp hitems v hv
    exact same_iff_equal hitem (sortedKeys_array_iff.mp hothers w hw)
  rw [mismatch, Option.map_eq_some_iff, differs_array_iff]
  simp only [List.find?_eq_some_iff_append]
  constructor
  · rintro ⟨v, ⟨hv, before, after, rfl, hbefore⟩, rfl⟩
    refine ⟨rfl, before, v, after, rfl, fun u hu ↦ ?_, ?_, rfl⟩
    · have hu' := hbefore u hu
      simp only [Bool.not_not] at hu'
      exact (hmember u (by simp [hu])).mp hu'
    · have hv' := mt (hmember v (by simp)).mpr (by simpa using hv)
      simpa using hv'
  · rintro ⟨hkeys, before, v, after, rfl, found, missing, hreason⟩
    have hm : (⟨[], .missingItem v⟩ : Mismatch) = m := by rw [← hkeys, ← hreason]
    refine ⟨v, ⟨?_, before, after, rfl, fun u hu ↦ ?_⟩, hm⟩
    · have hv : ¬ memberOf others v = true := by
        rw [hmember v (by simp)]
        rintro ⟨w, hw, hvw⟩
        exact missing w hw hvw
      simpa using hv
    · have hu' : memberOf others u = true := (hmember u (by simp [hu])).mpr (found u hu)
      simp [hu']

/-- Documents of two kinds are not compared any further. -/
theorem mismatch_of_kind_ne (h : e.kind ≠ a.kind) : mismatch e a = some ⟨[], .kinds e a⟩ := by
  cases e <;> cases a <;> first | rfl | exact absurd rfl h

/-- Documents of two kinds differ in their kinds and in nothing else. -/
theorem differs_iff_of_kind_ne (h : e.kind ≠ a.kind) :
    e.Differs a reason ↔ reason = .kinds e a := by
  constructor
  · intro hdiffers
    cases hdiffers with
    | item => exact absurd rfl h
    | kind => rfl
    | value _ hkind => exact absurd hkind h
  · rintro rfl
    exact .kind h

/-- Scalars of one kind differ if their values do. -/
theorem differs_scalar_iff (he : e.IsScalar) (hkind : e.kind = a.kind) :
    e.Differs a reason ↔ ¬ e.Equal a ∧ reason = .values e a := by
  constructor
  · intro hdiffers
    cases hdiffers with
    | item => exact he.elim
    | kind h => exact absurd hkind h
    | value _ _ h => exact ⟨h, rfl⟩
  · rintro ⟨h, rfl⟩
    exact .value he hkind h

/-- Documents that are not both mappings are compared on the spot. -/
theorem mismatch_eq_some_iff_differs (he : e.SortedKeys) (ha : a.SortedKeys)
    (h : ∀ es as, e = .object es → a ≠ .object as) :
    mismatch e a = some m ↔ m.keys = [] ∧ e.Differs a m.reason := by
  have hm (reason : Discrepancy) :
      some ⟨[], reason⟩ = some m ↔ m.keys = [] ∧ m.reason = reason := by
    obtain ⟨keys, r⟩ := m
    simp [eq_comm]
  by_cases hkind : e.kind = a.kind
  · by_cases hscalar : e.IsScalar
    · rw [mismatch_of_isScalar hscalar, if_neg (not_not.mpr hkind),
        differs_scalar_iff hscalar hkind, ← same_iff_equal he ha]
      by_cases hsame : e.same a = true
      · simp [hsame]
      · simp [hsame, hm]
    · cases e with
      | array items =>
        cases a with
        | array others => exact mismatch_array_eq_some_iff he ha
        | _ => cases hkind
      | object es =>
        cases a with
        | object as => exact absurd rfl (h es as rfl)
        | _ => cases hkind
      | _ => exact absurd trivial hscalar
  · rw [mismatch_of_kind_ne hkind, differs_iff_of_kind_ne hkind, hm]

/-- In front of a key there is no mismatch exactly if everything there is as expected. -/
theorem forall_mismatchAt_eq_none_iff (he : (object es).SortedKeys) (ha : (object as).SortedKeys) :
    (∀ j v, (j, v) ∈ es → j < k → mismatchAt as j v = none) ↔ MetBefore es as k := by
  refine forall₄_congr fun j v hv _ ↦ ?_
  rw [mismatchAt_eq_none_iff]
  refine exists_congr fun w ↦ ?_
  rw [find?_eq_some_iff ha.nodup_keys]
  refine and_congr_right fun hw ↦ ?_
  exact mismatch_eq_none_iff ((sortedKeys_object_iff.mp he).2 j v hv)
    ((sortedKeys_object_iff.mp ha).2 j w hw)

/-- The mismatch at an entry is that it is missing, or else the mismatch of its values. -/
theorem mismatchAt_eq_some_iff (ha : (object as).SortedKeys) :
    mismatchAt as k v = some m ↔
      (k ∉ as.map Prod.fst ∧ m = ⟨[k], .missingEntry v⟩) ∨
        ∃ w n, (k, w) ∈ as ∧ mismatch v w = some n ∧ m = n.under k := by
  rw [mismatchAt, ← find?_eq_none_iff]
  simp only [← find?_eq_some_iff ha.nodup_keys]
  cases find? k as with
  | none => simp [eq_comm]
  | some w => simp [eq_comm]

/-- Two mappings are compared entry by entry, up to the first entry at which something is wrong. -/
theorem mismatch_object_eq_some_iff (he : (object es).SortedKeys) (ha : (object as).SortedKeys)
    (ih : ∀ k v, (k, v) ∈ es → ∀ {w : Json} {n : Mismatch}, v.SortedKeys → w.SortedKeys →
      (mismatch v w = some n ↔ WrongAt v w n.keys n.reason ∧ MetOnTheWay v w n.keys)) :
    mismatch (.object es) (.object as) = some m ↔
      WrongAt (.object es) (.object as) m.keys m.reason ∧
        MetOnTheWay (.object es) (.object as) m.keys := by
  have hvalue (k : String) (v w : Json) (n : Mismatch) (hv : (k, v) ∈ es) (hw : (k, w) ∈ as) :
      mismatch v w = some n ↔ WrongAt v w n.keys n.reason ∧ MetOnTheWay v w n.keys :=
    ih k v hv ((sortedKeys_object_iff.mp he).2 k v hv) ((sortedKeys_object_iff.mp ha).2 k w hw)
  rw [mismatch, mismatchEntries_eq_findSome?,
    findSome?_eq_some_iff_least (sortedKeys_object_iff.mp he).1]
  simp only [forall_mismatchAt_eq_none_iff he ha, mismatchAt_eq_some_iff ha]
  constructor
  · rintro ⟨k, v, hv, ⟨habsent, rfl⟩ | ⟨w, n, hw, hn, rfl⟩, hbefore⟩
    · have hwrong : WrongAt (.object es) (.object as) ([] ++ [k]) (.missingEntry v) :=
        .missing (.here _) (.here _) hv habsent
      exact ⟨hwrong, hbefore.metOnTheWay⟩
    · obtain ⟨hwrong, hway⟩ := (hvalue k v w n hv hw).mp hn
      exact ⟨hwrong.under hv hw, (metOnTheWay_cons_iff he ha hv hw).mpr ⟨hbefore, hway⟩⟩
  · rintro ⟨hwrong, hway⟩
    obtain ⟨keys, reason⟩ := m
    cases keys with
    | nil =>
      -- two mappings do not differ on the spot
      cases wrongAt_nil_iff.mp hwrong with
      | kind h => exact absurd rfl h
      | value hscalar => exact hscalar.elim
    | cons k keys =>
      rcases hwrong.of_cons with ⟨v, hv, habsent, rfl, hreason⟩ | ⟨v, w, hv, hw, hrest⟩
      · refine ⟨k, v, hv, .inl ⟨habsent, ?_⟩, hway.before⟩
        exact congrArg (Mismatch.mk [k]) hreason
      · obtain ⟨hbefore, hway⟩ := (metOnTheWay_cons_iff he ha hv hw).mp hway
        have hvalue := (hvalue k v w ⟨keys, reason⟩ hv hw).mpr ⟨hrest, hway⟩
        exact ⟨k, v, hv, .inr ⟨w, _, hw, hvalue, rfl⟩, hbefore⟩

/-- The search reports what is wrong where its keys lead, if all on the way there is as expected. -/
theorem mismatch_eq_some_iff (he : e.SortedKeys) (ha : a.SortedKeys) :
    mismatch e a = some m ↔ WrongAt e a m.keys m.reason ∧ MetOnTheWay e a m.keys := by
  induction e using scalar_induction generalizing a m with
  | scalar e hscalar =>
    have h (es as : List (String × Json)) (hes : e = .object es) : a ≠ .object as := by
      subst hes
      exact hscalar.elim
    rw [mismatch_eq_some_iff_differs he ha h, wrongAt_iff_of_not_objects h]
  | array items _ =>
    have h (es as : List (String × Json)) (hes : array items = .object es) : a ≠ .object as := by
      cases hes
    rw [mismatch_eq_some_iff_differs he ha h, wrongAt_iff_of_not_objects h]
  | object es ih =>
    by_cases h : ∃ as, a = .object as
    · obtain ⟨as, rfl⟩ := h
      exact mismatch_object_eq_some_iff he ha ih
    · have h (fs as : List (String × Json)) (_ : object es = .object fs) : a ≠ .object as := by
        rintro rfl
        exact h ⟨as, rfl⟩
      rw [mismatch_eq_some_iff_differs he ha h, wrongAt_iff_of_not_objects h]

/-- The mismatch that is reported is the first one, and it is where the report says: following its
keys, everything that comes before them is as expected, and its reason is the one thing that is
wrong at the place they lead to. -/
theorem mismatch_located (he : e.SortedKeys) (ha : a.SortedKeys) (m : Mismatch) :
    (mismatch e a = some m ↔ WrongAt e a m.keys m.reason ∧ MetOnTheWay e a m.keys) ∧
    (mismatch e a = some m →
      m.path = "$" ++ String.join (m.keys.map fun k ↦ "." ++ k) ∧
      (∀ reason, WrongAt e a m.keys reason → reason = m.reason) ∧
      m.reason.message =
        match m.reason with
        | .missingEntry v => "missing, expected " ++ v.text
        | .missingItem v => "missing element " ++ v.text
        | .kinds v w => "expected " ++ v.kind.name ++ " " ++ v.text ++ ", actually " ++
            w.kind.name ++ " " ++ w.text
        | .values v w => "expected " ++ v.text ++ ", actually " ++ w.text) := by
  have hiff (n : Mismatch) :
      mismatch e a = some n ↔ WrongAt e a n.keys n.reason ∧ MetOnTheWay e a n.keys :=
    mismatch_eq_some_iff he ha
  refine ⟨hiff m, fun h ↦ ⟨m.path_eq, fun reason hreason ↦ ?_, ?_⟩⟩
  · -- with the same keys and another reason, the search would report that one
    have hway : MetOnTheWay e a m.keys := ((hiff m).mp h).2
    have hsearch : mismatch e a = some ⟨m.keys, reason⟩ := (hiff _).mpr ⟨hreason, hway⟩
    rw [h] at hsearch
    exact (congrArg Mismatch.reason (Option.some.inj hsearch)).symm
  · cases m.reason <;> rfl

/-- An item is missing two mappings deep: what comes before it is as expected, and another mismatch
behind it is not reported. -/
theorem mismatch_missing_item :
    let e := object [("a", .object [("b", .null), ("list", .array [.string "x", .string "y"])]),
      ("z", .null)]
    let a := object [("a", .object [("b", .null), ("list", .array [.bool true, .string "x"])]),
      ("z", .bool false)]
    let m : Mismatch := ⟨["a", "list"], .missingItem (.string "y")⟩
    e.SortedKeys ∧ a.SortedKeys ∧ mismatch e a = some m ∧ m.path = "$.a.list" ∧
      m.reason.message = "missing element \"y\"" ∧ WrongAt e a m.keys m.reason ∧
      MetOnTheWay e a m.keys ∧ ∀ reason, WrongAt e a m.keys reason → reason = m.reason := by
  intro e a m
  have he : e.SortedKeys := by decide
  have ha : a.SortedKeys := by decide
  have hm : mismatch e a = some m := by rfl
  obtain ⟨hiff, hreport⟩ := mismatch_located he ha m
  obtain ⟨hwrong, hway⟩ := hiff.mp hm
  obtain ⟨hpath, hreason, hmessage⟩ := hreport hm
  exact ⟨he, ha, hm, hpath, hmessage, hwrong, hway, hreason⟩

end Search

end Json

end ClusterProbe
