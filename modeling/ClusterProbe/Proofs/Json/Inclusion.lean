import ClusterProbe.Inclusion
import ClusterProbe.Proofs.Json.Equality

/-!
# Structural inclusion as a relation

What inclusion means, without a search for the first mismatch: mappings are included key by key,
lists by membership of whole items, everything else by equality within a kind. Main statements: the
search finds no mismatch exactly if the relation holds, and the relation is a preorder, so asking
for less or being given more never makes a mismatch.
-/

namespace ClusterProbe.Json

/-- Structural inclusion of an expectation in a document. -/
inductive IncludedIn : Json → Json → Prop
  | mapping {e a : List (String × Json)}
      (keys : ∀ k, k ∈ e.map Prod.fst → k ∈ a.map Prod.fst)
      (values : ∀ k v w, (k, v) ∈ e → (k, w) ∈ a → IncludedIn v w) :
      IncludedIn (.object e) (.object a)
  | sequence {e a : List Json} (items : ∀ v ∈ e, ∃ w ∈ a, v.Equal w) :
      IncludedIn (.array e) (.array a)
  | scalar {e a : Json} (he : e.IsScalar) (hkind : e.kind = a.kind) (h : e.Equal a) :
      IncludedIn e a

/-- The mismatch at an entry of an expectation. -/
def mismatchAt (actual : List (String × Json)) (k : String) (v : Json) : Option Mismatch :=
  match find? k actual with
  | none => some ⟨[k], .missingEntry v⟩
  | some w => (mismatch v w).map (Mismatch.under k)

section Search

variable {v e a : Json} {items : List Json} {entries es : List (String × Json)} {k : String}

/-- The mismatch of two mappings is the first one at an entry. -/
theorem mismatchEntries_eq_findSome? (es actual : List (String × Json)) :
    mismatchEntries es actual = es.findSome? fun entry ↦ mismatchAt actual entry.1 entry.2 := by
  induction es with
  | nil => rfl
  | cons entry rest ih =>
    obtain ⟨k, v⟩ := entry
    rw [mismatchEntries, List.findSome?_cons, mismatchAt, ih]
    cases find? k actual with
    | none => rfl
    | some w =>
      dsimp only
      cases mismatch v w with
      | none => rfl
      | some m => rfl

/-- There is no mismatch at an entry if the document has the key and includes the value. -/
theorem mismatchAt_eq_none_iff :
    mismatchAt es k v = none ↔ ∃ w, find? k es = some w ∧ mismatch v w = none := by
  rw [mismatchAt]
  cases find? k es with
  | none => simp
  | some w => simp

/-- Nothing but a mapping meets the expectation of a mapping. -/
theorem mismatch_object_eq_none_iff :
    mismatch (.object entries) a = none ↔
      ∃ es, a = .object es ∧
        ∀ k v, (k, v) ∈ entries → ∃ w, find? k es = some w ∧ mismatch v w = none := by
  cases a with
  | object es =>
    rw [mismatch, mismatchEntries_eq_findSome?, List.findSome?_eq_none_iff]
    simp only [Prod.forall, mismatchAt_eq_none_iff, Json.object.injEq, exists_eq_left']
  | _ => simp [mismatch, kind]

/-- Nothing but a list meets the expectation of a list. -/
theorem mismatch_array_eq_none_iff :
    mismatch (.array items) a = none ↔
      ∃ as, a = .array as ∧ ∀ v ∈ items, ∃ w ∈ as, v.same w = true := by
  cases a with
  | array as => simp [mismatch, memberOf]
  | _ => simp [mismatch, kind]

/-- A text is a member of a list of texts if it is one of them. -/
theorem memberOf_strings (texts : List String) (s : String) :
    memberOf (texts.map .string) (.string s) = decide (s ∈ texts) := by
  rw [memberOf, List.any_map, Bool.eq_iff_iff, List.any_eq_true, decide_eq_true_eq]
  constructor
  · rintro ⟨t, ht, h⟩
    obtain rfl : s = t := of_decide_eq_true h
    exact ht
  · intro h
    exact ⟨s, h, decide_eq_true rfl⟩

/-- What is found equal is of one kind. -/
theorem kind_eq_of_same (h : e.same a = true) : e.kind = a.kind := by
  cases e <;> cases a <;> first | rfl | cases h

theorem Equal.kind_eq (h : e.Equal a) : e.kind = a.kind := by
  cases h <;> rfl

/-- What is equal to a scalar is a scalar. -/
theorem isScalar_of_same (he : e.IsScalar) (h : e.same a = true) : a.IsScalar := by
  cases e <;> cases a <;> trivial

/-- Scalars are compared by their kinds and then as a whole. -/
theorem mismatch_of_isScalar (he : e.IsScalar) :
    mismatch e a =
      if e.kind ≠ a.kind then some ⟨[], .kinds e a⟩
      else if e.same a then none else some ⟨[], .values e a⟩ := by
  cases e with
  | array items => exact he.elim
  | object entries => exact he.elim
  | _ => rfl

/-- A scalar meets the expectation of a scalar if it is equal to it. -/
theorem mismatch_scalar_eq_none_iff (he : e.IsScalar) :
    mismatch e a = none ↔ e.same a = true := by
  rw [mismatch_of_isScalar he]
  constructor
  · intro h
    split at h
    · cases h
    · split at h
      next hsame => exact hsame
      · cases h
  · intro h
    rw [if_neg (not_not.mpr (kind_eq_of_same h)), if_pos h]

theorem included_iff : included e a = true ↔ mismatch e a = none := by
  rw [included, Option.isNone_iff_eq_none]

end Search

section Preorder

/-- Documents with their keys in order are included in themselves. -/
theorem mismatch_self {v : Json} (hv : v.SortedKeys) : mismatch v v = none := by
  induction v using scalar_induction with
  | scalar v hscalar => exact (mismatch_scalar_eq_none_iff hscalar).mpr v.same_refl
  | array items _ =>
    exact mismatch_array_eq_none_iff.mpr ⟨items, rfl, fun v hv ↦ ⟨v, hv, v.same_refl⟩⟩
  | object entries ih =>
    refine mismatch_object_eq_none_iff.mpr ⟨entries, rfl, fun k v hmem ↦ ⟨v, ?_, ?_⟩⟩
    · exact (find?_eq_some_iff hv.nodup_keys).mpr hmem
    · exact ih k v hmem ((sortedKeys_object_iff.mp hv).2 k v hmem)

/-- What is included in a document is included in all that includes it. -/
theorem mismatch_trans {a b c : Json} (hab : mismatch a b = none) (hbc : mismatch b c = none) :
    mismatch a c = none := by
  induction a using scalar_induction generalizing b c with
  | scalar a ha =>
    rw [mismatch_scalar_eq_none_iff ha] at hab ⊢
    have hb : b.IsScalar := isScalar_of_same ha hab
    rw [mismatch_scalar_eq_none_iff hb] at hbc
    exact same_trans hab hbc
  | array items _ =>
    obtain ⟨bs, rfl, has⟩ := mismatch_array_eq_none_iff.mp hab
    obtain ⟨cs, rfl, hbs⟩ := mismatch_array_eq_none_iff.mp hbc
    refine mismatch_array_eq_none_iff.mpr ⟨cs, rfl, fun v hv ↦ ?_⟩
    obtain ⟨w, hw, hvw⟩ := has v hv
    obtain ⟨u, hu, hwu⟩ := hbs w hw
    exact ⟨u, hu, same_trans hvw hwu⟩
  | object entries ih =>
    obtain ⟨bs, rfl, has⟩ := mismatch_object_eq_none_iff.mp hab
    obtain ⟨cs, rfl, hbs⟩ := mismatch_object_eq_none_iff.mp hbc
    refine mismatch_object_eq_none_iff.mpr ⟨cs, rfl, fun k v hmem ↦ ?_⟩
    obtain ⟨w, hw, hvw⟩ := has k v hmem
    obtain ⟨u, hu, hwu⟩ := hbs k w (mem_of_find? hw)
    exact ⟨u, hu, ih k v hmem hvw hwu⟩

/-- Inclusion is a preorder: every document is included in itself, and what is included in a
document is included in all that includes it. So there is no mismatch where less is expected, or
more given, than where there is none. -/
theorem included_preorder :
    (∀ v : Json, v.SortedKeys → included v v = true) ∧
    (∀ a b c : Json, included a b = true → included b c = true → included a c = true) ∧
    (∀ expected actual less more : Json, included less expected = true →
      included actual more = true → mismatch expected actual = none →
      mismatch less more = none) := by
  simp only [included_iff]
  refine ⟨fun v ↦ mismatch_self, fun a b c ↦ mismatch_trans, ?_⟩
  intro expected actual less more hless hmore h
  exact mismatch_trans hless (mismatch_trans h hmore)

/-- A mapping is included in itself and in all that adds an entry or an item to it. Zeros of either
sign do for one another. -/
theorem included_added_entries :
    let v := object [("a", .object [("list", .array [.number (.double (.zero true))])])]
    let w := object [("a", .object [("b", .null),
      ("list", .array [.string "x", .number (.double (.zero false))])])]
    let more := object [("a", .object [("b", .null),
      ("list", .array [.number (.double (.zero true)), .bool true, .string "x"]),
      ("z", .object [])])]
    v.SortedKeys ∧ included v v = true ∧ included v w = true ∧ included w more = true ∧
      included v more = true ∧ mismatch v more = none := by
  intro v w more
  have hv : v.SortedKeys := by decide
  have hvw : included v w = true := by decide
  have hwmore : included w more = true := by decide
  have hself := included_preorder.1 v hv
  exact ⟨hv, hself, hvw, hwmore, included_preorder.2.1 v w more hvw hwmore,
    included_preorder.2.2 v w v more hself hwmore (included_iff.mp hvw)⟩

end Preorder

section Relation

variable {items : List Json} {entries : List (String × Json)} {e a : Json}

theorem includedIn_scalar_iff (he : e.IsScalar) :
    e.IncludedIn a ↔ e.kind = a.kind ∧ e.Equal a := by
  constructor
  · intro h
    cases h with
    | mapping => exact he.elim
    | sequence => exact he.elim
    | scalar _ hkind h => exact ⟨hkind, h⟩
  · rintro ⟨hkind, h⟩
    exact .scalar he hkind h

theorem includedIn_array_iff :
    (array items).IncludedIn a ↔ ∃ as, a = .array as ∧ ∀ v ∈ items, ∃ w ∈ as, v.Equal w := by
  constructor
  · intro h
    cases h with
    | @sequence _ as h => exact ⟨as, rfl, h⟩
    | scalar hscalar => exact hscalar.elim
  · rintro ⟨as, rfl, h⟩
    exact .sequence h

/-- A mapping is included in a mapping in order if each of its values is included in what is found
there under its key. -/
theorem includedIn_object_iff (ha : a.SortedKeys) :
    (object entries).IncludedIn a ↔
      ∃ es, a = .object es ∧
        ∀ k v, (k, v) ∈ entries → ∃ w, find? k es = some w ∧ v.IncludedIn w := by
  constructor
  · intro h
    cases h with
    | @mapping _ es keys values =>
      refine ⟨es, rfl, fun k v hv ↦ ?_⟩
      obtain ⟨⟨_, w⟩, hw, rfl⟩ := List.mem_map.mp (keys k (List.mem_map.mpr ⟨_, hv, rfl⟩))
      exact ⟨w, (find?_eq_some_iff ha.nodup_keys).mpr hw, values _ v w hv hw⟩
    | scalar hscalar => exact hscalar.elim
  · rintro ⟨es, rfl, h⟩
    refine .mapping (fun k hk ↦ ?_) (fun k v w hv hw ↦ ?_)
    · obtain ⟨⟨_, v⟩, hv, rfl⟩ := List.mem_map.mp hk
      obtain ⟨w, hw, _⟩ := h _ v hv
      exact List.mem_map.mpr ⟨_, mem_of_find? hw, rfl⟩
    · obtain ⟨u, hu, hvu⟩ := h k v hv
      -- a key has one value only
      rw [(find?_eq_some_iff ha.nodup_keys).mpr hw] at hu
      obtain rfl := Option.some.inj hu
      exact hvu

/-- There is no mismatch exactly if the expectation is included. -/
theorem mismatch_eq_none_iff (he : e.SortedKeys) (ha : a.SortedKeys) :
    mismatch e a = none ↔ e.IncludedIn a := by
  induction e using scalar_induction generalizing a with
  | scalar e hscalar =>
    rw [mismatch_scalar_eq_none_iff hscalar, includedIn_scalar_iff hscalar, same_iff_equal he ha]
    exact ⟨fun h ↦ ⟨h.kind_eq, h⟩, And.right⟩
  | array items _ =>
    rw [mismatch_array_eq_none_iff, includedIn_array_iff]
    refine exists_congr fun as ↦ and_congr_right fun has ↦ forall₂_congr fun v hv ↦
      exists_congr fun w ↦ and_congr_right fun hw ↦ ?_
    subst has
    exact same_iff_equal (sortedKeys_array_iff.mp he v hv) (sortedKeys_array_iff.mp ha w hw)
  | object entries ih =>
    rw [mismatch_object_eq_none_iff, includedIn_object_iff ha]
    refine exists_congr fun es ↦ and_congr_right fun hes ↦ forall₃_congr fun k v hv ↦
      exists_congr fun w ↦ and_congr_right fun hw ↦ ?_
    subst hes
    exact ih k v hv ((sortedKeys_object_iff.mp he).2 k v hv)
      ((sortedKeys_object_iff.mp ha).2 k w (mem_of_find? hw))

/-- The search for a mismatch decides structural inclusion: on documents whose mappings have their
keys in order, it finds none exactly if the expectation is included. -/
theorem included_iff_includedIn (he : e.SortedKeys) (ha : a.SortedKeys) :
    (mismatch e a = none ↔ e.IncludedIn a) ∧ (included e a = true ↔ e.IncludedIn a) := by
  rw [included_iff]
  exact ⟨mismatch_eq_none_iff he ha, mismatch_eq_none_iff he ha⟩

/-- Keys are found wherever they stand, and the two zeros are one number, but an item of a list is
compared as a whole. -/
theorem includedIn_list_items :
    let v := object [("list", .array [.object [("n", .number (.double (.zero true)))]])]
    let w := object [("extra", .null), ("list", .array [.bool true,
      .object [("n", .number (.double (.zero false)))]])]
    let less := object [("list", .array [.object []])]
    v.SortedKeys ∧ w.SortedKeys ∧ less.SortedKeys ∧ v.IncludedIn w ∧ ¬ less.IncludedIn w := by
  intro v w less
  have hv : v.SortedKeys := by decide
  have hw : w.SortedKeys := by decide
  have hless : less.SortedKeys := by decide
  have hincluded : included v w = true := by decide
  have hnot : ¬ included less w = true := by decide
  exact ⟨hv, hw, hless, (included_iff_includedIn hv hw).2.mp hincluded,
    fun h ↦ hnot ((included_iff_includedIn hless hw).2.mpr h)⟩

end Relation

end ClusterProbe.Json
