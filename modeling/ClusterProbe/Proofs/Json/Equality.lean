import ClusterProbe.Proofs.Json.Entries
import ClusterProbe.Proofs.Number.Value
import Mathlib.Data.List.Forall2
import Mathlib.Data.List.Sort

/-!
# Deep equality of documents

Equality of documents as a relation that does not look at the order of entries: numbers are equal
within their kind, doubles if they stand for the same number, lists item by item and mappings key by
key. Main statement: on documents whose mappings have their keys in order, the comparison that walks
through both entry by entry decides this relation.
-/

namespace ClusterProbe

/-- Equality of numbers of one kind. -/
inductive Number.Equal : Number → Number → Prop
  | natural (n : UInt64) : Equal (.natural n) (.natural n)
  | belowZero (n : Fin (Nat.pow 2 63)) : Equal (.belowZero n) (.belowZero n)
  | double {x y : Binary64} (h : x.value = y.value) : Equal (.double x) (.double y)

/-- Numbers are found equal exactly if they are of one kind and equal. -/
theorem Number.same_iff {m n : Number} : m.same n = true ↔ m.Equal n := by
  constructor
  · intro h
    cases m <;> cases n <;> simp only [Number.same, decide_eq_true_eq, Bool.false_eq_true] at h
    case natural.natural =>
      subst h
      exact .natural _
    case belowZero.belowZero =>
      subst h
      exact .belowZero _
    case double.double x y => exact .double ((x.same_iff_value_eq y).mp h)
  · intro h
    cases h with
    | natural n => exact decide_eq_true rfl
    | belowZero n => exact decide_eq_true rfl
    | double h => exact (Binary64.same_iff_value_eq _ _).mpr h

theorem Number.same_refl (n : Number) : n.same n = true := by
  rw [Number.same_iff]
  cases n with
  | natural n => exact .natural n
  | belowZero n => exact .belowZero n
  | double x => exact .double rfl

theorem Number.same_trans {l m n : Number} (hlm : l.same m = true) (hmn : m.same n = true) :
    l.same n = true := by
  rw [Number.same_iff] at *
  cases hlm with
  | natural => exact hmn
  | belowZero => exact hmn
  | double h =>
    cases hmn with
    | double h' => exact .double (h.trans h')

namespace Json

/-- Deep equality of documents: lists item by item, mappings key by key. -/
inductive Equal : Json → Json → Prop
  | null : Equal .null .null
  | bool (b : Bool) : Equal (.bool b) (.bool b)
  | number {m n : Number} (h : m.Equal n) : Equal (.number m) (.number n)
  | string (s : String) : Equal (.string s) (.string s)
  | array {as bs : List Json} (h : List.Forall₂ Equal as bs) : Equal (.array as) (.array bs)
  | object {as bs : List (String × Json)}
      (keys : ∀ k, k ∈ as.map Prod.fst ↔ k ∈ bs.map Prod.fst)
      (values : ∀ k v w, (k, v) ∈ as → (k, w) ∈ bs → Equal v w) : Equal (.object as) (.object bs)

section Positions

variable {α β : Type} {R S : α → β → Prop}

/-- Relations that agree on the members of two lists agree on the lists. -/
theorem forall₂_congr_mem {as : List α} {bs : List β} (h : ∀ a ∈ as, ∀ b ∈ bs, R a b ↔ S a b) :
    List.Forall₂ R as bs ↔ List.Forall₂ S as bs := by
  induction as generalizing bs with
  | nil => rw [List.forall₂_nil_left_iff, List.forall₂_nil_left_iff]
  | cons a as ih =>
    cases bs with
    | nil => simp
    | cons b bs =>
      rw [List.forall₂_cons, List.forall₂_cons, h a List.mem_cons_self b List.mem_cons_self,
        ih fun a ha b hb ↦ h a (List.mem_cons_of_mem _ ha) b (List.mem_cons_of_mem _ hb)]

/-- Each member of the first of two lists stands opposite a member of the second. -/
theorem exists_mem_of_forall₂ {as : List α} {bs : List β} (h : List.Forall₂ R as bs) {a : α}
    (ha : a ∈ as) : ∃ b ∈ bs, R a b := by
  induction h with
  | nil => cases ha
  | @cons c d _ _ hcd _ ih =>
    rcases List.mem_cons.mp ha with rfl | ha
    · exact ⟨d, List.mem_cons_self, hcd⟩
    · obtain ⟨b, hb, hab⟩ := ih ha
      exact ⟨b, List.mem_cons_of_mem _ hb, hab⟩

/-- Relations that chain at the members of the first of three lists chain at the lists. -/
theorem forall₂_trans_mem {γ : Type} {T : β → γ → Prop} {U : α → γ → Prop} {as : List α}
    {bs : List β} {cs : List γ} (h : ∀ a ∈ as, ∀ b c, R a b → T b c → U a c)
    (hab : List.Forall₂ R as bs) (hbc : List.Forall₂ T bs cs) : List.Forall₂ U as cs := by
  induction hab generalizing cs with
  | nil =>
    rw [List.forall₂_nil_left_iff] at hbc
    rw [hbc]
    exact .nil
  | cons hR _ ih =>
    cases hbc with
    | cons hT hrest =>
      exact .cons (h _ List.mem_cons_self _ _ hR hT)
        (ih (fun a ha ↦ h a (List.mem_cons_of_mem _ ha)) hrest)

end Positions

section Same

variable {a b c : Json} {as bs : List Json} {es fs : List (String × Json)}

theorem sameItems_iff :
    sameItems as bs = true ↔ List.Forall₂ (fun a b ↦ a.same b = true) as bs := by
  induction as generalizing bs with
  | nil => cases bs <;> simp [sameItems]
  | cons a as ih =>
    cases bs with
    | nil => simp [sameItems]
    | cons b bs => rw [sameItems, Bool.and_eq_true, List.forall₂_cons, ih]

theorem sameEntries_iff :
    sameEntries es fs = true ↔
      List.Forall₂ (fun e f ↦ e.1 = f.1 ∧ e.2.same f.2 = true) es fs := by
  induction es generalizing fs with
  | nil => cases fs <;> simp [sameEntries]
  | cons e es ih =>
    cases fs with
    | nil => simp [sameEntries]
    | cons f fs =>
      rw [sameEntries, Bool.and_eq_true, Bool.and_eq_true, decide_eq_true_eq, List.forall₂_cons, ih]

/-- What is equal to a list is a list with equal items. -/
theorem same_array_iff :
    (array as).same b = true ↔
      ∃ bs, b = array bs ∧ List.Forall₂ (fun a b ↦ a.same b = true) as bs := by
  cases b with
  | array bs => simp only [same, sameItems_iff, Json.array.injEq, exists_eq_left']
  | _ => simp [same]

/-- What is equal to a mapping is a mapping with the same keys and equal values. -/
theorem same_object_iff :
    (object es).same b = true ↔
      ∃ fs, b = object fs ∧ List.Forall₂ (fun e f ↦ e.1 = f.1 ∧ e.2.same f.2 = true) es fs := by
  cases b with
  | object fs => simp only [same, sameEntries_iff, Json.object.injEq, exists_eq_left']
  | _ => simp [same]

/-- Every document is equal to itself. -/
theorem same_refl (v : Json) : v.same v = true := by
  induction v using induction with
  | null => rfl
  | bool b => exact decide_eq_true rfl
  | number n => exact n.same_refl
  | string s => exact decide_eq_true rfl
  | array items ih => exact same_array_iff.mpr ⟨items, rfl, List.forall₂_same.mpr ih⟩
  | object entries ih =>
    exact same_object_iff.mpr ⟨entries, rfl, List.forall₂_same.mpr fun e he ↦ ⟨rfl, ih e.1 e.2 he⟩⟩

/-- Documents that are equal to one document are equal to each other. -/
theorem same_trans (hab : a.same b = true) (hbc : b.same c = true) : a.same c = true := by
  induction a using induction generalizing b c with
  | null =>
    cases b with
    | null => exact hbc
    | _ => cases hab
  | bool x =>
    cases b with
    | bool y =>
      obtain rfl := of_decide_eq_true hab
      exact hbc
    | _ => cases hab
  | number m =>
    cases b with
    | number n =>
      cases c with
      | number l => exact Number.same_trans hab hbc
      | _ => cases hbc
    | _ => cases hab
  | string s =>
    cases b with
    | string t =>
      obtain rfl := of_decide_eq_true hab
      exact hbc
    | _ => cases hab
  | array as ih =>
    obtain ⟨bs, rfl, has⟩ := same_array_iff.mp hab
    obtain ⟨cs, rfl, hbs⟩ := same_array_iff.mp hbc
    refine same_array_iff.mpr ⟨cs, rfl, forall₂_trans_mem (fun v hv w u hvw hwu ↦ ?_) has hbs⟩
    exact ih v hv hvw hwu
  | object es ih =>
    obtain ⟨fs, rfl, hes⟩ := same_object_iff.mp hab
    obtain ⟨gs, rfl, hfs⟩ := same_object_iff.mp hbc
    refine same_object_iff.mpr ⟨gs, rfl, forall₂_trans_mem (fun e he f g hef hfg ↦ ?_) hes hfs⟩
    exact ⟨hef.1.trans hfg.1, ih e.1 e.2 he hef.2 hfg.2⟩

/-- Mappings with the same keys in the same places have equal values in the same places if they have
equal values under the same keys. -/
theorem forall₂_of_keys (hkeys : es.map Prod.fst = fs.map Prod.fst)
    (hvalues : ∀ k v w, (k, v) ∈ es → (k, w) ∈ fs → v.same w = true) :
    List.Forall₂ (fun e f ↦ e.1 = f.1 ∧ e.2.same f.2 = true) es fs := by
  induction es generalizing fs with
  | nil =>
    rw [List.map_nil, eq_comm, List.map_eq_nil_iff] at hkeys
    rw [hkeys]
    exact .nil
  | cons e es ih =>
    cases fs with
    | nil => cases hkeys
    | cons f fs =>
      obtain ⟨k, v⟩ := e
      obtain ⟨l, w⟩ := f
      obtain ⟨rfl, hrest⟩ : k = l ∧ es.map Prod.fst = fs.map Prod.fst := List.cons.inj hkeys
      refine .cons ⟨rfl, hvalues k v w List.mem_cons_self List.mem_cons_self⟩ (ih hrest ?_)
      exact fun k v w hv hw ↦ hvalues k v w (List.mem_cons_of_mem _ hv) (List.mem_cons_of_mem _ hw)

/-- Mappings in order are equal entry by entry exactly if they have the same keys and under each of
them equal values. -/
theorem same_object_iff_keys (he : (object es).SortedKeys) (hf : (object fs).SortedKeys) :
    (object es).same (object fs) = true ↔
      (∀ k, k ∈ es.map Prod.fst ↔ k ∈ fs.map Prod.fst) ∧
        ∀ k v w, (k, v) ∈ es → (k, w) ∈ fs → v.same w = true := by
  rw [same, sameEntries_iff]
  constructor
  · intro h
    have hkeys : es.map Prod.fst = fs.map Prod.fst :=
      List.forall₂_eq_eq_eq ▸ List.forall₂_map_left_iff.mpr
        (List.forall₂_map_right_iff.mpr (h.imp fun _ _ hef ↦ hef.1))
    refine ⟨fun k ↦ by rw [hkeys], fun k v w hv hw ↦ ?_⟩
    obtain ⟨⟨l, u⟩, hu, rfl, hvu⟩ := exists_mem_of_forall₂ h hv
    -- a key has one value only
    have hfind := (find?_eq_some_iff hf.nodup_keys).mpr hu
    rw [(find?_eq_some_iff hf.nodup_keys).mpr hw] at hfind
    obtain rfl := Option.some.inj hfind
    exact hvu
  · rintro ⟨hkeys, hvalues⟩
    refine forall₂_of_keys ?_ hvalues
    exact List.Pairwise.eq_of_mem_iff (sortedKeys_object_iff.mp he).1
      (sortedKeys_object_iff.mp hf).1 hkeys

/-- Documents with their keys in order are found equal exactly if they are equal. -/
theorem same_iff_equal (ha : a.SortedKeys) (hb : b.SortedKeys) : a.same b = true ↔ a.Equal b := by
  induction a using induction generalizing b with
  | null =>
    cases b with
    | null => exact iff_of_true rfl .null
    | _ => constructor <;> intro h <;> cases h
  | bool x =>
    cases b with
    | bool y =>
      rw [same, decide_eq_true_eq]
      exact ⟨fun h ↦ h ▸ .bool x, fun h ↦ by cases h; rfl⟩
    | _ => constructor <;> intro h <;> cases h
  | number m =>
    cases b with
    | number n =>
      rw [same, Number.same_iff]
      exact ⟨.number, fun h ↦ by cases h; assumption⟩
    | _ => constructor <;> intro h <;> cases h
  | string s =>
    cases b with
    | string t =>
      rw [same, decide_eq_true_eq]
      exact ⟨fun h ↦ h ▸ .string s, fun h ↦ by cases h; rfl⟩
    | _ => constructor <;> intro h <;> cases h
  | array as ih =>
    cases b with
    | array bs =>
      rw [sortedKeys_array_iff] at ha hb
      rw [same, sameItems_iff, forall₂_congr_mem fun v hv w hw ↦ ih v hv (ha v hv) (hb w hw)]
      exact ⟨.array, fun h ↦ by cases h; assumption⟩
    | _ => constructor <;> intro h <;> cases h
  | object es ih =>
    cases b with
    | object fs =>
      have hes := (sortedKeys_object_iff.mp ha).2
      have hfs := (sortedKeys_object_iff.mp hb).2
      rw [same_object_iff_keys ha hb]
      constructor
      · rintro ⟨hkeys, hvalues⟩
        exact .object hkeys fun k v w hv hw ↦
          (ih k v hv (hes k v hv) (hfs k w hw)).mp (hvalues k v w hv hw)
      · intro h
        cases h with
        | object hkeys hvalues =>
          exact ⟨hkeys, fun k v w hv hw ↦
            (ih k v hv (hes k v hv) (hfs k w hw)).mpr (hvalues k v w hv hw)⟩
    | _ => constructor <;> intro h <;> cases h

end Same

end Json

end ClusterProbe
