import ClusterProbe.Lookup
import ClusterProbe.Proofs.Suite.WellFormed
import ClusterProbe.Values

/-!
# Nesting

How deep lists and mappings may be nested in a document. Main statement: in the values of a text
the mappings have their keys in order and collections are nested less deep than the limit, and the
same holds of whatever a dotted path leads to in them.
-/

namespace ClusterProbe

namespace Json

/-- Collections are nested at most so many levels deep. -/
inductive Within : Nat → Json → Prop where
  | scalar {depth : Nat} {v : Json} : v.IsScalar → Within depth v
  | array {depth : Nat} {items : List Json} :
    (∀ v ∈ items, Within depth v) → Within (depth + 1) (.array items)
  | object {depth : Nat} {entries : List (String × Json)} :
    (∀ e ∈ entries, Within depth e.2) → Within (depth + 1) (.object entries)

section Within

variable {depth : Nat} {v w : Json} {items : List Json} {entries : List (String × Json)}

theorem within_array_iff :
    Within (depth + 1) (.array items) ↔ ∀ v ∈ items, Within depth v := by
  refine ⟨fun h ↦ ?_, .array⟩
  cases h with
  | scalar h => cases h
  | array h => exact h

theorem within_object_iff :
    Within (depth + 1) (.object entries) ↔ ∀ e ∈ entries, Within depth e.2 := by
  refine ⟨fun h ↦ ?_, .object⟩
  cases h with
  | scalar h => cases h
  | object h => exact h

theorem Within.succ (h : Within depth v) : Within (depth + 1) v := by
  induction h with
  | scalar h => exact .scalar h
  | array _ ih => exact .array ih
  | object _ ih => exact .object ih

/-- What a collection passes on to its items and values holds of whatever segments lead to. -/
theorem follow?_induction {p : Json → Prop} (harray : ∀ items, p (.array items) → ∀ v ∈ items, p v)
    (hobject : ∀ entries, p (.object entries) → ∀ e ∈ entries, p e.2) (hv : p v)
    {segments : List (List Char)} (h : v.follow? segments = some w) : p w := by
  induction segments generalizing v with
  | nil =>
    obtain rfl := Option.some.inj h
    exact hv
  | cons s rest ih =>
    rw [follow?_cons] at h
    obtain ⟨u, hchild, hrest⟩ := Option.bind_eq_some_iff.mp h
    refine ih ?_ hrest
    cases v with
    | array items =>
      obtain ⟨i, -, hi⟩ := Option.bind_eq_some_iff.mp hchild
      exact harray items hv u (List.mem_of_getElem? hi)
    | object entries => exact hobject entries hv _ (mem_of_find? hchild)
    | _ => cases hchild

theorem Within.follow? (hv : Within depth v) {segments : List (List Char)}
    (h : v.follow? segments = some w) : Within depth w := by
  refine follow?_induction (fun items hitems v hmem ↦ ?_) (fun entries hentries e hmem ↦ ?_) hv h
  · cases depth with
    | zero =>
      cases hitems with
      | scalar h => cases h
    | succ depth => exact (within_array_iff.mp hitems v hmem).succ
  · cases depth with
    | zero =>
      cases hentries with
      | scalar h => cases h
    | succ depth => exact (within_object_iff.mp hentries e hmem).succ

theorem SortedKeys.follow? (hv : v.SortedKeys) {segments : List (List Char)}
    (h : v.follow? segments = some w) : w.SortedKeys :=
  follow?_induction (fun _ hitems ↦ sortedKeys_array_iff.mp hitems)
    (fun _ hentries e ↦ (sortedKeys_object_iff.mp hentries).2 e.1 e.2) hv h

end Within

end Json

namespace Yaml.Document

theorem inherited_within : Inherited Json.Within where
  scalar _ _ := .scalar
  array _ _ := .array
  empty _ := .object (by simp)
  insert depth key v entries hv hentries := by
    refine .object fun e hmem ↦ ?_
    rcases Json.mem_insert hmem with heq | hmem
    · obtain ⟨-, hvalue⟩ := Prod.mk.inj heq
      rwa [hvalue]
    · exact Json.within_object_iff.mp hentries e hmem

end Yaml.Document

namespace Values

/-- Keys are in order, and collections are not nested too deep. -/
structure WellFormed (v : Values) : Prop where
  sorted : v.toJson.SortedKeys
  within : v.toJson.Within Yaml.nestingLimit

theorem yields_ofJson? {v : Json} (hsorted : v.SortedKeys) (hwithin : v.Within Yaml.nestingLimit) :
    Yields (ofJson? v) WellFormed := by
  cases v with
  | null => exact .ok ⟨Json.sortedKeys_empty, .object (by simp)⟩
  | object entries => exact .ok ⟨hsorted, hwithin⟩
  | _ => exact .error _

theorem yields_ofDocument (d : Yaml.Document) : Yields (ofDocument d) WellFormed := by
  unfold ofDocument
  split
  next v hread =>
    have hsorted : Yields (d.read d.value) Json.SortedKeys :=
      .map (d.yields_value _ _ _ 0)
    have hwithin : Yields (d.read d.value) (Json.Within Yaml.nestingLimit) :=
      .map (d.yields_value_inherited Yaml.Document.inherited_within _ _ _ 0)
    exact yields_ofJson? (hsorted v hread) (hwithin v hread)
  · exact .error _

/-- The values of a text are well-formed. -/
theorem wellFormed_of_parse {text : String} {v : Values} (h : parse text = .ok v) :
    v.WellFormed := by
  have hparse : Yields (parse text) WellFormed := by
    unfold parse
    split
    · exact .ok ⟨Json.sortedKeys_empty, .object (by simp)⟩
    · split
      · exact .error _
      · exact .mapError _ (yields_ofDocument _)
  exact hparse v h

/-- What a dotted path leads to in well-formed values is in order and nested less deep than they
are. -/
theorem WellFormed.lookup? {v : Values} {path : List Char} {w : Json} (hv : v.WellFormed)
    (h : v.toJson.lookup? path = some w) :
    w.SortedKeys ∧ w.Within (Yaml.nestingLimit - 1) := by
  refine ⟨hv.sorted.follow? h, ?_⟩
  obtain ⟨first, rest, hpieces⟩ := List.exists_cons_of_ne_nil (Text.pieces_ne_nil '.' path)
  rw [Json.lookup?, hpieces, Json.follow?_cons] at h
  obtain ⟨u, hchild, hrest⟩ := Option.bind_eq_some_iff.mp h
  have hentries : ∀ e ∈ v.entries, e.2.Within (Yaml.nestingLimit - 1) :=
    Json.within_object_iff.mp hv.within
  exact (hentries _ (Json.mem_of_find? hchild)).follow? hrest

end Values

end ClusterProbe
