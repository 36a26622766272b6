import ClusterProbe.Json.Basic
import Mathlib.Data.List.Induction
import Mathlib.Data.List.Nodup
import Mathlib.Data.String.Basic

/-!
# Documents by their entries

Induction over documents, and mappings as their entries: what is found under a key, that everything
that builds a mapping keeps its keys in order, and what a list of entries with repeated keys comes
to. Main statement: in the mapping of a list of entries, each key has the value of its last entry.
-/

namespace ClusterProbe.Json

/-- Induction over a document: what holds of a list if it holds of its items, of a mapping if it
holds of its values, and of everything else, holds of every document. -/
@[elab_as_elim]
theorem induction {motive : Json → Prop} (null : motive .null) (bool : ∀ b, motive (.bool b))
    (number : ∀ n, motive (.number n)) (string : ∀ s, motive (.string s))
    (array : ∀ items, (∀ v ∈ items, motive v) → motive (.array items))
    (object : ∀ entries, (∀ k v, (k, v) ∈ entries → motive v) → motive (.object entries))
    (v : Json) : motive v := by
  refine @Json.rec motive (fun items ↦ ∀ v ∈ items, motive v)
    (fun entries ↦ ∀ k v, (k, v) ∈ entries → motive v) (fun entry ↦ motive entry.2)
    null bool number string array object ?noItem ?item ?noEntry ?entry (fun _ _ ih ↦ ih) v
  case noItem => simp
  case item => exact fun head tail hhead htail ↦ List.forall_mem_cons.mpr ⟨hhead, htail⟩
  case noEntry => simp
  case entry =>
    intro head tail hhead htail k v hmem
    rcases List.mem_cons.mp hmem with rfl | hmem
    · exact hhead
    · exact htail k v hmem

/-- A document that is neither a list nor a mapping. -/
def IsScalar : Json → Prop
  | .array _ => False
  | .object _ => False
  | _ => True

/-- Induction over a document where all scalars are alike. -/
@[elab_as_elim]
theorem scalar_induction {motive : Json → Prop} (scalar : ∀ v, v.IsScalar → motive v)
    (array : ∀ items, (∀ v ∈ items, motive v) → motive (.array items))
    (object : ∀ entries, (∀ k v, (k, v) ∈ entries → motive v) → motive (.object entries))
    (v : Json) : motive v := by
  induction v using induction with
  | array items ih => exact array items ih
  | object entries ih => exact object entries ih
  | _ => exact scalar _ trivial

section Find

variable {key k : String} {v value : Json} {entries : List (String × Json)}

/-- What is found under a key is the value of an entry. -/
theorem mem_of_find? (h : find? k entries = some v) : (k, v) ∈ entries := by
  induction entries with
  | nil => cases h
  | cons e rest ih =>
    obtain ⟨l, w⟩ := e
    rw [find?] at h
    split at h
    next hl =>
      obtain rfl := Option.some.inj h
      rw [hl]
      exact List.mem_cons_self
    · exact List.mem_cons_of_mem _ (ih h)

/-- Nothing is found under a key that no entry has. -/
theorem find?_eq_none_iff : find? k entries = none ↔ k ∉ entries.map Prod.fst := by
  induction entries with
  | nil => simp [find?]
  | cons e rest ih =>
    obtain ⟨l, w⟩ := e
    rw [find?, List.map_cons, List.mem_cons, not_or, ← ih]
    split
    next hl => simp [hl]
    next hl => simp [Ne.symm hl]

/-- Where no two entries have one key, every entry is found. -/
theorem find?_eq_some_iff (h : (entries.map Prod.fst).Nodup) :
    find? k entries = some v ↔ (k, v) ∈ entries := by
  refine ⟨mem_of_find?, fun hmem ↦ ?_⟩
  induction entries with
  | nil => cases hmem
  | cons e rest ih =>
    obtain ⟨l, w⟩ := e
    rw [List.map_cons, List.nodup_cons] at h
    rw [find?]
    rcases List.mem_cons.mp hmem with heq | hmem
    · obtain ⟨rfl, rfl⟩ := Prod.mk.inj heq
      exact if_pos rfl
    · have hne : l ≠ k := by
        rintro rfl
        exact h.1 (List.mem_map.mpr ⟨_, hmem, rfl⟩)
      rw [if_neg hne]
      exact ih h.2 hmem

/-- What is found behind an insertion. -/
theorem find?_insert :
    find? k (insert key value entries) = if key = k then some value else find? k entries := by
  split
  next h =>
    subst h
    exact find?_insert_self key value entries
  next h => exact find?_insert_of_ne (Ne.symm h) value entries

end Find

section Keys

variable {key k : String} {v value : Json} {entries : List (String × Json)}

/-- The keys behind an insertion. -/
theorem mem_keys_insert :
    k ∈ (insert key value entries).map Prod.fst ↔ k = key ∨ k ∈ entries.map Prod.fst := by
  rw [← not_iff_not, not_or, ← find?_eq_none_iff, ← find?_eq_none_iff, find?_insert]
  split
  next h => simp [h]
  next h => simp [Ne.symm h]

/-- An insertion keeps the keys in order. -/
theorem pairwise_keys_insert (h : (entries.map Prod.fst).Pairwise (· < ·)) :
    ((insert key value entries).map Prod.fst).Pairwise (· < ·) := by
  induction entries with
  | nil => simp [insert]
  | cons e rest ih =>
    obtain ⟨l, w⟩ := e
    have hcons := List.pairwise_cons.mp h
    rw [insert]
    split
    next hlt =>
      refine List.pairwise_cons.mpr ⟨fun m hm ↦ ?_, h⟩
      rcases List.mem_cons.mp hm with rfl | hm
      · exact hlt
      · exact hlt.trans (hcons.1 m hm)
    next hnlt =>
      split
      next heq =>
        rw [heq]
        exact h
      next hne =>
        have hlt : l < key := lt_of_le_of_ne (not_lt.mp hnlt) (Ne.symm hne)
        refine List.pairwise_cons.mpr ⟨fun m hm ↦ ?_, ih hcons.2⟩
        rcases mem_keys_insert.mp hm with rfl | hm
        · exact hlt
        · exact hcons.1 m hm

/-- The entries behind an insertion. -/
theorem mem_insert (h : (k, v) ∈ insert key value entries) :
    (k, v) = (key, value) ∨ (k, v) ∈ entries := by
  induction entries with
  | nil => exact .inl (List.mem_singleton.mp h)
  | cons e rest ih =>
    obtain ⟨l, w⟩ := e
    rw [insert] at h
    split at h
    · exact List.mem_cons.mp h
    · split at h
      · exact (List.mem_cons.mp h).imp_right (List.mem_cons_of_mem _)
      · rcases List.mem_cons.mp h with heq | hmem
        · exact .inr (heq ▸ List.mem_cons_self)
        · exact (ih hmem).imp_right (List.mem_cons_of_mem _)

section Order

variable {w : Json} {rest : List (String × Json)}

theorem insert_of_lt (h : key < k) :
    insert key value ((k, v) :: rest) = (key, value) :: (k, v) :: rest := if_pos h

theorem insert_of_eq : insert key value ((key, v) :: rest) = (key, value) :: rest := by
  rw [insert, if_neg (lt_irrefl key), if_pos rfl]

theorem insert_of_gt (h : k < key) :
    insert key value ((k, v) :: rest) = (k, v) :: insert key value rest := by
  rw [insert, if_neg h.asymm, if_neg h.ne']

/-- Insertions under different keys can change places: the lesser key first. -/
theorem insert_comm_of_lt (h : key < k) :
    insert key value (insert k v entries) = insert k v (insert key value entries) := by
  induction entries with
  | nil => rw [insert, insert, insert_of_lt h, insert_of_gt h, insert]
  | cons e rest ih =>
    obtain ⟨l, w⟩ := e
    rcases lt_trichotomy key l with hlt | rfl | hgt
    · rw [insert_of_lt hlt, insert_of_gt h]
      rcases lt_trichotomy k l with hkl | rfl | hkl
      · rw [insert_of_lt hkl, insert_of_lt h]
      · rw [insert_of_eq, insert_of_lt h]
      · rw [insert_of_gt hkl, insert_of_lt hlt]
    · rw [insert_of_gt h, insert_of_eq, insert_of_eq, insert_of_gt h]
    · rw [insert_of_gt (hgt.trans h), insert_of_gt hgt, insert_of_gt hgt, insert_of_gt (hgt.trans h),
        ih]

/-- Insertions under different keys can change places. -/
theorem insert_comm (h : key ≠ k) :
    insert key value (insert k v entries) = insert k v (insert key value entries) := by
  rcases lt_or_gt_of_ne h with hlt | hgt
  · exact insert_comm_of_lt hlt
  · exact (insert_comm_of_lt hgt).symm

end Order

/-- In a mapping in order, the first result of a search is the one with the least key. -/
theorem findSome?_eq_some_iff_least {β : Type} {f : String → Json → Option β} {b : β}
    (h : (entries.map Prod.fst).Pairwise (· < ·)) :
    (entries.findSome? fun e ↦ f e.1 e.2) = some b ↔
      ∃ k v, (k, v) ∈ entries ∧ f k v = some b ∧
        ∀ j w, (j, w) ∈ entries → j < k → f j w = none := by
  rw [List.findSome?_eq_some_iff]
  constructor
  · rintro ⟨before, ⟨k, v⟩, after, rfl, hb, hbefore⟩
    rw [List.map_append, List.map_cons, List.pairwise_append, List.pairwise_cons] at h
    refine ⟨k, v, List.mem_append_right _ List.mem_cons_self, hb, fun j w hmem hlt ↦ ?_⟩
    rcases List.mem_append.mp hmem with hmem | hmem
    · exact hbefore _ hmem
    · rcases List.mem_cons.mp hmem with heq | hmem
      · exact absurd hlt ((Prod.mk.inj heq).1 ▸ lt_irrefl j)
      · exact absurd hlt (h.2.1.1 j (List.mem_map.mpr ⟨_, hmem, rfl⟩)).asymm
  · rintro ⟨k, v, hmem, hb, hleast⟩
    obtain ⟨before, after, rfl⟩ := List.append_of_mem hmem
    rw [List.map_append, List.map_cons, List.pairwise_append] at h
    refine ⟨before, (k, v), after, rfl, hb, ?_⟩
    rintro ⟨j, w⟩ hj
    refine hleast j w (List.mem_append_left _ hj) ?_
    exact h.2.2 j (List.mem_map.mpr ⟨_, hj, rfl⟩) k List.mem_cons_self

end Keys

section OfEntries

variable (entries : List (String × Json))

/-- One more entry at the end of a list is one insertion more. -/
theorem ofEntries_concat (e : String × Json) :
    ofEntries (entries ++ [e]) = insert e.1 e.2 (ofEntries entries) := by
  rw [ofEntries, List.foldl_append]
  rfl

/-- The mapping of a list of entries has its keys in order. -/
theorem pairwise_keys_ofEntries : ((ofEntries entries).map Prod.fst).Pairwise (· < ·) := by
  induction entries using List.reverseRecOn with
  | nil => exact .nil
  | append_singleton rest e ih =>
    rw [ofEntries_concat]
    exact pairwise_keys_insert ih

/-- In the mapping of a list of entries, a key has the value of its last entry. -/
theorem find?_ofEntries (k : String) : find? k (ofEntries entries) = find? k entries.reverse := by
  induction entries using List.reverseRecOn with
  | nil => rfl
  | append_singleton rest e ih =>
    rw [ofEntries_concat, find?_insert, ih, List.reverse_concat, find?]

/-- In a mapping made of values that belong to their keys, that value is found under the key. -/
theorem find?_map_key {α : Type} {key : α → String} {f : String → Json} {items : List α}
    {k : String} (h : ∃ a ∈ items, key a = k) :
    find? k (items.map fun a ↦ (key a, f (key a))) = some (f k) := by
  induction items with
  | nil => simp at h
  | cons a rest ih =>
    rw [List.map_cons, find?]
    split
    next hk => rw [hk]
    next hk =>
      refine ih ?_
      obtain ⟨b, hb, hbk⟩ := h
      rcases List.mem_cons.mp hb with rfl | hb
      · exact absurd hbk hk
      · exact ⟨b, hb, hbk⟩

/-- Mappings in order are the same if the same is found in them under every key. -/
theorem eq_of_find?_eq {es fs : List (String × Json)} (he : (es.map Prod.fst).Pairwise (· < ·))
    (hf : (fs.map Prod.fst).Pairwise (· < ·)) (h : ∀ k, find? k es = find? k fs) : es = fs := by
  have hmem (e : String × Json) : e ∈ es ↔ e ∈ fs := by
    rw [← find?_eq_some_iff (he.imp ne_of_lt), ← find?_eq_some_iff (hf.imp ne_of_lt), h e.1]
  have hperm : es.Perm fs := (List.perm_ext_iff_of_nodup (List.Nodup.of_map _ (he.imp ne_of_lt))
    (List.Nodup.of_map _ (hf.imp ne_of_lt))).mpr hmem
  refine hperm.eq_of_pairwise (fun e f _ _ hef hfe ↦ ?_) (List.pairwise_map.mp he)
    (List.pairwise_map.mp hf)
  exact absurd hfe (lt_asymm hef)

/-- Entries in order are a mapping as they are. -/
theorem ofEntries_eq_self {es : List (String × Json)} (h : (es.map Prod.fst).Pairwise (· < ·)) :
    ofEntries es = es := by
  have hnodup : (es.map Prod.fst).Nodup := h.imp ne_of_lt
  have hreverse : (es.reverse.map Prod.fst).Nodup := (es.reverse_perm.map _).nodup_iff.mpr hnodup
  refine eq_of_find?_eq (pairwise_keys_ofEntries es) h fun k ↦ Option.ext fun v ↦ ?_
  rw [find?_ofEntries, find?_eq_some_iff hreverse, find?_eq_some_iff hnodup, List.mem_reverse]

/-- Entries with distinct keys make up one mapping, in whatever order they come. -/
theorem ofEntries_of_perm {es fs : List (String × Json)} (h : es.Perm fs)
    (hes : (es.map Prod.fst).Nodup) : ofEntries es = ofEntries fs := by
  have hes' : (es.reverse.map Prod.fst).Nodup := (es.reverse_perm.map _).nodup_iff.mpr hes
  have hfs' : (fs.reverse.map Prod.fst).Nodup :=
    ((fs.reverse_perm.trans h.symm).map _).nodup_iff.mpr hes
  refine eq_of_find?_eq (pairwise_keys_ofEntries es) (pairwise_keys_ofEntries fs) fun k ↦ ?_
  rw [find?_ofEntries, find?_ofEntries]
  refine Option.ext fun v ↦ ?_
  rw [find?_eq_some_iff hes', find?_eq_some_iff hfs', List.mem_reverse, List.mem_reverse, h.mem_iff]

end OfEntries

mutual

/-- Whether every mapping in the document has its keys in order. -/
def decideSortedKeys : (v : Json) → Decidable v.SortedKeys
  | .null => .isTrue trivial
  | .bool _ => .isTrue trivial
  | .number _ => .isTrue trivial
  | .string _ => .isTrue trivial
  | .array items => decideSortedItems items
  | .object entries =>
    have := decideSortedEntries entries
    inferInstanceAs (Decidable (_ ∧ SortedEntries entries))

/-- The same of every item of a list. -/
def decideSortedItems : (items : List Json) → Decidable (SortedItems items)
  | [] => .isTrue trivial
  | v :: rest =>
    have := decideSortedKeys v
    have := decideSortedItems rest
    inferInstanceAs (Decidable (v.SortedKeys ∧ SortedItems rest))

/-- The same of the value of every entry. -/
def decideSortedEntries : (entries : List (String × Json)) → Decidable (SortedEntries entries)
  | [] => .isTrue trivial
  | (_, v) :: rest =>
    have := decideSortedKeys v
    have := decideSortedEntries rest
    inferInstanceAs (Decidable (v.SortedKeys ∧ SortedEntries rest))

end

instance (v : Json) : Decidable v.SortedKeys := decideSortedKeys v

section SortedKeys

variable {items : List Json} {entries : List (String × Json)}

theorem sortedItems_iff : SortedItems items ↔ ∀ v ∈ items, v.SortedKeys := by
  induction items with
  | nil => simp [SortedItems]
  | cons v rest ih => rw [SortedItems, ih, List.forall_mem_cons]

theorem sortedEntries_iff : SortedEntries entries ↔ ∀ k v, (k, v) ∈ entries → v.SortedKeys := by
  induction entries with
  | nil => simp [SortedEntries]
  | cons e rest ih =>
    obtain ⟨l, w⟩ := e
    rw [SortedEntries, ih]
    simp only [List.mem_cons, Prod.mk.injEq]
    constructor
    · rintro ⟨hw, hrest⟩ k v (⟨rfl, rfl⟩ | hmem)
      · exact hw
      · exact hrest k v hmem
    · intro h
      exact ⟨h l w (.inl ⟨rfl, rfl⟩), fun k v hmem ↦ h k v (.inr hmem)⟩

/-- A list has all its mappings in order if its items have. -/
theorem sortedKeys_array_iff : (array items).SortedKeys ↔ ∀ v ∈ items, v.SortedKeys := by
  rw [SortedKeys, sortedItems_iff]

/-- A mapping has all its mappings in order if its values have and it is itself in order. -/
theorem sortedKeys_object_iff :
    (object entries).SortedKeys ↔
      (entries.map Prod.fst).Pairwise (· < ·) ∧ ∀ k v, (k, v) ∈ entries → v.SortedKeys := by
  rw [SortedKeys, sortedEntries_iff]

/-- Keys in order are distinct. -/
theorem SortedKeys.nodup_keys (h : (object entries).SortedKeys) : (entries.map Prod.fst).Nodup :=
  (sortedKeys_object_iff.mp h).1.imp ne_of_lt

/-- An insertion keeps a mapping in order. -/
theorem SortedKeys.insert {key : String} {value : Json} (h : (object entries).SortedKeys)
    (hvalue : value.SortedKeys) : (object (insert key value entries)).SortedKeys := by
  rw [sortedKeys_object_iff] at h ⊢
  refine ⟨pairwise_keys_insert h.1, fun k v hmem ↦ ?_⟩
  rcases mem_insert hmem with heq | hmem
  · obtain ⟨rfl, rfl⟩ := Prod.mk.inj heq
    exact hvalue
  · exact h.2 k v hmem

end SortedKeys

end ClusterProbe.Json
