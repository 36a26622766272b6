import ClusterProbe.Proofs.Json.Nesting
import ClusterProbe.Proofs.Yaml.Scalars

/-!
# What nodes stand for

A node spells a document if every reader that goes deep enough reads it as that document, whatever
else the document tree holds. Main statements: one for each kind of node, from its parts to the
whole.
-/

namespace ClusterProbe.Yaml

variable {n : Node} {v : Json} {k : String}

/-- Read at any depth that suffices, a node has this value. -/
def Node.Spells (n : Node) (v : Json) : Prop :=
  ∀ (d : Document) (depth : Nat) (place : Place), v.Within depth → d.value depth place n = pure v

/-- A scalar with this text, however it is written. -/
def Node.SpellsKey (n : Node) (k : String) : Prop := ∃ m style, n = .scalar m none style k

theorem Document.text_of_spellsKey (d : Document) (wanted : String) (place : Place)
    (h : n.SpellsKey k) : d.text wanted place n = pure k := by
  obtain ⟨m, style, rfl⟩ := h
  rfl

/-- A text in double quotes spells itself. -/
theorem spells_text (m : Mark) (s : String) :
    (Node.scalar m none .doubleQuoted s).Spells (.string s) := by
  intro d depth place _
  rw [Document.value]
  rfl

/-- A printed scalar spells itself. -/
theorem spells_word (m : Mark) (hv : v.IsScalar) (hstring : ∀ s, v ≠ .string s) :
    (Node.scalar m none .plain v.text).Spells v := by
  intro d depth place _
  have hresolve : Document.scalarValue (resolve v.text) = pure v := by
    cases v with
    | null => rfl
    | bool b => cases b <;> rfl
    | number n => exact scalarValue_printNumber n
    | string s => exact absurd rfl (hstring s)
    | array items => cases hv
    | object entries => cases hv
  rw [Document.value]
  simp only [Document.follow, pure_bind, Option.map_none, Option.getD_none, Bool.false_eq_true,
    if_false, scalarOf, if_true, hresolve]
  rfl

/-- Items that spell documents are read one after the other. -/
theorem eachItem_of_spells (d : Document) (place : Place) {depth : Nat} {nodes : List Node}
    {items : List Json} (h : List.Forall₂ Node.Spells nodes items)
    (hwithin : ∀ v ∈ items, v.Within depth) (i : Nat) :
    Document.eachItem (d.value depth) place i nodes = pure items := by
  induction h generalizing i with
  | nil => rfl
  | cons hn _ ih =>
    obtain ⟨hv, hrest⟩ := List.forall_mem_cons.mp hwithin
    rw [Document.eachItem, hn d depth _ hv, pure_bind, ih hrest, pure_bind]

/-- A sequence spells the list that its items spell. -/
theorem spells_sequence {nodes : List Node} {items : List Json} (m : Mark)
    (h : List.Forall₂ Node.Spells nodes items) :
    (Node.sequence m none nodes).Spells (.array items) := by
  intro d depth place hwithin
  rw [Document.value]
  cases depth with
  | zero =>
    cases hwithin with
    | scalar hv => cases hv
  | succ depth =>
    have hitems := eachItem_of_spells d place h (Json.within_array_iff.mp hwithin) 0
    simp only [Document.follow, pure_bind, Option.map_none, Option.getD_none, Bool.false_eq_true,
      if_false, hitems]
    rfl

/-- A key and its value. -/
def SpellsEntry (n : Node × Node) (e : String × Json) : Prop :=
  n.1.SpellsKey e.1 ∧ n.2.Spells e.2

/-- Entries are read one after the other, each of them inserted. -/
theorem eachEntry_of_spells (d : Document) (wanted : String) (place : Place) {depth : Nat}
    {nodes : List (Node × Node)} {entries : List (String × Json)}
    (h : List.Forall₂ SpellsEntry nodes entries) (hwithin : ∀ e ∈ entries, e.2.Within depth)
    (acc : List (String × Json)) :
    d.eachEntry wanted
        (fun acc key place n ↦ do return Json.insert key (← d.value depth place n) acc)
        place acc nodes =
      pure (entries.foldl (fun acc e ↦ Json.insert e.1 e.2 acc) acc) := by
  induction h generalizing acc with
  | nil => rfl
  | @cons n e ns es hn _ ih =>
    obtain ⟨hv, hrest⟩ := List.forall_mem_cons.mp hwithin
    obtain ⟨k, n⟩ := n
    rw [Document.eachEntry, d.text_of_spellsKey wanted place hn.1, pure_bind,
      hn.2 d depth _ hv, pure_bind, pure_bind, ih hrest]
    rfl

/-- A mapping spells the mapping that its entries spell, if their keys are in order. -/
theorem spells_mapping {nodes : List (Node × Node)} {entries : List (String × Json)} (m : Mark)
    (h : List.Forall₂ SpellsEntry nodes entries)
    (hsorted : (entries.map Prod.fst).Pairwise (· < ·)) :
    (Node.mapping m none nodes).Spells (.object entries) := by
  intro d depth place hwithin
  rw [Document.value]
  cases depth with
  | zero =>
    cases hwithin with
    | scalar hv => cases hv
  | succ depth =>
    have hentries := Json.within_object_iff.mp hwithin
    simp only [Document.follow, pure_bind, Option.map_none, Option.getD_none, Bool.false_eq_true,
      if_false]
    cases h with
    | nil => rfl
    | @cons n e ns es hn hrest =>
      obtain ⟨hv, hes⟩ := List.forall_mem_cons.mp hentries
      have hall := eachEntry_of_spells d "a string" place hrest hes (Json.insert e.1 e.2 [])
      have hself := Json.ofEntries_eq_self hsorted
      rw [Json.ofEntries, List.foldl_cons] at hself
      rw [hself] at hall
      obtain ⟨k, n⟩ := n
      dsimp only
      rw [d.text_of_spellsKey _ place hn.1, pure_bind, hn.2 d depth _ hv, pure_bind, pure_bind,
        hall]
      rfl

/-- A document whose root spells a value is read as the value. -/
theorem Document.read_of_spells {d : Document} (h : d.root.Spells v)
    (hwithin : v.Within nestingLimit) : d.read d.value = .ok v := by
  rw [Document.read, h d nestingLimit [] hwithin]
  rfl

end ClusterProbe.Yaml
