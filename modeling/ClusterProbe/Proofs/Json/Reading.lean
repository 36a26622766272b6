import ClusterProbe.Json.Reader
import ClusterProbe.Proofs.Json.Entries

/-!
# Documents that are read

What holds of every result of a reader that may fail, and the one thing that matters of documents:
the mappings of a document that was read have their keys in order, however the text orders them and
however often it repeats them.
-/

namespace ClusterProbe

/-- Whatever comes out, if anything does, satisfies `p`. -/
def Yields {ε α : Type} (x : Except ε α) (p : α → Prop) : Prop := ∀ a, x = .ok a → p a

namespace Yields

variable {ε α β : Type} {p q : α → Prop}

theorem ok {a : α} (h : p a) : Yields (.ok a : Except ε α) p := by
  intro b hb
  exact Except.ok.inj hb ▸ h

theorem error (f : ε) : Yields (.error f : Except ε α) p := by
  intro a h
  cases h

theorem mono {x : Except ε α} (h : Yields x q) (hpq : ∀ a, q a → p a) : Yields x p :=
  fun a ha ↦ hpq a (h a ha)

theorem trivial (x : Except ε α) : Yields x fun _ ↦ True := fun _ _ ↦ True.intro

theorem bind {x : Except ε α} {f : α → Except ε β} {p : β → Prop} (hx : Yields x q)
    (hf : ∀ a, q a → Yields (f a) p) : Yields (x >>= f) p := by
  intro b hb
  cases hxa : x with
  | error e =>
    rw [hxa] at hb
    cases hb
  | ok a =>
    rw [hxa] at hb
    exact hf a (hx a hxa) b hb

theorem map {x : Except ε α} {f : α → β} {p : β → Prop} (h : Yields x fun a ↦ p (f a)) :
    Yields (x.map f) p := by
  cases x with
  | error e => exact .error e
  | ok a => exact .ok (h a rfl)

theorem mapError {φ : Type} {x : Except ε α} (f : ε → φ) (h : Yields x p) :
    Yields (x.mapError f) p := by
  cases x with
  | error e => exact .error (f e)
  | ok a => exact .ok (h a rfl)

end Yields

namespace Json

/-- The rest of a word yields the value that the word stands for. -/
theorem yields_word (v : Json) (ws cs : List Char) : Yields (word v ws cs) fun r ↦ r.1 = v := by
  induction ws generalizing cs with
  | nil => exact .ok rfl
  | cons w ws ih =>
    cases cs with
    | nil => exact .error _
    | cons c rest =>
      rw [word]
      split
      · exact ih rest
      · exact .error _

/-- A document and the text behind it, all mappings of the document having their keys in order. -/
def InOrder (r : Json × List Char) : Prop := r.1.SortedKeys

/-- With `fuel` steps, every reader of a part of a document keeps keys in order. -/
structure KeepsOrder (fuel : Nat) : Prop where
  value : ∀ depth cs, Yields (value fuel depth cs) InOrder
  items : ∀ depth first acc cs, (array acc).SortedKeys →
    Yields (items fuel depth first acc cs) InOrder
  item : ∀ depth acc cs, (array acc).SortedKeys → Yields (item fuel depth acc cs) InOrder
  entries : ∀ depth first acc cs, (object acc).SortedKeys →
    Yields (entries fuel depth first acc cs) InOrder
  entry : ∀ depth acc cs, (object acc).SortedKeys → Yields (entry fuel depth acc cs) InOrder

section Step

variable {fuel : Nat}

theorem KeepsOrder.value_succ (h : KeepsOrder fuel) (depth : Nat) (cs : List Char) :
    Yields (Json.value (fuel + 1) depth cs) InOrder := by
  have hword (v : Json) (ws rest : List Char) (hv : v.SortedKeys) :
      Yields (word v ws rest) InOrder :=
    (yields_word v ws rest).mono fun r hr ↦ by rw [InOrder, hr]; exact hv
  rw [Json.value]
  split
  · exact .error _
  · exact hword _ _ _ trivial
  · exact hword _ _ _ trivial
  · exact hword _ _ _ trivial
  · exact .bind (.trivial _) fun _ _ ↦ .ok trivial
  · exact .bind (.trivial _) fun _ _ ↦ .ok trivial
  · split
    · exact .error _
    · exact .error _
    · exact h.items _ _ _ _ (sortedKeys_array_iff.mpr (by simp))
  · split
    · exact .error _
    · exact .error _
    · exact h.entries _ _ _ _ (sortedKeys_object_iff.mpr ⟨.nil, by simp⟩)
  · split
    · exact .bind (.trivial _) fun _ _ ↦ .ok trivial
    · exact .error _

theorem KeepsOrder.items_succ (h : KeepsOrder fuel) (depth : Nat) (first : Bool)
    {acc : List Json} (cs : List Char) (hacc : (array acc).SortedKeys) :
    Yields (Json.items (fuel + 1) depth first acc cs) InOrder := by
  rw [Json.items]
  split
  · exact .error _
  · refine .ok (sortedKeys_array_iff.mpr fun v hv ↦ ?_)
    exact sortedKeys_array_iff.mp hacc v (List.mem_reverse.mp hv)
  · split
    · exact h.item _ _ _ hacc
    · split
      · split
        · exact .error _
        · exact .error _
        · exact h.item _ _ _ hacc
      · exact .error _

theorem KeepsOrder.item_succ (h : KeepsOrder fuel) (depth : Nat) {acc : List Json}
    (cs : List Char) (hacc : (array acc).SortedKeys) :
    Yields (Json.item (fuel + 1) depth acc cs) InOrder := by
  rw [Json.item]
  refine .bind (h.value _ _) fun r hr ↦ h.items _ _ _ _ ?_
  exact sortedKeys_array_iff.mpr (List.forall_mem_cons.mpr ⟨hr, sortedKeys_array_iff.mp hacc⟩)

theorem KeepsOrder.entries_succ (h : KeepsOrder fuel) (depth : Nat) (first : Bool)
    {acc : List (String × Json)} (cs : List Char) (hacc : (object acc).SortedKeys) :
    Yields (Json.entries (fuel + 1) depth first acc cs) InOrder := by
  rw [Json.entries]
  split
  · exact .error _
  · exact .ok hacc
  · split
    · split
      · exact h.entry _ _ _ hacc
      · exact .error _
    · split
      · split
        · exact .error _
        · exact h.entry _ _ _ hacc
        · exact .error _
        · exact .error _
      · exact .error _

theorem KeepsOrder.entry_succ (h : KeepsOrder fuel) (depth : Nat) {acc : List (String × Json)}
    (cs : List Char) (hacc : (object acc).SortedKeys) :
    Yields (Json.entry (fuel + 1) depth acc cs) InOrder := by
  rw [Json.entry]
  refine .bind (.trivial _) fun r _ ↦ ?_
  dsimp only
  split
  · exact .error _
  · exact .bind (h.value _ _) fun r hr ↦ h.entries _ _ _ _ (hacc.insert hr)
  · exact .error _

end Step

/-- Every reader of a part of a document keeps keys in order. -/
theorem keepsOrder (fuel : Nat) : KeepsOrder fuel := by
  induction fuel with
  | zero =>
    constructor
    · intro depth cs
      rw [value]
      exact .error _
    · intro depth first acc cs _
      rw [items]
      exact .error _
    · intro depth acc cs _
      rw [item]
      exact .error _
    · intro depth first acc cs _
      rw [entries]
      exact .error _
    · intro depth acc cs _
      rw [entry]
      exact .error _
  | succ fuel ih =>
    exact ⟨ih.value_succ, fun depth first _ ↦ ih.items_succ depth first,
      fun depth _ ↦ ih.item_succ depth, fun depth first _ ↦ ih.entries_succ depth first,
      fun depth _ ↦ ih.entry_succ depth⟩

/-- A document that a text holds has its keys in order. -/
theorem sortedKeys_of_parse {text : String} {v : Json} (h : parse text = .ok v) : v.SortedKeys := by
  have hchars : Yields (ofChars text.toList) SortedKeys := by
    rw [ofChars]
    refine .bind ((keepsOrder _).value _ _) fun r hr ↦ ?_
    dsimp only
    split
    · exact .ok hr
    · exact .error _
  rw [parse] at h
  split at h
  next w hw =>
    obtain rfl := Except.ok.inj h
    exact hchars w hw
  · cases h

end Json

end ClusterProbe
