import ClusterProbe.Proofs.Json.Entries
import ClusterProbe.Proofs.Yaml.Words

/-!
# Documents that quotes carry

Compact notation escapes only control characters, quotes and backslashes. What else a document may
not hold, or takes for the end of a line, does not come back from between quotes; and a key is seen
as one only up to a length. Main statement: if all texts come back, then what is written for the
document holds only characters that a document may hold.
-/

namespace ClusterProbe.Yaml

/-- A printed key that is short enough to be one. -/
def ShortKey (k : String) : Prop := (Json.printString k).length ≤ 1024

/-- A text that comes back from between quotes, wherever it stands. Two more characters come back in
some places: the separators U+2028 and U+2029 end a line and so are left out here, but between the
quotes of a value (not of a key) they stand for themselves, if there is no space beside them and no
document marker behind them. -/
def CarriedText (s : String) : Prop := ∀ x ∈ s.toList, isCarried x = true

instance (s : String) : Decidable (CarriedText s) :=
  decidable_of_iff (s.toList.all isCarried = true) List.all_eq_true

mutual

/-- All texts come back from between quotes, and all keys are short enough to be keys. -/
def CarriedValue : Json → Prop
  | .string s => CarriedText s
  | .array items => CarriedItems items
  | .object entries => CarriedEntries entries
  | _ => True

/-- The same of every item of a list. -/
def CarriedItems : List Json → Prop
  | [] => True
  | v :: rest => CarriedValue v ∧ CarriedItems rest

/-- The same of every key and value. -/
def CarriedEntries : List (String × Json) → Prop
  | [] => True
  | (k, v) :: rest =>
    CarriedText k ∧ ShortKey k ∧ CarriedValue v ∧ CarriedEntries rest

end

theorem carriedItems_iff {items : List Json} :
    CarriedItems items ↔ ∀ v ∈ items, CarriedValue v := by
  induction items with
  | nil => simp [CarriedItems]
  | cons v rest ih => rw [CarriedItems, ih, List.forall_mem_cons]

theorem carriedEntries_iff {entries : List (String × Json)} :
    CarriedEntries entries ↔
      ∀ e ∈ entries, CarriedText e.1 ∧ ShortKey e.1 ∧ CarriedValue e.2 := by
  induction entries with
  | nil => simp [CarriedEntries]
  | cons e rest ih => rw [CarriedEntries, ih, List.forall_mem_cons, and_assoc, and_assoc]

/-- A text is no longer than what is written for it. -/
theorem length_le_length_printString (t : String) :
    t.toList.length ≤ (Json.printString t).length := by
  have hchar (x : Char) : 1 ≤ (Json.printChar x).length := by
    rcases printChar_cases x with ⟨y, r, hprint, -, -⟩ | ⟨hprint, -, -, -⟩ <;> simp [hprint]
  have hchars (cs : List Char) : cs.length ≤ (cs.flatMap Json.printChar).length := by
    induction cs with
    | nil => exact Nat.le_refl 0
    | cons x rest ih =>
      have := hchar x
      rw [List.flatMap_cons, List.length_append, List.length_cons]
      omega
  have := hchars t.toList
  rw [Json.printString, List.cons_append, List.length_cons, List.length_append]
  omega

section Permitted

variable {x : Char}

theorem isPermitted_of_isAlphanum (hx : x.isAlphanum = true) : isPermitted x = true := by
  have hn := toNat_of_isAlphanum hx
  simp only [isPermitted, Bool.or_eq_true, Bool.and_eq_true, decide_eq_true_eq, beq_iff_eq]
  omega

/-- What is written for a carried character may stand in a document. -/
theorem isPermitted_of_mem_printChar (hx : isCarried x = true) :
    ∀ y ∈ Json.printChar x, isPermitted y = true := by
  rcases printChar_cases x with ⟨y, r, hprint, -, hpermitted, -⟩ | ⟨hprint, -, -, hge⟩
  · rw [hprint]
    exact List.forall_mem_cons.mpr ⟨by decide, hpermitted⟩
  · rw [hprint]
    have hcontrol : decide (x.toNat < 0x20) = false := by simpa using hge
    rw [isCarried, hcontrol, Bool.false_or, Bool.and_eq_true] at hx
    exact List.forall_mem_singleton.mpr hx.1

theorem isPermitted_of_mem_printString {t : String} (ht : CarriedText t) :
    ∀ y ∈ Json.printString t, isPermitted y = true := by
  rw [Json.printString, List.forall_mem_append, List.forall_mem_cons]
  refine ⟨⟨rfl, fun y hy ↦ ?_⟩, List.forall_mem_singleton.mpr rfl⟩
  obtain ⟨x, hx, hmem⟩ := List.mem_flatMap.mp hy
  exact isPermitted_of_mem_printChar (ht x hx) y hmem

theorem isPermitted_of_mem_word {word : List Char} (hword : IsWord word) :
    ∀ y ∈ word, isPermitted y = true := by
  intro y hy
  rcases hword.chars y hy with hy | hy
  · exact isPermitted_of_isAlphanum hy
  · simp only [List.mem_cons, List.not_mem_nil, or_false] at hy
    rcases hy with rfl | rfl | rfl <;> decide

/-- What holds of the characters of all items and of the comma holds of what is written for a
list. -/
theorem forall_mem_printItems {p : Char → Prop} {items : List Json} (hcomma : p ',')
    (h : ∀ v ∈ items, ∀ y ∈ Json.print v, p y) : ∀ y ∈ Json.printItems items, p y := by
  induction items with
  | nil => simp [Json.printItems]
  | cons v rest ih =>
    obtain ⟨hv, hrest⟩ := List.forall_mem_cons.mp h
    cases rest with
    | nil => exact hv
    | cons w others =>
      rw [Json.printItems, List.forall_mem_append, List.forall_mem_cons]
      exact ⟨hv, hcomma, ih hrest⟩

/-- What holds of the characters of all keys and values and of comma and colon holds of what is
written for a mapping. -/
theorem forall_mem_printEntries {p : Char → Prop} {entries : List (String × Json)}
    (hcomma : p ',') (hcolon : p ':')
    (h : ∀ e ∈ entries, (∀ y ∈ Json.printString e.1, p y) ∧ ∀ y ∈ Json.print e.2, p y) :
    ∀ y ∈ Json.printEntries entries, p y := by
  induction entries with
  | nil => simp [Json.printEntries]
  | cons e rest ih =>
    obtain ⟨⟨hk, hv⟩, hrest⟩ := List.forall_mem_cons.mp h
    cases rest with
    | nil =>
      rw [Json.printEntries, List.forall_mem_append, List.forall_mem_cons]
      exact ⟨hk, hcolon, hv⟩
    | cons e others =>
      rw [Json.printEntries, List.forall_mem_append, List.forall_mem_cons, List.forall_mem_append,
        List.forall_mem_cons]
      exact ⟨hk, hcolon, hv, hcomma, ih hrest⟩

/-- What is written for a document whose texts are carried may stand in a document. -/
theorem isPermitted_of_mem_print (v : Json) (hv : CarriedValue v) :
    ∀ y ∈ Json.print v, isPermitted y = true := by
  induction v using Json.induction with
  | null => exact List.all_eq_true.mp rfl
  | bool b => cases b <;> exact List.all_eq_true.mp rfl
  | number n => exact isPermitted_of_mem_word (isWord_printNumber n)
  | string s => exact isPermitted_of_mem_printString hv
  | array items ih =>
    have hitems := forall_mem_printItems (by decide) fun v hmem ↦
      ih v hmem (carriedItems_iff.mp hv v hmem)
    rw [Json.print, List.forall_mem_append, List.forall_mem_cons]
    exact ⟨⟨rfl, hitems⟩, List.forall_mem_singleton.mpr rfl⟩
  | object entries ih =>
    have hparts : ∀ e ∈ entries, (∀ y ∈ Json.printString e.1, isPermitted y = true) ∧
        ∀ y ∈ Json.print e.2, isPermitted y = true := fun e hmem ↦
      have he := carriedEntries_iff.mp hv e hmem
      ⟨isPermitted_of_mem_printString he.1, ih e.1 e.2 hmem he.2.2⟩
    have hentries := forall_mem_printEntries (by decide) (by decide) hparts
    rw [Json.print, List.forall_mem_append, List.forall_mem_cons]
    exact ⟨⟨rfl, hentries⟩, List.forall_mem_singleton.mpr rfl⟩

end Permitted

end ClusterProbe.Yaml
