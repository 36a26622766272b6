import ClusterProbe.Lookup
import ClusterProbe.Proofs.Json.Entries
import ClusterProbe.Proofs.Text.Cutting

/-!
# Following a path into a document

A document is a tree: a step leads from a mapping to the value of a key, or from a list to the item
at an index, and an address is a list of steps. A segment of a dotted path names a step, and one
that is a decimal numeral may name two. Main statement: a dotted path leads to a value if its
segments, cut at every dot, name the steps of an address of that value, and only then.
-/

namespace ClusterProbe.Json

/-- A step into a document. -/
inductive Step where
  | key (k : String)
  | index (i : Nat)
deriving DecidableEq

/-- A step as it is written in a dotted path: the key itself, or the index in decimal. -/
def Step.text : Step → List Char
  | .key k => k.toList
  | .index i => (toString i).toList

/-- The dotted path that is written for an address. -/
def dotted (steps : List Step) : List Char := Text.join ['.'] (steps.map Step.text)

/-- The value that one step leads to. Of several entries of one key the first one counts. -/
inductive Child : Json → Step → Json → Prop
  | key {before after : List (String × Json)} {k : String} {v : Json}
      (fresh : k ∉ before.map Prod.fst) : Child (.object (before ++ (k, v) :: after)) (.key k) v
  | index {items : List Json} {i : Nat} {v : Json} (item : items[i]? = some v) :
      Child (.array items) (.index i) v

/-- The value at an address in a document. -/
inductive At : Json → List Step → Json → Prop
  | here (v : Json) : At v [] v
  | step {v u w : Json} {s : Step} {steps : List Step} (child : Child v s u)
      (rest : At u steps w) : At v (s :: steps) w

/-- A decimal numeral: one or more digits, which may begin with zeros, and perhaps a plus sign in
front. -/
inductive Numeral : List Char → Nat → Prop
  | plain {ds : List Char} (ne_nil : ds ≠ []) (digits : ∀ d ∈ ds, d.isDigit = true) :
      Numeral ds (Nat.ofDigitChars 10 ds 0)
  | plus {ds : List Char} (ne_nil : ds ≠ []) (digits : ∀ d ∈ ds, d.isDigit = true) :
      Numeral ('+' :: ds) (Nat.ofDigitChars 10 ds 0)

/-- The steps that a segment of a dotted path names. -/
inductive Names : List Char → Step → Prop
  | key (k : String) : Names k.toList (.key k)
  | index {segment : List Char} {i : Nat} (numeral : Numeral segment i) :
      Names segment (.index i)

variable {v w : Json} {segment : List Char} {segments : List (List Char)} {s : Step}
  {steps : List Step}

/-! ### One step -/

/-- What is found under a key is the value of the first entry of that key. -/
theorem find?_eq_some_iff_append {entries : List (String × Json)} {k : String} :
    find? k entries = some v ↔
      ∃ before after, entries = before ++ (k, v) :: after ∧ k ∉ before.map Prod.fst := by
  induction entries with
  | nil => simp [find?]
  | cons e rest ih =>
    obtain ⟨l, u⟩ := e
    rw [find?]
    constructor
    · split
      next hl =>
        rintro ⟨⟩
        exact ⟨[], rest, by rw [hl]; rfl, List.not_mem_nil⟩
      next hl =>
        intro h
        obtain ⟨before, after, rfl, hfresh⟩ := ih.mp h
        exact ⟨(l, u) :: before, after, rfl, by simp [Ne.symm hl, hfresh]⟩
    · rintro ⟨before, after, heq, hfresh⟩
      cases before with
      | nil =>
        obtain ⟨hentry, -⟩ := List.cons.inj heq
        obtain ⟨rfl, rfl⟩ := Prod.mk.inj hentry
        exact if_pos rfl
      | cons e before =>
        obtain ⟨rfl, rfl⟩ := List.cons.inj heq
        rw [List.map_cons, List.mem_cons, not_or] at hfresh
        rw [if_neg (Ne.symm hfresh.1)]
        exact ih.mpr ⟨before, after, rfl, hfresh.2⟩

/-- The number that a text of digits denotes. -/
private theorem digits_eq_some_iff {ds : List Char} {i : Nat} :
    (if ds.isEmpty || !ds.all Char.isDigit then none
      else some (ds.foldl (fun n d ↦ n * 10 + (d.toNat - 48)) 0)) = some i ↔
      ds ≠ [] ∧ (∀ d ∈ ds, d.isDigit = true) ∧ Nat.ofDigitChars 10 ds 0 = i := by
  have hvalue : ds.foldl (fun n d ↦ n * 10 + (d.toNat - 48)) 0 = Nat.ofDigitChars 10 ds 0 := by
    rw [Nat.ofDigitChars_eq_foldl]
    congr 1
    funext n d
    rw [Nat.mul_comm]
    rfl
  rw [hvalue]
  cases ds with
  | nil => simp
  | cons d r =>
    by_cases hdigits : (d :: r).all Char.isDigit = true
    · have hall := List.all_eq_true.mp hdigits
      rw [hdigits, if_neg (by simp), Option.some.injEq]
      exact ⟨fun h ↦ ⟨List.cons_ne_nil d r, hall, h⟩, fun h ↦ h.2.2⟩
    · rw [Bool.eq_false_iff.mpr hdigits, if_pos (by simp)]
      exact iff_of_false (by simp) fun h ↦ hdigits (List.all_eq_true.mpr h.2.1)

/-- An index is read from a decimal numeral. -/
theorem decimalIndex?_eq_some_iff {i : Nat} :
    decimalIndex? segment = some i ↔ Numeral segment i := by
  by_cases hplus : ∃ r, segment = '+' :: r
  · obtain ⟨r, rfl⟩ := hplus
    refine (@digits_eq_some_iff r i).trans ⟨?_, fun h ↦ ?_⟩
    · rintro ⟨hne, hdigits, rfl⟩
      exact .plus hne hdigits
    · cases h with
      | plain _ digits => cases digits '+' List.mem_cons_self
      | plus ne_nil digits => exact ⟨ne_nil, digits, rfl⟩
  · have hread : decimalIndex? segment =
        if segment.isEmpty || !segment.all Char.isDigit then none
        else some (segment.foldl (fun n d ↦ n * 10 + (d.toNat - 48)) 0) := by
      unfold decimalIndex?
      split
      next r => exact absurd ⟨r, rfl⟩ hplus
      next => rfl
    rw [hread, digits_eq_some_iff]
    constructor
    · rintro ⟨hne, hdigits, rfl⟩
      exact .plain hne hdigits
    · intro h
      cases h with
      | plain ne_nil digits => exact ⟨ne_nil, digits, rfl⟩
      | plus _ _ => exact absurd ⟨_, rfl⟩ hplus

/-- The numeral of an index. -/
theorem numeral_toString (i : Nat) : Numeral (toString i).toList i := by
  have hvalue : Nat.ofDigitChars 10 (Nat.toDigits 10 i) 0 = i := Nat.ofDigitChars_ten_toDigits
  have hnumeral : Numeral (Nat.toDigits 10 i) (Nat.ofDigitChars 10 (Nat.toDigits 10 i) 0) :=
    .plain Nat.toDigits_ne_nil fun d hd ↦
      Nat.isDigit_of_mem_toDigits (by decide) (by decide) hd
  rw [hvalue] at hnumeral
  rwa [Nat.toString_eq_ofList_toDigits, String.toList_ofList]

/-- A step is named by what is written for it. -/
theorem names_text (s : Step) : Names s.text s := by
  cases s with
  | key k => exact .key k
  | index i => exact .index (numeral_toString i)

/-- A segment leads where a step leads that it names. -/
theorem child?_eq_some_iff : v.child? segment = some w ↔ ∃ s, Names segment s ∧ Child v s w := by
  constructor
  · intro h
    cases v with
    | object entries =>
      obtain ⟨before, after, rfl, hfresh⟩ := find?_eq_some_iff_append.mp h
      refine ⟨.key (String.ofList segment), ?_, .key hfresh⟩
      have hnames := Names.key (String.ofList segment)
      rwa [String.toList_ofList] at hnames
    | array items =>
      obtain ⟨i, hindex, hitem⟩ := Option.bind_eq_some_iff.mp h
      exact ⟨.index i, .index (decimalIndex?_eq_some_iff.mp hindex), .index hitem⟩
    | _ => cases h
  · rintro ⟨s, hnames, hchild⟩
    cases hchild with
    | @key before after k _ fresh =>
      cases hnames
      rw [child?, String.ofList_toList]
      exact find?_eq_some_iff_append.mpr ⟨before, after, rfl, fresh⟩
    | @index items i _ item =>
      cases hnames with
      | index numeral =>
        rw [child?, decimalIndex?_eq_some_iff.mpr numeral]
        exact item

/-! ### Addresses -/

/-- Segments lead where an address leads whose steps they name. -/
theorem follow?_eq_some_iff :
    v.follow? segments = some w ↔ ∃ steps, List.Forall₂ Names segments steps ∧ At v steps w := by
  induction segments generalizing v with
  | nil =>
    constructor
    · rintro ⟨⟩
      exact ⟨[], .nil, .here _⟩
    · rintro ⟨steps, hnames, hat⟩
      cases hnames
      cases hat
      rfl
  | cons segment rest ih =>
    rw [follow?_cons]
    constructor
    · intro h
      obtain ⟨u, hchild, hrest⟩ := Option.bind_eq_some_iff.mp h
      obtain ⟨s, hname, hstep⟩ := child?_eq_some_iff.mp hchild
      obtain ⟨steps, hnames, hat⟩ := ih.mp hrest
      exact ⟨s :: steps, .cons hname hnames, .step hstep hat⟩
    · rintro ⟨steps, hnames, hat⟩
      cases hnames with
      | cons hname hnames =>
        cases hat with
        | step child rest =>
          exact Option.bind_eq_some_iff.mpr
            ⟨_, child?_eq_some_iff.mpr ⟨_, hname, child⟩, ih.mpr ⟨_, hnames, rest⟩⟩

/-- A dotted path leads where an address leads whose steps its segments name, cut at every dot. -/
theorem lookup?_eq_some_iff {path : List Char} :
    v.lookup? path = some w ↔
      ∃ segments steps, segments ≠ [] ∧ (∀ s ∈ segments, '.' ∉ s) ∧
        path = Text.join ['.'] segments ∧ List.Forall₂ Names segments steps ∧ At v steps w := by
  rw [lookup?, follow?_eq_some_iff]
  constructor
  · rintro ⟨steps, hnames, hat⟩
    obtain ⟨hne, hdots, hjoin⟩ := Text.pieces_eq_iff.mp (rfl : Text.pieces '.' path = _)
    exact ⟨_, steps, hne, hdots, hjoin.symm, hnames, hat⟩
  · rintro ⟨segments, steps, hne, hdots, hpath, hnames, hat⟩
    rw [Text.pieces_eq_iff.mpr ⟨hne, hdots, hpath.symm⟩]
    exact ⟨steps, hnames, hat⟩

/-- The digits of an index hold no dot. -/
theorem dot_notMem_toString (i : Nat) : '.' ∉ (toString i).toList := by
  rw [Nat.toString_eq_ofList_toDigits, String.toList_ofList]
  intro h
  cases Nat.isDigit_of_mem_toDigits (by decide) (by decide) h

/-- The dotted path of an address leads to the value at the address, if no key holds a dot. -/
theorem lookup?_dotted (hne : steps ≠ []) (hdots : ∀ k, .key k ∈ steps → '.' ∉ k.toList)
    (h : At v steps w) : v.lookup? (dotted steps) = some w := by
  refine lookup?_eq_some_iff.mpr ⟨steps.map Step.text, steps, by simpa using hne, ?_, rfl, ?_, h⟩
  · intro text htext
    obtain ⟨s, hs, rfl⟩ := List.mem_map.mp htext
    cases s with
    | key k => exact hdots k hs
    | index i => exact dot_notMem_toString i
  · exact List.forall₂_map_left_iff.mpr (List.forall₂_same.mpr fun s _ ↦ names_text s)

/-- A path of two parts with a dot between them is followed part by part. -/
theorem lookup?_append (v : Json) (p q : List Char) :
    v.lookup? (p ++ '.' :: q) = (v.lookup? p).bind (·.lookup? q) := by
  rw [lookup?, Text.pieces_append_sep, follow?_append]
  rfl

end ClusterProbe.Json
