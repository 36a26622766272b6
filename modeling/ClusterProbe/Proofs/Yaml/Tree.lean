import ClusterProbe.Proofs.Yaml.Nodes
import ClusterProbe.Proofs.Yaml.Tokens
import ClusterProbe.Yaml.Grammar

/-!
# The tree of a line in compact notation

The grammar never looks behind the tokens of the construct it reads, so what it makes of a document
in compact notation depends on the lexemes of that document alone. Main statement: a text whose
lexemes are those of one entry with a value in compact notation is a document, and its root spells
the mapping of the one entry.
-/

namespace ClusterProbe.Yaml

open Parse

theorem bind_eq {α β : Type} {p : Parse α} {f : α → Parse β} {s s' : Progress} {a : α}
    (h : p s = some (a, s')) : (p >>= f) s = f a s' := by
  change (p s).bind (fun result ↦ f result.1 result.2) = _
  rw [h]
  rfl

theorem peek_eq {s : Progress} {t : Token} {rest : List Token} (hs : s.tokens = t :: rest) :
    peek s = some (t, s) := by
  rw [peek, hs]

/-- In front of tokens with these lexemes the reading succeeds, passes over all of them and over
nothing else, and what it gives satisfies `q`. -/
def Consumes {α : Type} (p : Parse α) (ls : List Lexeme) (q : α → Prop) : Prop :=
  ∀ (s : Progress) (front back : List Token), front.map Token.lexeme = ls →
    s.tokens = front ++ back → ∃ a, p s = some (a, { s with tokens := back }) ∧ q a

namespace Consumes

variable {α β : Type} {p : Parse α} {q : α → Prop} {r : β → Prop} {f : α → Parse β}
  {ls ms : List Lexeme} {x : Lexeme}

theorem pure {a : α} (h : q a) : Consumes (Pure.pure a) [] q := by
  intro s front back hfront hs
  obtain rfl := List.map_eq_nil_iff.mp hfront
  refine ⟨a, ?_, h⟩
  rw [List.nil_append] at hs
  rw [← hs]
  rfl

theorem mono {q' : α → Prop} (h : Consumes p ls q) (hq : ∀ a, q a → q' a) : Consumes p ls q' := by
  intro s front back hfront hs
  obtain ⟨a, ha, hqa⟩ := h s front back hfront hs
  exact ⟨a, ha, hq a hqa⟩

theorem bind (h : Consumes p ls q) (hf : ∀ a, q a → Consumes (f a) ms r) :
    Consumes (p >>= f) (ls ++ ms) r := by
  intro s front back hfront hs
  obtain ⟨first, second, rfl, hfirst, hsecond⟩ := List.map_eq_append_iff.mp hfront
  rw [List.append_assoc] at hs
  obtain ⟨a, ha, hqa⟩ := h s first (second ++ back) hfirst hs
  obtain ⟨b, hb, hrb⟩ := hf a hqa { s with tokens := second ++ back } second back hsecond rfl
  exact ⟨b, (bind_eq ha).trans hb, hrb⟩

theorem map {g : α → β} (h : Consumes p ls q) (hg : ∀ a, q a → r (g a)) :
    Consumes (p >>= fun a ↦ Pure.pure (g a)) ls r := by
  rw [← List.append_nil ls]
  exact h.bind fun a ha ↦ .pure (hg a ha)

/-- Looking at the next token passes over nothing. -/
theorem peek {f : Token → Parse β}
    (hf : ∀ t : Token, t.lexeme = x → Consumes (f t) (x :: ls) r) :
    Consumes (Parse.peek >>= f) (x :: ls) r := by
  intro s front back hfront hs
  obtain ⟨t, rest, rfl, ht, -⟩ := List.map_eq_cons_iff.mp hfront
  obtain ⟨b, hb, hrb⟩ := hf t ht s (t :: rest) back hfront hs
  exact ⟨b, (bind_eq (peek_eq hs)).trans hb, hrb⟩

/-- Where looking at the next token decides what is read, that is what is read. -/
theorem of_peek {f : Token → Parse α} (h : Consumes (Parse.peek >>= f) (x :: ls) q)
    (hf : ∀ t : Token, t.lexeme = x → f t = p) : Consumes p (x :: ls) q := by
  intro s front back hfront hs
  obtain ⟨a, ha, hqa⟩ := h s front back hfront hs
  obtain ⟨t, rest, rfl, ht, -⟩ := List.map_eq_cons_iff.mp hfront
  refine ⟨a, ?_, hqa⟩
  rw [← ha, ← hf t ht, bind_eq (peek_eq hs)]

theorem advance (h : Consumes p ls q) : Consumes (Parse.advance >>= fun _ ↦ p) (x :: ls) q := by
  intro s front back hfront hs
  obtain ⟨t, rest, rfl, -, hrest⟩ := List.map_eq_cons_iff.mp hfront
  obtain ⟨a, ha, hqa⟩ := h { s with tokens := rest ++ back } rest back hrest rfl
  refine ⟨a, ?_, hqa⟩
  have hadvance : Parse.advance s = some ((), { s with tokens := rest ++ back }) := by
    rw [Parse.advance, hs]
    rfl
  rw [← ha, bind_eq hadvance]

end Consumes

/-- The lexemes that nodes in compact notation start with. -/
def startsNode : Lexeme → Bool
  | .scalar .. | .flowSequenceStart | .flowMappingStart => true
  | _ => false

/-- Anchors and tags. -/
def isProperty : Lexeme → Bool
  | .anchor _ | .tag .. => true
  | _ => false

section Grammar

variable {x : Lexeme} {ls : List Lexeme} {fuel : Nat} {block indentless : Bool}

/-- A node that starts with neither an anchor nor a tag has none. -/
theorem properties_eq {s : Progress} {t : Token} {rest : List Token} (hs : s.tokens = t :: rest)
    (ht : isProperty t.lexeme = false) : properties s = some ((none, none), s) := by
  have hanchor : anchorNext s = some (none, s) := by
    rw [anchorNext, bind_eq (peek_eq hs)]
    cases hx : t.lexeme with
    | anchor name =>
      rw [hx] at ht
      cases ht
    | _ => rfl
  have htag : tagNext s = some (none, s) := by
    rw [tagNext, bind_eq (peek_eq hs)]
    cases hx : t.lexeme with
    | tag handle suffix =>
      rw [hx] at ht
      cases ht
    | _ => rfl
  rw [properties, bind_eq hanchor]
  dsimp only
  rw [bind_eq htag]
  rfl

theorem Consumes.properties {α : Type} {f : Option String × Option String → Parse α} {q : α → Prop}
    (hx : isProperty x = false) (h : Consumes (f (none, none)) (x :: ls) q) :
    Consumes (properties >>= f) (x :: ls) q := by
  intro s front back hfront hs
  obtain ⟨t, rest, rfl, ht, -⟩ := List.map_eq_cons_iff.mp hfront
  obtain ⟨a, ha, hqa⟩ := h s (t :: rest) back hfront hs
  refine ⟨a, ?_, hqa⟩
  rw [← ha, bind_eq (properties_eq hs (by rw [ht]; exact hx))]

/-- A scalar is a node. -/
theorem node_scalar (style : Style) (text : String) :
    Consumes (node (fuel + 1) block indentless) [.scalar style text]
      fun n ↦ ∃ m, n = .scalar m none style text := by
  rw [node]
  refine .peek fun t ht ↦ ?_
  simp only [ht]
  refine .properties rfl (.peek fun t ht ↦ ?_)
  simp only [ht, anchored]
  exact .advance (.pure ⟨_, rfl⟩)

/-- An opening square bracket and items up to the closing one are a node. -/
theorem node_sequence {q : List Node → Prop} (h : Consumes (flowItems fuel true []) ls q) :
    Consumes (node (fuel + 1) block indentless) (.flowSequenceStart :: ls)
      fun n ↦ ∃ m ns, n = .sequence m none ns ∧ q ns := by
  rw [node]
  refine .peek fun t ht ↦ ?_
  simp only [ht]
  refine .properties rfl (.peek fun t ht ↦ ?_)
  simp only [ht, anchored]
  exact .advance (h.map fun ns hns ↦ ⟨_, ns, rfl, hns⟩)

/-- An opening brace and entries up to the closing one are a node. -/
theorem node_mapping {q : List (Node × Node) → Prop}
    (h : Consumes (flowEntries fuel true []) ls q) :
    Consumes (node (fuel + 1) block indentless) (.flowMappingStart :: ls)
      fun n ↦ ∃ m ns, n = .mapping m none ns ∧ q ns := by
  rw [node]
  refine .peek fun t ht ↦ ?_
  simp only [ht]
  refine .properties rfl (.peek fun t ht ↦ ?_)
  simp only [ht, anchored]
  exact .advance (h.map fun ns hns ↦ ⟨_, ns, rfl, hns⟩)

/-- The start of a block and entries up to its end are a node. -/
theorem node_block {q : List (Node × Node) → Prop} (h : Consumes (blockEntries fuel []) ls q) :
    Consumes (node (fuel + 1) true indentless) (.blockMappingStart :: ls)
      fun n ↦ ∃ m ns, n = .mapping m none ns ∧ q ns := by
  rw [node]
  refine .peek fun t ht ↦ ?_
  simp only [ht]
  refine .properties rfl (.peek fun t ht ↦ ?_)
  simp only [ht, anchored, if_true]
  exact .advance (h.map fun ns hns ↦ ⟨_, ns, rfl, hns⟩)

section Items

variable {acc : List Node} {more : List Lexeme} {q : Node → Prop} {r : List Node → Prop}

/-- A closing square bracket ends the items. -/
theorem flowItems_end {first : Bool} :
    Consumes (flowItems (fuel + 1) first acc) [.flowSequenceEnd] fun ns ↦ ns = acc.reverse := by
  rw [flowItems]
  refine .peek fun t ht ↦ ?_
  simp only [ht, if_true]
  exact .advance (.pure rfl)

/-- An item, and the items behind it. -/
theorem flowItems_item (hx : startsNode x = true)
    (hn : Consumes (node fuel false false) (x :: ls) q)
    (hmore : ∀ n, q n → Consumes (flowItems fuel false (n :: acc)) more r) :
    Consumes (flowItems (fuel + 1) true acc) (x :: ls ++ more) r := by
  have hend : ¬ x = .flowSequenceEnd := by
    rintro rfl
    cases hx
  rw [flowItems]
  refine .peek fun t ht ↦ ?_
  simp only [ht, hend, if_false, Bool.not_true, Bool.false_eq_true]
  refine .peek fun t ht ↦ ?_
  rw [ht]
  cases x with
  | scalar style text => exact hn.bind hmore
  | flowSequenceStart => exact hn.bind hmore
  | flowMappingStart => exact hn.bind hmore
  | _ => cases hx

/-- Behind a comma items are read as at the start. -/
theorem flowItems_comma (hx : startsNode x = true)
    (h : Consumes (flowItems (fuel + 1) true acc) (x :: ls) r) :
    Consumes (flowItems (fuel + 1) false acc) (.flowEntry :: x :: ls) r := by
  have hend : ¬ x = .flowSequenceEnd := by
    rintro rfl
    cases hx
  rw [flowItems] at h ⊢
  refine .peek fun t ht ↦ ?_
  simp only [ht, reduceCtorEq, if_false, Bool.not_false, if_true]
  refine .advance (h.of_peek fun t ht ↦ ?_)
  simp only [ht, hend, if_false, Bool.not_true, Bool.false_eq_true]

end Items

section Entries

variable {acc : List (Node × Node)} {more : List Lexeme} {q : Node → Prop}
  {r : List (Node × Node) → Prop}

/-- A closing brace ends the entries. -/
theorem flowEntries_end {first : Bool} :
    Consumes (flowEntries (fuel + 1) first acc) [.flowMappingEnd] fun ns ↦ ns = acc.reverse := by
  rw [flowEntries]
  refine .peek fun t ht ↦ ?_
  simp only [ht, if_true]
  exact .advance (.pure rfl)

/-- An entry, and the entries behind it. -/
theorem flowEntries_entry {k : String} (hx : startsNode x = true)
    (hn : Consumes (node (fuel + 1) false false) (x :: ls) q)
    (hmore : ∀ key n, key.SpellsKey k → q n →
      Consumes (flowEntries (fuel + 1) false ((key, n) :: acc)) more r) :
    Consumes (flowEntries (fuel + 2) true acc)
      (.key :: .scalar .doubleQuoted k :: .value :: (x :: ls ++ more)) r := by
  have hvalue : endsFlowValue x = false := by
    cases x with
    | flowEntry => cases hx
    | flowMappingEnd => cases hx
    | _ => rfl
  have hscalar : endsFlowValue (.scalar .doubleQuoted k) = false := rfl
  have hkey : Consumes (node (fuel + 1) false false) _ _ := node_scalar .doubleQuoted k
  rw [flowEntries]
  refine .peek fun t ht ↦ ?_
  simp only [ht, reduceCtorEq, if_false, Bool.not_true, Bool.false_eq_true]
  refine .peek fun t ht ↦ ?_
  rw [ht]
  refine .advance (.peek fun t ht ↦ ?_)
  simp only [ht, reduceCtorEq, decide_false, hscalar, Bool.or_self, Bool.false_eq_true, if_false]
  refine hkey.bind fun key hkey ↦ .peek fun t ht ↦ ?_
  simp only [ht, if_true]
  refine .advance (.peek fun t ht ↦ ?_)
  simp only [ht, hvalue, Bool.false_eq_true, if_false]
  obtain ⟨m, rfl⟩ := hkey
  exact hn.bind fun n hn ↦ hmore _ n ⟨m, _, rfl⟩ hn

/-- Behind a comma entries are read as at the start. -/
theorem flowEntries_comma (h : Consumes (flowEntries (fuel + 1) true acc) (.key :: ls) r) :
    Consumes (flowEntries (fuel + 1) false acc) (.flowEntry :: .key :: ls) r := by
  rw [flowEntries] at h ⊢
  refine .peek fun t ht ↦ ?_
  simp only [ht, reduceCtorEq, if_false, Bool.not_false, if_true]
  refine .advance (h.of_peek fun t ht ↦ ?_)
  simp only [ht, reduceCtorEq, if_false, Bool.not_true, Bool.false_eq_true]

end Entries

end Grammar

section Values

variable {v : Json} {fuel : Nat} {items : List Json} {entries : List (String × Json)}

/-- With so much fuel, the lexemes of a document are read as a node that spells it. -/
def ParsesAs (v : Json) : Prop :=
  ∀ ⦃fuel : Nat⦄ ⦃block indentless : Bool⦄, (lexemesOf v).length ≤ fuel →
    Consumes (node fuel block indentless) (lexemesOf v) (·.Spells v)

theorem lexemesOf_eq_cons (v : Json) :
    ∃ x ls, lexemesOf v = x :: ls ∧ startsNode x = true := by
  cases v <;> exact ⟨_, _, rfl, rfl⟩

theorem itemLexemes_eq_cons (v : Json) (rest : List Json) :
    ∃ x ls, itemLexemes (v :: rest) = x :: ls ∧ startsNode x = true := by
  obtain ⟨x, ls, hls, hx⟩ := lexemesOf_eq_cons v
  cases rest with
  | nil => exact ⟨x, ls, hls, hx⟩
  | cons w others => exact ⟨x, _, by rw [itemLexemes, hls]; rfl, hx⟩

theorem entryLexemes_eq_cons (e : String × Json) (rest : List (String × Json)) :
    ∃ ls, entryLexemes (e :: rest) = .key :: ls := by
  cases rest <;> exact ⟨_, rfl⟩

/-- Items are read up to the closing bracket. -/
theorem flowItems_of_parses (hitems : ∀ v ∈ items, ParsesAs v) (fuel : Nat) (acc : List Node)
    (hfuel : (itemLexemes items).length < fuel) :
    Consumes (flowItems fuel true acc) (itemLexemes items ++ [.flowSequenceEnd])
      fun ns ↦ ∃ new, ns = acc.reverse ++ new ∧ List.Forall₂ Node.Spells new items := by
  induction items generalizing acc fuel with
  | nil =>
    obtain ⟨fuel, rfl⟩ : ∃ n, fuel = n + 1 := ⟨fuel - 1, by omega⟩
    refine flowItems_end.mono ?_
    rintro ns rfl
    exact ⟨[], (List.append_nil _).symm, .nil⟩
  | cons v rest ih =>
    obtain ⟨hv, hrest⟩ := List.forall_mem_cons.mp hitems
    obtain ⟨x, ls, hls, hx⟩ := lexemesOf_eq_cons v
    have hpos : 0 < (lexemesOf v).length := by
      rw [hls]
      exact Nat.succ_pos _
    obtain ⟨fuel, rfl⟩ : ∃ n, fuel = n + 1 := ⟨fuel - 1, by omega⟩
    cases rest with
    | nil =>
      rw [itemLexemes] at hfuel ⊢
      obtain ⟨fuel, rfl⟩ : ∃ n, fuel = n + 1 := ⟨fuel - 1, by omega⟩
      have hn : Consumes (node (fuel + 1) false false) (lexemesOf v) (·.Spells v) := hv (by omega)
      rw [hls] at hn ⊢
      refine flowItems_item hx hn fun n hn ↦ flowItems_end.mono ?_
      rintro ns rfl
      exact ⟨[n], by simp, .cons hn .nil⟩
    | cons w others =>
      rw [itemLexemes, List.length_append, List.length_cons] at hfuel
      obtain ⟨fuel, rfl⟩ : ∃ n, fuel = n + 1 := ⟨fuel - 1, by omega⟩
      have hn : Consumes (node (fuel + 1) false false) (lexemesOf v) (·.Spells v) := hv (by omega)
      rw [itemLexemes, List.append_assoc, List.cons_append]
      obtain ⟨y, ms, hms, hy⟩ := itemLexemes_eq_cons w others
      rw [hls] at hn ⊢
      refine flowItems_item hx hn fun n hn ↦ ?_
      have hmore := ih hrest (fuel + 1) (n :: acc) (by omega)
      rw [hms] at hmore ⊢
      refine (flowItems_comma hy hmore).mono ?_
      rintro ns ⟨new, rfl, hnew⟩
      exact ⟨n :: new, by simp, .cons hn hnew⟩

/-- Entries are read up to the closing brace. -/
theorem flowEntries_of_parses (hentries : ∀ e ∈ entries, ParsesAs e.2) (fuel : Nat)
    (acc : List (Node × Node)) (hfuel : (entryLexemes entries).length < fuel) :
    Consumes (flowEntries fuel true acc) (entryLexemes entries ++ [.flowMappingEnd])
      fun ns ↦ ∃ new, ns = acc.reverse ++ new ∧ List.Forall₂ SpellsEntry new entries := by
  induction entries generalizing acc fuel with
  | nil =>
    obtain ⟨fuel, rfl⟩ : ∃ n, fuel = n + 1 := ⟨fuel - 1, by omega⟩
    refine flowEntries_end.mono ?_
    rintro ns rfl
    exact ⟨[], (List.append_nil _).symm, .nil⟩
  | cons e rest ih =>
    obtain ⟨hv, hrest⟩ := List.forall_mem_cons.mp hentries
    obtain ⟨x, ls, hls, hx⟩ := lexemesOf_eq_cons e.2
    cases rest with
    | nil =>
      rw [entryLexemes, List.length_cons, List.length_cons, List.length_cons] at hfuel
      obtain ⟨fuel, rfl⟩ : ∃ n, fuel = n + 2 := ⟨fuel - 2, by omega⟩
      have hn : Consumes (node (fuel + 1) false false) (lexemesOf e.2) (·.Spells e.2) :=
        hv (by omega)
      rw [entryLexemes, hls]
      rw [hls] at hn
      refine flowEntries_entry hx hn fun key n hkey hn ↦ flowEntries_end.mono ?_
      rintro ns rfl
      exact ⟨[(key, n)], by simp, .cons ⟨hkey, hn⟩ .nil⟩
    | cons f others =>
      rw [entryLexemes, List.length_cons, List.length_cons, List.length_cons, List.length_append,
        List.length_cons] at hfuel
      obtain ⟨fuel, rfl⟩ : ∃ n, fuel = n + 2 := ⟨fuel - 2, by omega⟩
      have hn : Consumes (node (fuel + 1) false false) (lexemesOf e.2) (·.Spells e.2) :=
        hv (by omega)
      obtain ⟨ms, hms⟩ := entryLexemes_eq_cons f others
      rw [entryLexemes, hls]
      rw [hls] at hn
      change Consumes _ (.key :: .scalar .doubleQuoted e.1 :: .value ::
        (x :: ls ++ .flowEntry :: entryLexemes (f :: others) ++ [.flowMappingEnd])) _
      rw [List.append_assoc, List.cons_append]
      refine flowEntries_entry hx hn fun key n hkey hn ↦ ?_
      have hmore := ih hrest (fuel + 1) ((key, n) :: acc) (by omega)
      rw [hms] at hmore ⊢
      refine (flowEntries_comma hmore).mono ?_
      rintro ns ⟨new, rfl, hnew⟩
      exact ⟨(key, n) :: new, by simp, .cons ⟨hkey, hn⟩ hnew⟩

/-- The lexemes of a document whose keys are in order are read as a node that spells it. -/
theorem parsesAs_of_sortedKeys (v : Json) (hv : v.SortedKeys) : ParsesAs v := by
  induction v using Json.scalar_induction with
  | scalar v hscalar =>
    intro fuel block indentless hfuel
    obtain ⟨style, text, hlexemes, hspells⟩ : ∃ style text, lexemesOf v = [.scalar style text] ∧
        ∀ m, (Node.scalar m none style text).Spells v := by
      cases v with
      | string s => exact ⟨.doubleQuoted, s, rfl, fun m ↦ spells_text m s⟩
      | array items => cases hscalar
      | object entries => cases hscalar
      | _ => exact ⟨.plain, _, rfl, fun m ↦ spells_word m trivial (by simp)⟩
    rw [hlexemes] at hfuel ⊢
    obtain ⟨fuel, rfl⟩ : ∃ n, fuel = n + 1 := ⟨fuel - 1, by simp at hfuel; omega⟩
    refine (node_scalar style text).mono ?_
    rintro n ⟨m, rfl⟩
    exact hspells m
  | array items ih =>
    intro fuel block indentless hfuel
    have hitems (v : Json) (hmem : v ∈ items) : ParsesAs v :=
      ih v hmem (Json.sortedKeys_array_iff.mp hv v hmem)
    rw [lexemesOf, List.cons_append, List.length_cons, List.length_append] at hfuel
    obtain ⟨fuel, rfl⟩ : ∃ n, fuel = n + 1 := ⟨fuel - 1, by omega⟩
    have hflow := flowItems_of_parses hitems fuel [] (by simp at hfuel; omega)
    refine (node_sequence hflow).mono ?_
    rintro n ⟨m, ns, rfl, new, rfl, hnew⟩
    exact spells_sequence m hnew
  | object entries ih =>
    intro fuel block indentless hfuel
    obtain ⟨hkeys, hvalues⟩ := Json.sortedKeys_object_iff.mp hv
    have hentries (e : String × Json) (hmem : e ∈ entries) : ParsesAs e.2 :=
      ih e.1 e.2 hmem (hvalues e.1 e.2 hmem)
    rw [lexemesOf, List.cons_append, List.length_cons, List.length_append] at hfuel
    obtain ⟨fuel, rfl⟩ : ∃ n, fuel = n + 1 := ⟨fuel - 1, by omega⟩
    have hflow := flowEntries_of_parses hentries fuel [] (by simp at hfuel; omega)
    refine (node_mapping hflow).mono ?_
    rintro n ⟨m, ns, rfl, new, rfl, hnew⟩
    exact spells_mapping m hnew hkeys

end Values

section Line

variable {k : String} {v : Json} {fuel : Nat}

/-- A block with one entry. -/
theorem blockEntries_entry (hv : ParsesAs v) (hfuel : (lexemesOf v).length + 2 ≤ fuel) :
    Consumes (blockEntries fuel [])
      ([.key, .scalar .plain k, .value] ++ lexemesOf v ++ [.blockEnd])
      (List.Forall₂ SpellsEntry · [(k, v)]) := by
  obtain ⟨fuel, rfl⟩ : ∃ n, fuel = n + 2 := ⟨fuel - 2, by omega⟩
  obtain ⟨x, ls, hls, hx⟩ := lexemesOf_eq_cons v
  have hn : Consumes (node (fuel + 1) true true) (lexemesOf v) (·.Spells v) := hv (by omega)
  have hkey : Consumes (node (fuel + 1) true true) _ _ := node_scalar .plain k
  have hname : endsBlockPart (.scalar .plain k) = false := rfl
  have hvalue : endsBlockPart x = false := by
    cases x with
    | key => cases hx
    | value => cases hx
    | blockEnd => cases hx
    | _ => rfl
  rw [hls] at hn ⊢
  rw [blockEntries]
  refine .peek fun t ht ↦ ?_
  rw [ht]
  refine .advance (.peek fun t ht ↦ ?_)
  simp only [ht, hname, Bool.false_eq_true, if_false]
  refine hkey.bind fun key hkey ↦ .peek fun t ht ↦ ?_
  simp only [ht]
  refine .advance (.peek fun t ht ↦ ?_)
  simp only [ht, hvalue, Bool.false_eq_true, if_false]
  refine hn.bind fun n hn ↦ ?_
  rw [blockEntries]
  refine .peek fun t ht ↦ ?_
  simp only [ht]
  refine .advance (.pure ?_)
  obtain ⟨m, rfl⟩ := hkey
  exact .cons ⟨⟨m, _, rfl⟩, hn⟩ .nil

/-- At the end of the text no document marker follows. -/
theorem documentEnds_eq {s : Progress} {t : Token} {rest : List Token} (hs : s.tokens = t :: rest)
    (ht : t.lexeme = .streamEnd) : documentEnds (fuel + 1) s = some ((), s) := by
  rw [documentEnds, bind_eq (peek_eq hs), ht]
  rfl

/-- A node and the end of the text are a whole document. -/
theorem wholeDocument_eq {x : Lexeme} {ls : List Lexeme} {q : Node → Prop} {s : Progress}
    (hx : x ≠ .streamEnd) (hexplicit : isExplicit x = false)
    (hn : Consumes (node (fuel + 1) true false) (x :: ls) q)
    (hs : s.tokens.map Token.lexeme = x :: ls ++ [.streamEnd]) :
    ∃ root s', wholeDocument (fuel + 1) s = some (root, s') ∧ q root := by
  obtain ⟨front, back, htokens, hfront, hback⟩ := List.map_eq_append_iff.mp hs
  obtain ⟨t, rest, rfl, ht, -⟩ := List.map_eq_cons_iff.mp hfront
  obtain ⟨last, behind, rfl, hlast, -⟩ := List.map_eq_cons_iff.mp hback
  obtain ⟨root, hroot, hq⟩ := hn { s with handles := standardHandles } (t :: rest) _ hfront htokens
  refine ⟨root, { s with tokens := last :: behind, handles := standardHandles }, ?_, hq⟩
  have hmodify :
      (modify (fun s : Progress ↦ { s with handles := standardHandles }) : Parse Unit) s =
        some ((), { s with handles := standardHandles }) := rfl
  rw [wholeDocument, bind_eq (peek_eq htokens)]
  simp only [ht, hx, hexplicit, if_false, Bool.false_eq_true]
  rw [bind_eq hmodify, bind_eq hroot, bind_eq (documentEnds_eq rfl hlast), bind_eq (peek_eq rfl),
    if_pos hlast]
  rfl

/-- A text with these lexemes is a document with the one entry. -/
theorem ofText?_of_tokens {text : String} {ts : List Token} (hsorted : v.SortedKeys)
    (htokens : tokens text.toList = some ts) (hlexemes : ts.map Token.lexeme = lineLexemes k v) :
    ∃ d, Document.ofText? text = some d ∧ d.root.Spells (.object [(k, v)]) := by
  have hlength : ts.length = (lexemesOf v).length + 6 := by
    rw [← List.length_map Token.lexeme, hlexemes, lineLexemes]
    simp
  have hentries : Consumes (blockEntries (4 * ts.length + 7) []) _ _ :=
    blockEntries_entry (k := k) (parsesAs_of_sortedKeys v hsorted) (by omega)
  have hblock : Consumes (node (4 * ts.length + 8) true false) _ _ := node_block hentries
  have hmap : ts.map Token.lexeme =
      .blockMappingStart :: ([.key, .scalar .plain k, .value] ++ lexemesOf v ++ [.blockEnd]) ++
        [.streamEnd] := by
    rw [hlexemes, lineLexemes]
    simp
  obtain ⟨root, s', hroot, m, ns, rfl, hns⟩ :=
    wholeDocument_eq (s := ⟨ts, [], [], 0, []⟩) (by simp) rfl hblock hmap
  refine ⟨⟨.mapping m none ns, s'.anchors⟩, ?_, spells_mapping m hns (by simp)⟩
  rw [Document.ofText?, htokens]
  change (wholeDocument (4 * ts.length + 8) ⟨ts, [], [], 0, []⟩).bind _ = _
  rw [hroot]
  rfl

end Line

end ClusterProbe.Yaml
