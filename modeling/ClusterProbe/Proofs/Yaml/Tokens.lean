import ClusterProbe.Proofs.Yaml.Carried
import ClusterProbe.Yaml.Lexer

/-!
# The tokens of a line in compact notation

A document in compact notation stands on one line, so the lexer goes over it without ever opening or
closing a block. Main statement: the tokens of a line that holds a name and, behind a colon, a list
or a mapping in compact notation are those of a mapping with one entry, if the texts in it are
carried by quotes and its keys are short enough to be seen as keys.
-/

namespace ClusterProbe.Yaml

mutual

/-- The lexemes of a document in compact notation. -/
def lexemesOf : Json → List Lexeme
  | .string s => [.scalar .doubleQuoted s]
  | .array items => .flowSequenceStart :: itemLexemes items ++ [.flowSequenceEnd]
  | .object entries => .flowMappingStart :: entryLexemes entries ++ [.flowMappingEnd]
  | v => [.scalar .plain v.text]

/-- The lexemes of items with a comma between each two. -/
def itemLexemes : List Json → List Lexeme
  | [] => []
  | [v] => lexemesOf v
  | v :: w :: rest => lexemesOf v ++ .flowEntry :: itemLexemes (w :: rest)

/-- The lexemes of entries with a comma between each two. -/
def entryLexemes : List (String × Json) → List Lexeme
  | [] => []
  | [(k, v)] => .key :: .scalar .doubleQuoted k :: .value :: lexemesOf v
  | (k, v) :: e :: rest =>
    .key :: .scalar .doubleQuoted k :: .value ::
      (lexemesOf v ++ .flowEntry :: entryLexemes (e :: rest))

end

namespace Lexer

variable {l l' : Lexer} {brackets n : Nat} {read added all : List Lexeme} {x : Char}
  {r rest more : List Char}

/-- What the tokens so far are. -/
def lexemes (l : Lexer) : List Lexeme := l.tokens.toList.map Token.lexeme

/-- No node has to become a key. -/
def Optional (keys : List (Option PossibleKey)) : Prop :=
  ∀ key ∈ keys, ∀ k ∈ key, k.required = false

/-- The lexer without the nodes that can no longer become keys. -/
def expire (l : Lexer) : Lexer :=
  { l with keys := l.keys.map (Option.filter fun k ↦ !PossibleKey.expired l.mark k) }

/-- A traversal in which every step succeeds succeeds. -/
theorem mapM_eq_some_map {α β : Type} {f : α → Option β} {g : α → β} {as : List α}
    (h : ∀ a ∈ as, f a = some (g a)) : as.mapM f = some (as.map g) := by
  induction as with
  | nil => rfl
  | cons a as ih =>
    obtain ⟨ha, has⟩ := List.forall_mem_cons.mp h
    rw [List.mapM_cons, ha, ih has]
    rfl

theorem optional_cons {key : Option PossibleKey} {keys : List (Option PossibleKey)} :
    Optional (key :: keys) ↔ (∀ k ∈ key, k.required = false) ∧ Optional keys :=
  List.forall_mem_cons

/-- Where no node has to become a key, giving up nodes succeeds. -/
theorem expireKeys_eq (h : Optional l.keys) : l.expireKeys = some l.expire := by
  rw [expireKeys, mapM_eq_some_map (g := Option.filter fun k ↦ !PossibleKey.expired l.mark k)]
  · rfl
  · intro key hkey
    cases key with
    | none => rfl
    | some k =>
      have hk := h _ hkey k rfl
      cases hexp : PossibleKey.expired l.mark k <;> simp [hexp, hk, Option.filter]

/-- A character that is no blank, ends no line and starts no comment. -/
def IsSolid (x : Char) : Prop := x ≠ ' ' ∧ x ≠ '\t' ∧ x ≠ '#' ∧ isBreak x = false

instance (x : Char) : Decidable (IsSolid x) := inferInstanceAs (Decidable (_ ∧ _ ∧ _ ∧ _))

/-- In front of a solid character nothing is passed over. -/
theorem skipToToken_eq {fuel : Nat} (hrest : l.cursor.rest = x :: r) (hx : IsSolid x)
    (hindex : 0 < l.cursor.mark.index) : skipToToken fuel l = l := by
  obtain ⟨hspace, htab, hcomment, hbreak⟩ := hx
  cases fuel with
  | zero => rfl
  | succ fuel =>
    have hmark : (l.cursor.mark.index = 0) = False := eq_false (Nat.pos_iff_ne_zero.mp hindex)
    simp [skipToToken, hmark, Cursor.skipWhile, Cursor.takeWhile, Cursor.skip_zero, hrest, hspace,
      htab, Cursor.skipComment, Cursor.isAt, hcomment, Cursor.head?, hbreak]

/-- The lexer on the line of a compact document: in front of `rest`, with `read` behind it,
`brackets` brackets open, and one block open that starts at the first column. -/
structure Inside (l : Lexer) (brackets : Nat) (read : List Lexeme) (rest : List Char) : Prop where
  fuel : rest.length < l.fuel
  rest : l.cursor.rest = rest
  index : 0 < l.cursor.mark.index
  column : 0 < l.cursor.mark.column
  lexemes : l.lexemes = read
  keys : l.keys.length = brackets + 1
  optional : Optional l.keys
  indent : l.indent = 0
  outerIndents : l.outerIndents = [-1]

/-- Giving up nodes leaves the lexer where it is. -/
theorem Inside.expire (h : Inside l brackets read rest) : Inside l.expire brackets read rest := by
  refine ⟨h.fuel, h.rest, h.index, h.column, h.lexemes, ?_, ?_, h.indent, h.outerIndents⟩
  · rw [← h.keys]
    exact List.length_map _
  · intro key hkey k hk
    obtain ⟨old, hold, rfl⟩ := List.mem_map.mp hkey
    exact h.optional old hold k (Option.eq_some_of_filter_eq_some hk)

/-- No block is closed on the line. -/
theorem Inside.unroll (h : Inside l brackets read rest) : l.unroll l.column = l := by
  have hcolumn : ¬ l.column < l.indent := by
    rw [h.indent, Lexer.column]
    omega
  rw [Lexer.unroll, h.outerIndents]
  split
  · rfl
  · rw [closeBlocks, if_neg hcolumn]

/-- On the line the next token starts at once. -/
theorem Inside.next (h : Inside l brackets read (x :: r)) (hx : IsSolid x) :
    l.next = l.expire.token := by
  rw [Lexer.next, skipToToken_eq h.rest hx h.index, expireKeys_eq h.optional]
  simp only [Option.bind_eq_bind, Option.bind_some]
  rw [h.expire.unroll]

/-- Giving up the node on this level succeeds. -/
theorem dropKey_eq (h : Optional l.keys) :
    ∃ keys, l.dropKey = some { l with keys := keys } ∧ keys.length = l.keys.length ∧
      Optional keys := by
  rw [dropKey]
  split
  next k ks hkeys =>
    obtain ⟨hk, hks⟩ := optional_cons.mp (hkeys ▸ h)
    rw [if_neg (by simp [hk k rfl])]
    exact ⟨none :: ks, rfl, by rw [hkeys]; rfl, optional_cons.mpr ⟨by simp, hks⟩⟩
  · exact ⟨l.keys, rfl, rfl, h⟩

/-- On the line no node has to become a key; where one may, the next one is remembered. -/
theorem Inside.saveKey (h : Inside l brackets read rest) :
    ∃ keys, l.saveKey = some { l with keys := keys } ∧ keys.length = l.keys.length ∧
      Optional keys ∧
      (l.keyAllowed = true → keys.head? = some (some ⟨false, l.tokens.size, l.mark⟩)) := by
  have hrequired : (!l.inFlow && l.indent == l.column) = false := by
    have hcolumn : (0 : Int) ≠ l.cursor.mark.column := by
      have := h.column
      omega
    rw [h.indent, Lexer.column, beq_false_of_ne hcolumn, Bool.and_false]
  rw [Lexer.saveKey]
  split
  · obtain ⟨keys, hdrop, hlength, hopt⟩ := dropKey_eq h.optional
    rw [hdrop, hrequired]
    have hkeys := hlength.trans h.keys
    cases keys with
    | nil => cases hkeys
    | cons key keys =>
      refine ⟨_, rfl, hlength, optional_cons.mpr ⟨?_, (optional_cons.mp hopt).2⟩, fun _ ↦ rfl⟩
      intro k hk
      obtain rfl := Option.some.inj hk
      rfl
  next hallowed => exact ⟨l.keys, rfl, rfl, h.optional, fun hkey ↦ absurd hkey hallowed⟩

/-- The lexer has gone `n` characters along its line and added lexemes. -/
structure Passes (l : Lexer) (n : Nat) (added : List Lexeme) (brackets : Nat) (allowed : Bool)
    (l' : Lexer) : Prop where
  fuel : l'.fuel = l.fuel
  cursor : l'.cursor = l.cursor.skip n
  lexemes : l'.lexemes = l.lexemes ++ added
  keys : l'.keys.length = brackets + 1
  optional : Optional l'.keys
  indent : l'.indent = l.indent
  outerIndents : l'.outerIndents = l.outerIndents
  allowed : l'.keyAllowed = allowed

/-- Going along the line stays on it. -/
theorem Passes.inside {b : Nat} {a : Bool} (front : List Char)
    (hp : Passes l front.length added b a l') (h : Inside l brackets read (front ++ more)) :
    Inside l' b (read ++ added) more where
  fuel := by
    have := h.fuel
    rw [List.length_append] at this
    rw [hp.fuel]
    omega
  rest := by rw [hp.cursor, Cursor.rest_skip_of_append h.rest]
  index := by
    rw [hp.cursor, Cursor.index_skip]
    exact Nat.add_pos_left h.index _
  column := by
    rw [hp.cursor, Cursor.column_skip]
    exact Nat.add_pos_left h.column _
  lexemes := by rw [hp.lexemes, h.lexemes]
  keys := hp.keys
  optional := hp.optional
  indent := hp.indent.trans h.indent
  outerIndents := hp.outerIndents.trans h.outerIndents

/-- The rest of the text is read to its end, and these are the lexemes in all. -/
def Reads (l : Lexer) (all : List Lexeme) : Prop :=
  ∃ ts, ts.map Token.lexeme = all ∧ ∀ fuel, l.cursor.rest.length < fuel → l.run fuel = some ts

theorem finished_iff : l.finished = true ↔ l.lexemes.getLast? = some .streamEnd := by
  rw [finished, beq_iff_eq, lexemes, List.getLast?_map, Array.getLast?_toList]

/-- A text is read if it is read behind its next token. -/
theorem reads_of_next (hnext : l.next = some l') (hlast : l'.lexemes.getLast? ≠ some .streamEnd)
    (hlength : l'.cursor.rest.length < l.cursor.rest.length) (h : l'.Reads all) : l.Reads all := by
  obtain ⟨ts, hts, hrun⟩ := h
  refine ⟨ts, hts, fun fuel hfuel ↦ ?_⟩
  obtain ⟨n, rfl⟩ : ∃ n, fuel = n + 1 := ⟨fuel - 1, by omega⟩
  have hfinished : l'.finished = false := by
    rw [Bool.eq_false_iff, Ne, finished_iff]
    exact hlast
  rw [run, hnext]
  simp only [Option.bind_eq_bind, Option.bind_some, hfinished, Bool.false_eq_true, if_false]
  exact hrun n (by omega)

/-- Wherever on such a line, with `read` behind it and `rest` in front, the lexer reads the text to
its end, and `all` are the lexemes. -/
def Lexes (brackets : Nat) (allowed : Bool) (read : List Lexeme) (rest : List Char)
    (all : List Lexeme) : Prop :=
  ∀ l, Inside l brackets read rest → l.keyAllowed = allowed → l.Reads all

/-- A rest is read if its first token is and what is behind it. -/
theorem lexes_of_token {b : Nat} {a allowed : Bool} (front : List Char) (hx : IsSolid x)
    (hlast : added.getLast? ≠ some .streamEnd) (hadded : added ≠ [])
    (htoken : ∀ l, Inside l brackets read (x :: front ++ more) → l.keyAllowed = allowed →
      ∃ l', l.token = some l' ∧ Passes l (front.length + 1) added b a l')
    (h : Lexes b a (read ++ added) more all) :
    Lexes brackets allowed read (x :: front ++ more) all := by
  intro l hl hallowed
  obtain ⟨l', htoken, hp⟩ := htoken l.expire hl.expire hallowed
  have hl' := hp.inside (x :: front) hl.expire
  refine reads_of_next ((hl.next hx).trans htoken) ?_ ?_ (h l' hl' hp.allowed)
  · rw [hl'.lexemes, List.getLast?_append_of_ne_nil _ hadded]
    exact hlast
  · rw [hl'.rest, hl.rest, List.length_append, List.length_cons]
    omega

/-- A rest is read if a token of its first character is and what is behind it. -/
theorem lexes_of_char {b : Nat} {a allowed : Bool} {lexeme : Lexeme} (hx : IsSolid x)
    (hlexeme : lexeme ≠ .streamEnd)
    (htoken : ∀ l, Inside l brackets read (x :: more) →
      ∃ l', l.token = some l' ∧ Passes l 1 [lexeme] b a l')
    (h : Lexes b a (read ++ [lexeme]) more all) :
    Lexes brackets allowed read (x :: more) all :=
  lexes_of_token [] hx (by simpa using hlexeme) (List.cons_ne_nil _ _) (fun l hl _ ↦ htoken l hl) h

section Tokens

variable {allowed : Bool}

@[simp] theorem lexemes_emit (lexeme : Lexeme) (start stop : Mark) (l : Lexer) :
    (l.emit lexeme start stop).lexemes = l.lexemes ++ [lexeme] := by
  simp [lexemes, emit]

@[simp] theorem lexemes_emitNext (n : Nat) (lexeme : Lexeme) (l : Lexer) :
    (l.emitNext n lexeme).lexemes = l.lexemes ++ [lexeme] := lexemes_emit ..

@[simp] theorem lexemes_emitAt (position : Nat) (lexeme : Lexeme) (mark : Mark) (l : Lexer) :
    (l.emitAt position lexeme mark).lexemes =
      l.lexemes.take position ++ lexeme :: l.lexemes.drop position := by
  simp [lexemes, emitAt]

/-- On the line no document marker starts. -/
theorem Inside.atMarker (h : Inside l brackets read rest) (y : Char) :
    l.cursor.atMarker y = false := by
  simp [Cursor.atMarker, Nat.pos_iff_ne_zero.mp h.column]

/-- On the line no directive starts. -/
theorem Inside.column_ne (h : Inside l brackets read rest) : (l.mark.column = 0) = False :=
  eq_false (Nat.pos_iff_ne_zero.mp h.column)

theorem Inside.flowStart (h : Inside l brackets read rest) (lexeme : Lexeme) :
    ∃ l', l.flowStart lexeme = some l' ∧ Passes l 1 [lexeme] (brackets + 1) true l' := by
  obtain ⟨keys, hsave, hlength, hopt, -⟩ := h.saveKey
  refine ⟨_, by rw [Lexer.flowStart, hsave]; rfl, ?_⟩
  exact ⟨rfl, rfl, lexemes_emitNext .., by rw [← h.keys, ← hlength]; rfl,
    optional_cons.mpr ⟨by simp, hopt⟩, rfl, rfl, rfl⟩

theorem Inside.flowEnd (h : Inside l (brackets + 1) read rest) (lexeme : Lexeme) :
    ∃ l', l.flowEnd lexeme = some l' ∧ Passes l 1 [lexeme] brackets false l' := by
  obtain ⟨keys, hdrop, hlength, hopt⟩ := dropKey_eq h.optional
  have hflow : ({ l with keys := keys } : Lexer).inFlow = true := by
    simp [inFlow, hlength, h.keys]
  refine ⟨_, by rw [Lexer.flowEnd, hdrop]; rfl, ?_⟩
  rw [hflow]
  have htail : keys.tail.length = brackets + 1 := by simp [hlength, h.keys]
  exact ⟨rfl, rfl, lexemes_emitNext .., htail,
    fun key hkey ↦ hopt key (List.mem_of_mem_tail hkey), rfl, rfl, rfl⟩

theorem Inside.flowEntry (h : Inside l brackets read rest) :
    ∃ l', l.flowEntry = some l' ∧ Passes l 1 [.flowEntry] brackets true l' := by
  obtain ⟨keys, hdrop, hlength, hopt⟩ := dropKey_eq h.optional
  refine ⟨_, by rw [Lexer.flowEntry, hdrop]; rfl, ?_⟩
  exact ⟨rfl, rfl, lexemes_emitNext .., hlength.trans h.keys, hopt, rfl, rfl, rfl⟩

/-- An opening square bracket. -/
theorem lexes_sequenceStart
    (h : Lexes (brackets + 1) true (read ++ [.flowSequenceStart]) more all) :
    Lexes brackets allowed read ('[' :: more) all := by
  refine lexes_of_char (by decide) (by decide) (fun l hl ↦ ?_) h
  obtain ⟨l', hstart, hp⟩ := hl.flowStart .flowSequenceStart
  refine ⟨l', ?_, hp⟩
  simp [token, hl.rest, hl.column_ne, hl.atMarker, hstart]

/-- An opening brace. -/
theorem lexes_mappingStart
    (h : Lexes (brackets + 1) true (read ++ [.flowMappingStart]) more all) :
    Lexes brackets allowed read ('{' :: more) all := by
  refine lexes_of_char (by decide) (by decide) (fun l hl ↦ ?_) h
  obtain ⟨l', hstart, hp⟩ := hl.flowStart .flowMappingStart
  refine ⟨l', ?_, hp⟩
  simp [token, hl.rest, hl.column_ne, hl.atMarker, hstart]

/-- A closing square bracket. -/
theorem lexes_sequenceEnd (h : Lexes brackets false (read ++ [.flowSequenceEnd]) more all) :
    Lexes (brackets + 1) allowed read (']' :: more) all := by
  refine lexes_of_char (by decide) (by decide) (fun l hl ↦ ?_) h
  obtain ⟨l', hend, hp⟩ := hl.flowEnd .flowSequenceEnd
  refine ⟨l', ?_, hp⟩
  simp [token, hl.rest, hl.column_ne, hl.atMarker, hend]

/-- A closing brace. -/
theorem lexes_mappingEnd (h : Lexes brackets false (read ++ [.flowMappingEnd]) more all) :
    Lexes (brackets + 1) allowed read ('}' :: more) all := by
  refine lexes_of_char (by decide) (by decide) (fun l hl ↦ ?_) h
  obtain ⟨l', hend, hp⟩ := hl.flowEnd .flowMappingEnd
  refine ⟨l', ?_, hp⟩
  simp [token, hl.rest, hl.column_ne, hl.atMarker, hend]

/-- A comma. -/
theorem lexes_comma (h : Lexes brackets true (read ++ [.flowEntry]) more all) :
    Lexes brackets allowed read (',' :: more) all := by
  refine lexes_of_char (by decide) (by decide) (fun l hl ↦ ?_) h
  obtain ⟨l', hentry, hp⟩ := hl.flowEntry
  refine ⟨l', ?_, hp⟩
  simp [token, hl.rest, hl.column_ne, hl.atMarker, hentry]

/-- The start of a word starts a plain scalar. -/
theorem Inside.token_word {word : List Char} (h : Inside l brackets read (word ++ more))
    (hword : IsWord word) : l.token = l.plainScalar := by
  obtain ⟨d, r, hd, heq⟩ := hword.starts
  have hne (z : Char) (hz : z.isAlphanum = false) : d ≠ z := by
    rintro rfl
    rw [hd] at hz
    cases hz
  have hrest := h.rest
  have hgap : isGap d = false := (wordChar_ne (.inl hd)).1
  have hbreak : isBreak d = false := (wordChar_ne (.inl hd)).2.1
  rcases heq with rfl | rfl
  · rw [List.cons_append] at hrest
    simp [token, hrest, h.column_ne, h.atMarker, startsPlain, isIndicator, hgap, hbreak,
      hne '[' rfl, hne '{' rfl, hne ']' rfl, hne '}' rfl, hne ',' rfl, hne '-' rfl, hne '?' rfl,
      hne ':' rfl, hne '*' rfl, hne '&' rfl, hne '!' rfl, hne '|' rfl, hne '>' rfl,
      hne '\'' rfl, hne '\"' rfl, hne '#' rfl, hne '%' rfl, hne '@' rfl, hne '\x60' rfl]
  · rw [List.cons_append, List.cons_append] at hrest
    simp [token, hrest, h.column_ne, h.atMarker, startsPlain, isIndicator, atWordEnd, hgap, hbreak]

/-- Between brackets a word goes up to a comma or a closing bracket. -/
theorem lexes_word {word : List Char} {y : Char} (hword : IsWord word) (hy : isFlowEnd y)
    (h : Lexes (brackets + 1) false (read ++ [.scalar .plain (String.ofList word)]) (y :: more)
      all) :
    Lexes (brackets + 1) allowed read (word ++ y :: more) all := by
  obtain ⟨x, front, rfl, hx⟩ : ∃ x front, word = x :: front ∧ IsSolid x := by
    obtain ⟨d, r, hd, rfl | rfl⟩ := hword.starts
    · have hd' := wordChar_ne (.inl hd)
      refine ⟨d, r, rfl, ?_, ?_, hd'.2.2.2.1, hd'.2.1⟩ <;> rintro rfl <;> cases hd
    · exact ⟨'-', d :: r, rfl, by decide⟩
  refine lexes_of_token front hx (by simp) (by simp) (fun l hl _ ↦ ?_) h
  obtain ⟨keys, hsave, hlength, hopt, -⟩ := hl.saveKey
  have hflow : ({ l with keys := keys } : Lexer).inFlow = true := by
    simp [inFlow, hlength, hl.keys]
  have hread : readPlain l.fuel true (l.indent + 1).toNat l.cursor = _ :=
    readPlain_word hword hy hl.column (Nat.zero_lt_of_lt hl.fuel) hl.rest
  rw [hl.token_word hword, plainScalar, hsave]
  simp only [Option.bind_eq_bind, Option.bind_some, hflow, hread]
  exact ⟨_, rfl, rfl, rfl, lexemes_emit .., hlength.trans hl.keys, hopt, rfl, rfl, rfl⟩

/-- A text between quotes. Where a node may become a key, this one may. -/
theorem Inside.quotedScalar {t : String} (h : Inside l brackets read (Json.printString t ++ more))
    (ht : CarriedText t) :
    ∃ l', l.token = some l' ∧
      Passes l (Json.printString t).length [.scalar .doubleQuoted t] brackets false l' ∧
      (l.keyAllowed = true → l'.keys.head? = some (some ⟨false, l.tokens.size, l.mark⟩)) := by
  obtain ⟨keys, hsave, hlength, hopt, hkey⟩ := h.saveKey
  have hfuel : t.toList.length < l.fuel := by
    have hmore := h.fuel
    have := length_le_length_printString t
    rw [List.length_append] at hmore
    omega
  have htoken : l.token = l.quotedScalar true := by
    have hrest := h.rest
    rw [Json.printString, List.cons_append, List.cons_append] at hrest
    simp [token, hrest, h.column_ne, h.atMarker]
  have hread := readQuoted_printString ht hfuel h.rest
  rw [htoken, Lexer.quotedScalar, hsave]
  simp only [Option.bind_eq_bind, Option.bind_some, hread]
  refine ⟨_, rfl, ⟨rfl, rfl, ?_, hlength.trans h.keys, hopt, rfl, rfl, rfl⟩, hkey⟩
  simp [Lexer.lexemes, emitScalar, emit]

/-- A text between quotes is a scalar. -/
theorem lexes_text {t : String} (ht : CarriedText t)
    (h : Lexes brackets false (read ++ [.scalar .doubleQuoted t]) more all) :
    Lexes brackets allowed read (Json.printString t ++ more) all := by
  refine lexes_of_token (x := '\"') _ (by decide) (by simp) (by simp) (fun l hl _ ↦ ?_) h
  obtain ⟨l', htoken, hp, -⟩ := hl.quotedScalar ht
  exact ⟨l', htoken, hp⟩

/-- A colon makes the last token a key if it may be one. -/
theorem Inside.value {k : PossibleKey} {before : List Lexeme} {lexeme : Lexeme}
    (h : Inside l (brackets + 1) (before ++ [lexeme]) (':' :: more))
    (hkey : l.keys.head? = some (some k)) (hposition : k.position = before.length) :
    ∃ l', l.token = some l' ∧ l'.keyAllowed = false ∧
      Inside l' (brackets + 1) (before ++ [.key, lexeme, .value]) more := by
  obtain ⟨keys, hkeys⟩ : ∃ keys, l.keys = some k :: keys :=
    ⟨l.keys.tail, List.eq_cons_of_mem_head? hkey⟩
  have hlength : keys.length = brackets + 1 := by simpa [hkeys] using h.keys
  have hflow : l.inFlow = true := by simp [inFlow, h.keys]
  have hopt : Optional (none :: keys) :=
    optional_cons.mpr ⟨by simp, (optional_cons.mp (hkeys ▸ h.optional)).2⟩
  have htoken : l.token = l.value := by
    simp [token, h.rest, h.column_ne, h.atMarker, hflow]
  have hnext : (l.cursor.skip 1).rest = more := by simp [h.rest]
  have hroll : ∀ l : Lexer, l.keys = none :: keys →
      l.roll k.mark.column k.position .blockMappingStart k.mark = l := by
    intro l hl
    rw [roll, inFlow, hl]
    simp [hlength]
  rw [htoken, Lexer.value, hkeys]
  refine ⟨_, congrArg some (congrArg _ (hroll _ rfl)), rfl, ?_, hnext, ?_, ?_, ?_, ?_, hopt,
    h.indent, h.outerIndents⟩
  · have := h.fuel
    rw [List.length_cons] at this
    exact Nat.lt_of_succ_lt this
  · exact Nat.add_pos_left h.index 1
  · exact Nat.add_pos_left h.column 1
  · rw [lexemes_emitNext, lexemes_emitAt, hposition]
    change l.lexemes.take before.length ++ .key :: l.lexemes.drop before.length ++ [.value] = _
    rw [h.lexemes, List.take_left, List.drop_left, List.append_assoc]
    rfl
  · exact congrArg (· + 1) hlength

/-- A short text between quotes and a colon make a key. -/
theorem lexes_key {k : String} (hcarried : CarriedText k) (hshort : ShortKey k)
    (h : Lexes (brackets + 1) false (read ++ [.key, .scalar .doubleQuoted k, .value]) more all) :
    Lexes (brackets + 1) true read (Json.printString k ++ ':' :: more) all := by
  intro l hl hallowed
  obtain ⟨l₁, htoken, hp, hkey⟩ := hl.expire.quotedScalar hcarried
  have hl₁ := hp.inside _ hl.expire
  have hfresh : PossibleKey.expired l₁.mark ⟨false, l.tokens.size, l.mark⟩ = false := by
    have hmark : l₁.mark = (l.cursor.skip (Json.printString k).length).mark :=
      congrArg Cursor.mark hp.cursor
    rw [PossibleKey.expired, hmark, Cursor.line_skip, Cursor.index_skip]
    have hle : (Json.printString k).length ≤ 1024 := hshort
    simpa [mark] using hle
  have hkey₁ : l₁.expire.keys.head? = some (some ⟨false, l.tokens.size, l.mark⟩) := by
    have hhead : l₁.keys.head? = some (some ⟨false, l.tokens.size, l.mark⟩) := hkey hallowed
    rw [expire, List.head?_map, hhead]
    simp [Option.filter, hfresh]
  have hposition : l.tokens.size = read.length := by
    rw [← hl.lexemes]
    simp [lexemes]
  obtain ⟨l₂, hvalue, hallowed₂, hl₂⟩ := hl₁.expire.value hkey₁ hposition
  have hnext₁ := (hl.next (x := '\"') (by decide)).trans htoken
  have hnext₂ := (hl₁.next (by decide)).trans hvalue
  refine reads_of_next hnext₁ ?_ ?_ (reads_of_next hnext₂ ?_ ?_ (h l₂ hl₂ hallowed₂))
  · rw [hl₁.lexemes]
    simp
  · rw [hl₁.rest, hl.rest, Json.printString]
    simp
    omega
  · rw [hl₂.lexemes]
    simp
  · rw [hl₂.rest, hl₁.rest]
    simp

end Tokens

section Values

variable {items : List Json} {entries : List (String × Json)} {v : Json}

/-- Between brackets the text of a document is read up to what ends it. -/
def LexesAs (v : Json) : Prop :=
  ∀ ⦃brackets : Nat⦄ ⦃allowed : Bool⦄ ⦃read : List Lexeme⦄ ⦃y : Char⦄ ⦃more : List Char⦄
    ⦃all : List Lexeme⦄, isFlowEnd y →
      Lexes (brackets + 1) false (read ++ lexemesOf v) (y :: more) all →
      Lexes (brackets + 1) allowed read (Json.print v ++ y :: more) all

theorem lexesAs_word (hword : IsWord (Json.print v))
    (hlexemes : lexemesOf v = [.scalar .plain v.text]) : LexesAs v := by
  intro brackets allowed read y more all hy h
  rw [hlexemes] at h
  exact lexes_word hword hy h

/-- Items are read one after the other. -/
theorem lexes_items (hitems : ∀ v ∈ items, LexesAs v)
    (h : ∀ allowed, Lexes (brackets + 1) allowed (read ++ itemLexemes items) (']' :: more) all)
    (allowed : Bool) :
    Lexes (brackets + 1) allowed read (Json.printItems items ++ ']' :: more) all := by
  induction items generalizing read allowed with
  | nil => simpa [Json.printItems, itemLexemes] using h allowed
  | cons v rest ih =>
    obtain ⟨hv, hrest⟩ := List.forall_mem_cons.mp hitems
    cases rest with
    | nil => exact hv (.inr (.inl rfl)) (h false)
    | cons w others =>
      rw [Json.printItems, List.append_assoc, List.cons_append]
      refine hv (.inl rfl) (lexes_comma (ih hrest (fun allowed ↦ ?_) true))
      simpa [itemLexemes] using h allowed

/-- Entries are read one after the other. -/
theorem lexes_entries (hentries : ∀ e ∈ entries, CarriedText e.1 ∧ ShortKey e.1 ∧ LexesAs e.2)
    (h : ∀ allowed, Lexes (brackets + 1) allowed (read ++ entryLexemes entries) ('}' :: more) all) :
    Lexes (brackets + 1) true read (Json.printEntries entries ++ '}' :: more) all := by
  induction entries generalizing read with
  | nil => simpa [Json.printEntries, entryLexemes] using h true
  | cons e rest ih =>
    obtain ⟨⟨hcarried, hshort, hv⟩, hrest⟩ := List.forall_mem_cons.mp hentries
    cases rest with
    | nil =>
      rw [Json.printEntries, List.append_assoc, List.cons_append]
      refine lexes_key hcarried hshort (hv (.inr (.inr rfl)) ?_)
      simpa [entryLexemes] using h false
    | cons e others =>
      rw [Json.printEntries, List.append_assoc, List.cons_append, List.append_assoc,
        List.cons_append]
      refine lexes_key hcarried hshort
        (hv (.inl rfl) (lexes_comma (ih hrest fun allowed ↦ ?_)))
      simpa [entryLexemes] using h allowed

/-- A list whose items are read is read. -/
theorem lexes_array {allowed : Bool} (hitems : ∀ v ∈ items, LexesAs v)
    (h : Lexes brackets false (read ++ lexemesOf (.array items)) more all) :
    Lexes brackets allowed read (Json.print (.array items) ++ more) all := by
  rw [Json.print, List.cons_append, List.cons_append, List.append_assoc]
  refine lexes_sequenceStart (lexes_items hitems (fun allowed ↦ lexes_sequenceEnd ?_) true)
  simpa [lexemesOf] using h

/-- A mapping whose keys and values are read is read. -/
theorem lexes_object {allowed : Bool}
    (hentries : ∀ e ∈ entries, CarriedText e.1 ∧ ShortKey e.1 ∧ LexesAs e.2)
    (h : Lexes brackets false (read ++ lexemesOf (.object entries)) more all) :
    Lexes brackets allowed read (Json.print (.object entries) ++ more) all := by
  rw [Json.print, List.cons_append, List.cons_append, List.append_assoc]
  refine lexes_mappingStart (lexes_entries hentries fun allowed ↦ lexes_mappingEnd ?_)
  simpa [lexemesOf] using h

/-- A document whose texts are carried is read up to what ends it. -/
theorem lexesAs_of_carried (v : Json) (hv : CarriedValue v) : LexesAs v := by
  induction v using Json.induction with
  | null => exact lexesAs_word (isWord_of_isAlphanum rfl) rfl
  | bool b => cases b <;> exact lexesAs_word (isWord_of_isAlphanum rfl) rfl
  | number n => exact lexesAs_word (isWord_printNumber n) rfl
  | string s => exact fun _ _ _ _ _ _ _ h ↦ lexes_text hv h
  | array items ih =>
    have hitems := carriedItems_iff.mp hv
    exact fun _ _ _ _ _ _ _ h ↦ lexes_array (fun v hmem ↦ ih v hmem (hitems v hmem)) h
  | object entries ih =>
    have hentries := carriedEntries_iff.mp hv
    refine fun _ _ _ _ _ _ _ h ↦ lexes_object (fun e hmem ↦ ?_) h
    obtain ⟨hcarried, hshort, hv⟩ := hentries e hmem
    exact ⟨hcarried, hshort, ih e.1 e.2 hmem hv⟩

/-- A list or a mapping whose texts are carried is read wherever it stands on the line. -/
theorem lexes_collection {allowed : Bool} (hv : CarriedValue v) (hkind : ¬ v.IsScalar)
    (h : Lexes brackets false (read ++ lexemesOf v) more all) :
    Lexes brackets allowed read (Json.print v ++ more) all := by
  cases v with
  | array items =>
    exact lexes_array (fun v hmem ↦ lexesAs_of_carried v (carriedItems_iff.mp hv v hmem)) h
  | object entries =>
    refine lexes_object (fun e hmem ↦ ?_) h
    obtain ⟨hcarried, hshort, hv⟩ := carriedEntries_iff.mp hv e hmem
    exact ⟨hcarried, hshort, lexesAs_of_carried e.2 hv⟩
  | _ => exact absurd trivial hkind

end Values

section Line

/-- At the end of a text the block around the line is closed. -/
theorem unroll_end (hkeys : l.keys.length = 1) (hindent : l.indent = 0)
    (houter : l.outerIndents = [-1]) :
    (l.unroll (-1)).keys = l.keys ∧ (l.unroll (-1)).lexemes = l.lexemes ++ [.blockEnd] := by
  have hflow : l.inFlow = false := by simp [inFlow, hkeys]
  rw [unroll, hflow, houter]
  simp only [Bool.false_eq_true, if_false, closeBlocks, hindent, Int.reduceNeg, Int.reduceLT,
    if_true]
  exact ⟨rfl, lexemes_emit ..⟩

/-- The end of a text moves the lexer, closes all blocks and adds a token. -/
theorem atEnd_eq (l : Lexer) :
    ∃ c m, l.atEnd = (({ l with cursor := c } : Lexer).unroll (-1)).dropKey.map fun l ↦
      { l with keyAllowed := false }.emit .streamEnd m m :=
  ⟨_, _, Option.map_eq_bind.symm⟩

/-- Closing the line adds the end of its block and the end of the text. -/
theorem Inside.atEnd (h : Inside l 0 read rest) :
    ∃ l', l.atEnd = some l' ∧ l'.lexemes = read ++ [.blockEnd, .streamEnd] := by
  obtain ⟨c, m, heq⟩ := atEnd_eq l
  obtain ⟨hkeys, hlexemes⟩ :=
    unroll_end (l := { l with cursor := c }) h.keys h.indent h.outerIndents
  rw [heq]
  generalize ({ l with cursor := c } : Lexer).unroll (-1) = closed at hkeys hlexemes
  obtain ⟨keys, hdrop, -⟩ := dropKey_eq (l := closed) (by rw [hkeys]; exact h.optional)
  refine ⟨_, by rw [hdrop]; rfl, ?_⟩
  rw [lexemes_emit]
  change closed.lexemes ++ [.streamEnd] = _
  rw [hlexemes]
  change l.lexemes ++ [.blockEnd] ++ [.streamEnd] = _
  rw [h.lexemes, List.append_assoc]
  rfl

/-- At the end of the line the block is closed. -/
theorem lexes_end {allowed : Bool} : Lexes 0 allowed read [] (read ++ [.blockEnd, .streamEnd]) := by
  intro l hl hallowed
  have hfuel : 0 < l.fuel := hl.fuel
  obtain ⟨n, hn⟩ : ∃ n, l.fuel = n + 1 := ⟨l.fuel - 1, by omega⟩
  have hskip : skipToToken l.fuel l = l := by
    have hmark : (l.cursor.mark.index = 0) = False := eq_false (Nat.pos_iff_ne_zero.mp hl.index)
    rw [hn]
    simp [skipToToken, hmark, Cursor.skipWhile, Cursor.takeWhile, Cursor.skip_zero, hl.rest,
      Cursor.skipComment, Cursor.isAt, Cursor.head?]
  have hnext : l.next = l.expire.atEnd := by
    rw [next, hskip, expireKeys_eq hl.optional]
    simp only [Option.bind_eq_bind, Option.bind_some]
    rw [hl.expire.unroll, token, hl.expire.rest]
  obtain ⟨l', hend, hlexemes⟩ := hl.expire.atEnd
  have hfinished : l'.finished = true := by
    rw [finished_iff, hlexemes]
    simp
  refine ⟨l'.tokens.toList, hlexemes, fun fuel hfuel ↦ ?_⟩
  obtain ⟨m, rfl⟩ : ∃ m, fuel = m + 1 := ⟨fuel - 1, by omega⟩
  rw [run, hnext, hend]
  simp only [Option.bind_eq_bind, Option.bind_some, hfinished, if_true]

/-- A space in front of a token is passed over. -/
theorem lexes_space {allowed : Bool} (h : Lexes brackets allowed read more all) :
    Lexes brackets allowed read (' ' :: more) all := by
  intro l hl hallowed
  have hmore : Inside { l with cursor := l.cursor.skip 1 } brackets read more :=
    { hl with
      fuel := Nat.lt_of_succ_lt hl.fuel
      rest := by rw [Cursor.rest_skip, hl.rest]; rfl
      index := Nat.add_pos_left hl.index 1
      column := Nat.add_pos_left hl.column 1 }
  obtain ⟨ts, hts, hrun⟩ := h _ hmore hallowed
  obtain ⟨n, hn⟩ : ∃ n, l.fuel = n + 1 := ⟨l.fuel - 1, by have := hl.fuel; omega⟩
  have hskip : skipToToken (n + 1) l =
      skipToToken (n + 1) { l with cursor := l.cursor.skip 1 } := by
    have hindex : (l.cursor.mark.index = 0) = False := eq_false (Nat.pos_iff_ne_zero.mp hl.index)
    rw [skipToToken, skipToToken]
    simp [hindex, Cursor.skipWhile, Cursor.takeWhile, hl.rest, inFlow, Nat.add_comm]
  have hnext : l.next = ({ l with cursor := l.cursor.skip 1 } : Lexer).next := by
    rw [next, hn, hskip, next, hn]
  refine ⟨ts, hts, fun fuel hfuel ↦ ?_⟩
  obtain ⟨m, rfl⟩ : ∃ m, fuel = m + 1 := ⟨fuel - 1, by omega⟩
  have hlength : (l.cursor.skip 1).rest.length < m + 1 := by
    rw [hl.rest] at hfuel
    rw [hmore.rest]
    exact Nat.lt_of_succ_lt hfuel
  rw [← hrun (m + 1) hlength, run, run, hnext]

/-- The token of the name in the first column. -/
def nameToken : Token := ⟨.scalar .plain "v", Mark.origin, ⟨1, 0, 1⟩⟩

/-- The lexer behind the name: it may become a key. -/
def behindName (cs : List Char) : Lexer :=
  ⟨cs.length + 4, ⟨':' :: ' ' :: cs, ⟨1, 0, 1⟩⟩, #[nameToken], -1, [],
    [some ⟨false, 0, Mark.origin⟩], false⟩

/-- The lexer behind the colon, which has made the name a key and opened a block. -/
def behindColon (cs : List Char) : Lexer :=
  ⟨cs.length + 4, ⟨' ' :: cs, ⟨2, 0, 2⟩⟩,
    #[⟨.blockMappingStart, Mark.origin, Mark.origin⟩, ⟨.key, Mark.origin, Mark.origin⟩, nameToken,
      ⟨.value, ⟨1, 0, 1⟩, ⟨2, 0, 2⟩⟩], 0, [-1], [none], false⟩

theorem next_start (cs : List Char) :
    (start ('v' :: ':' :: ' ' :: cs)).next = some (behindName cs) := rfl

theorem next_behindName (cs : List Char) : (behindName cs).next = some (behindColon cs) := by
  have htoken : (behindName cs).next = (behindName cs).value := rfl
  rw [htoken]
  simp [value, behindName, behindColon, emitAt, roll, emitNext, emit, inFlow, mark,
    Mark.origin, Cursor.skip]

/-- A name and a colon in the first column open a block with a mapping. -/
theorem reads_start {cs : List Char}
    (h : Lexes 0 false [.blockMappingStart, .key, .scalar .plain "v", .value] (' ' :: cs) all) :
    (start ('v' :: ':' :: ' ' :: cs)).Reads all := by
  have hinside : Inside (behindColon cs) 0
      [.blockMappingStart, .key, .scalar .plain "v", .value] (' ' :: cs) :=
    { fuel := by simp [behindColon]
      rest := rfl
      index := Nat.succ_pos 1
      column := Nat.succ_pos 1
      lexemes := rfl
      keys := rfl
      optional := by simp [behindColon, Optional]
      indent := rfl
      outerIndents := rfl }
  refine reads_of_next (next_start cs) ?_ ?_ (reads_of_next (next_behindName cs) ?_ ?_
    (h _ hinside rfl))
  · simp [behindName, lexemes, nameToken]
  · simp [behindName, start]
  · simp [hinside.lexemes]
  · simp [behindName, behindColon]

end Line

end Lexer

/-- The line of an entry `v` with a document in compact notation. -/
def entryLine (v : Json) : List Char := 'v' :: ':' :: ' ' :: Json.print v

/-- The lexemes of a document with one entry, whose value is in compact notation. -/
def lineLexemes (key : String) (v : Json) : List Lexeme :=
  [.blockMappingStart, .key, .scalar .plain key, .value] ++ lexemesOf v ++ [.blockEnd, .streamEnd]

/-- Nothing is passed over in front of the line. -/
theorem tokens_entryLine_eq (v : Json) :
    tokens (entryLine v) =
      if (entryLine v).all isPermitted then
        (Lexer.start (entryLine v)).run ((entryLine v).length + 2)
      else none := rfl

/-- The line of a list or a mapping whose texts are carried has these tokens. -/
theorem tokens_entryLine {v : Json} (hv : CarriedValue v) (hkind : ¬ v.IsScalar) :
    ∃ ts, tokens (entryLine v) = some ts ∧ ts.map Token.lexeme = lineLexemes "v" v := by
  have hline : Lexer.Lexes 0 false [.blockMappingStart, .key, .scalar .plain "v", .value]
      (Json.print v ++ []) (lineLexemes "v" v) :=
    Lexer.lexes_collection hv hkind Lexer.lexes_end
  rw [List.append_nil] at hline
  obtain ⟨ts, hts, hrun⟩ := Lexer.reads_start (Lexer.lexes_space hline)
  have hpermitted : (entryLine v).all isPermitted = true := by
    rw [List.all_eq_true, entryLine, List.forall_mem_cons, List.forall_mem_cons,
      List.forall_mem_cons]
    exact ⟨by decide, by decide, by decide, isPermitted_of_mem_print v hv⟩
  refine ⟨ts, ?_, hts⟩
  rw [tokens_entryLine_eq, if_pos hpermitted]
  exact hrun _ (Nat.lt_add_of_pos_right Nat.two_pos)

end ClusterProbe.Yaml
