import ClusterProbe.Proofs.Template.Expressions
import ClusterProbe.Proofs.Yaml.Scalars
import ClusterProbe.Yaml.Text

/-!
# Printed scalars are read back

Scalars in compact notation stand on one line, so reading them only moves the cursor along. Main
statements: a word is read as a plain scalar up to a comma or a closing bracket, and a text between
quotes is read as the text, if its characters are escaped or end no line.
-/

namespace ClusterProbe.Yaml

namespace Cursor

variable {c : Cursor}

theorem skip_zero (c : Cursor) : c.skip 0 = c := rfl

@[simp] theorem rest_skip (n : Nat) (c : Cursor) : (c.skip n).rest = c.rest.drop n := rfl

@[simp] theorem index_skip (n : Nat) (c : Cursor) :
    (c.skip n).mark.index = c.mark.index + n := rfl

@[simp] theorem line_skip (n : Nat) (c : Cursor) : (c.skip n).mark.line = c.mark.line := rfl

@[simp] theorem column_skip (n : Nat) (c : Cursor) :
    (c.skip n).mark.column = c.mark.column + n := rfl

@[simp] theorem skip_skip (m n : Nat) (c : Cursor) : (c.skip m).skip n = c.skip (m + n) := by
  simp [skip, Nat.add_assoc]

/-- What is behind a text that the cursor passes over. -/
theorem rest_skip_of_append {a b : List Char} (h : c.rest = a ++ b) :
    (c.skip a.length).rest = b := by
  rw [rest_skip, h, List.drop_left]

/-- No document marker stands within a line. -/
theorem atDocumentMarker_of_column (h : 0 < c.mark.column) : c.atDocumentMarker = false := by
  simp [atDocumentMarker, atMarker, Nat.pos_iff_ne_zero.mp h]

end Cursor

/-- A character that comes back from between quotes: it is escaped there, or the document may hold
it and it ends no line. -/
def isCarried (c : Char) : Bool := c.toNat < 0x20 || (isPermitted c && !isBreak c)

section Quoted

variable {c : Cursor} {x : Char} {fuel : Nat} {text more : List Char}

/-- What is written for a control character by its code point is read as it. -/
theorem readEscape_hexPair (hx : x.toNat < 0x20) :
    readEscape ('u' :: '0' :: '0' :: (Json.hexPair x.toNat ++ more)) = some (x, 5) := by
  have hnumber : ∀ n < 0x20,
      hexNumber? 4 ('0' :: '0' :: Json.hexPair n) = some n ∧
        Text.scalarValue? n = some (Char.ofNat n) := by
    decide
  have htake : hexNumber? 4 ('0' :: '0' :: (Json.hexPair x.toNat ++ more)) =
      hexNumber? 4 ('0' :: '0' :: Json.hexPair x.toNat) := rfl
  obtain ⟨hhex, hpoint⟩ := hnumber x.toNat hx
  rw [readEscape, htake, hhex]
  simp only [Option.bind_eq_bind, Option.bind_some, hpoint, Char.ofNat_toNat]

/-- A character is written as an escape that is read as it, or stands for itself. -/
theorem printChar_cases (x : Char) :
    (∃ y r, Json.printChar x = '\\' :: y :: r ∧ isBreak y = false ∧
        (∀ z ∈ y :: r, isPermitted z = true) ∧
        ∀ more, readEscape (y :: r ++ more) = some (x, r.length + 1)) ∨
      (Json.printChar x = [x] ∧ x ≠ '\"' ∧ x ≠ '\\' ∧ 0x20 ≤ x.toNat) := by
  unfold Json.printChar
  split
  next h => exact .inl ⟨'\"', [], rfl, rfl, List.all_eq_true.mp rfl, fun more ↦ by rw [h]; rfl⟩
  next hquote =>
    split
    next h => exact .inl ⟨'\\', [], rfl, rfl, List.all_eq_true.mp rfl, fun more ↦ by rw [h]; rfl⟩
    next hslash =>
      split
      next h => exact .inl ⟨'b', [], rfl, rfl, List.all_eq_true.mp rfl, fun more ↦ by rw [h]; rfl⟩
      next =>
        split
        next h => exact .inl ⟨'f', [], rfl, rfl, List.all_eq_true.mp rfl, fun more ↦ by rw [h]; rfl⟩
        next =>
          split
          next h => exact .inl ⟨'n', [], rfl, rfl, List.all_eq_true.mp rfl, fun more ↦ by rw [h]; rfl⟩
          next =>
            split
            next h => exact .inl ⟨'r', [], rfl, rfl, List.all_eq_true.mp rfl, fun more ↦ by rw [h]; rfl⟩
            next =>
              split
              next h => exact .inl ⟨'t', [], rfl, rfl, List.all_eq_true.mp rfl, fun more ↦ by rw [h]; rfl⟩
              next =>
                split
                next hcontrol =>
                  have hpermitted : ∀ n < 0x20,
                      ('u' :: '0' :: '0' :: Json.hexPair n).all isPermitted = true := by
                    decide
                  exact .inl ⟨'u', '0' :: '0' :: Json.hexPair x.toNat, rfl, rfl,
                    List.all_eq_true.mp (hpermitted _ hcontrol), fun more ↦ readEscape_hexPair hcontrol⟩
                next hcontrol => exact .inr ⟨rfl, hquote, hslash, not_lt.mp hcontrol⟩

/-- What stands for itself between quotes and is no space is part of a word. -/
theorem not_gap_of_isCarried (hx : isCarried x = true) (hspace : x ≠ ' ') (hge : 0x20 ≤ x.toNat) :
    isGap x = false ∧ isBreak x = false := by
  have htab : x ≠ '\t' := by
    rintro rfl
    revert hge
    decide
  have hcontrol : decide (x.toNat < 0x20) = false := by simpa using hge
  rw [isCarried, hcontrol, Bool.false_or, Bool.and_eq_true, Bool.not_eq_true'] at hx
  exact ⟨by simp [isGap, hspace, htab], hx.2⟩

/-- One character of a word between quotes. -/
theorem quotedWord_step (hx : isCarried x = true) (hspace : x ≠ ' ')
    (hrest : c.rest = Json.printChar x ++ more) :
    quotedWord true (fuel + 1) text c =
      quotedWord true fuel (text ++ [x]) (c.skip (Json.printChar x).length) := by
  rcases printChar_cases x with ⟨y, r, hprint, hbreak, -, hescape⟩ | ⟨hprint, hquote, hslash, hge⟩
  · rw [hprint] at hrest ⊢
    have hline : atLineEnd (y :: r ++ more) = false := hbreak
    have hempty : (y :: r ++ more).isEmpty = false := rfl
    have hread := hescape more
    replace hrest : c.rest = '\\' :: (y :: r ++ more) := hrest
    generalize y :: r ++ more = tail at hrest hline hempty hread
    rw [quotedWord, hrest]
    simp [isGap, isBreak, hline, hempty, hread]
  · obtain ⟨hgap, hbreak⟩ := not_gap_of_isCarried hx hspace hge
    rw [hprint] at hrest ⊢
    rw [quotedWord, hrest]
    simp [hgap, hbreak, hquote, hslash]

/-- A word between quotes goes up to a space or the closing quote. -/
theorem quotedWord_eq {word : List Char} {y : Char} (text : List Char)
    (hword : ∀ x ∈ word, isCarried x = true ∧ x ≠ ' ') (hy : y = ' ' ∨ y = '\"')
    (hfuel : word.length < fuel) (hrest : c.rest = word.flatMap Json.printChar ++ y :: more) :
    quotedWord true fuel text c =
      some (text ++ word, false, c.skip (word.flatMap Json.printChar).length) := by
  induction word generalizing fuel text c with
  | nil =>
    obtain ⟨n, rfl⟩ := Nat.exists_eq_add_of_lt hfuel
    rw [quotedWord, hrest]
    rcases hy with rfl | rfl <;> simp [isGap, isBreak, Cursor.skip_zero]
  | cons x rest ih =>
    obtain ⟨hx, hothers⟩ := List.forall_mem_cons.mp hword
    obtain ⟨n, rfl⟩ : ∃ n, fuel = n + 1 := ⟨fuel - 1, by simp at hfuel; omega⟩
    rw [List.flatMap_cons, List.append_assoc] at hrest
    rw [quotedWord_step hx.1 hx.2 hrest, ih _ hothers (by simpa using hfuel)
      (Cursor.rest_skip_of_append hrest), Cursor.skip_skip, List.append_assoc,
      List.flatMap_cons, List.length_append]
    rfl

/-- Spaces on one line stand for themselves. -/
theorem readFold_spaces {n : Nat} {y : Char} (blanks : List Char) (hy : isGap y = false)
    (hbreak : isBreak y = false) (hfuel : n < fuel)
    (hrest : c.rest = List.replicate n ' ' ++ y :: more) :
    readFold 0 fuel ⟨blanks, [], [], false⟩ c =
      some (⟨blanks ++ List.replicate n ' ', [], [], false⟩, c.skip n) := by
  induction n generalizing fuel c blanks with
  | zero =>
    obtain ⟨m, rfl⟩ := Nat.exists_eq_add_of_lt hfuel
    rw [readFold, hrest]
    simp [hy, hbreak, Cursor.skip_zero]
  | succ n ih =>
    obtain ⟨m, rfl⟩ : ∃ m, fuel = m + 1 := ⟨fuel - 1, by omega⟩
    rw [List.replicate_succ, List.cons_append] at hrest
    have hnext : (c.skip 1).rest = List.replicate n ' ' ++ y :: more := by simp [hrest]
    rw [readFold, hrest]
    simp only [isGap, decide_true, Bool.true_or, if_true, Bool.false_eq_true, if_false]
    rw [ih _ (by omega) hnext]
    simp [List.replicate_succ, Nat.add_comm]

/-- A text starts with a word and spaces behind it; if there are none, it is that word. -/
theorem exists_word (cs : List Char) :
    ∃ word n rest, cs = word ++ (List.replicate n ' ' ++ rest) ∧ (∀ x ∈ word, x ≠ ' ') ∧
      (∀ x ∈ rest.head?, x ≠ ' ') ∧ (n = 0 → rest = []) := by
  have hword := List.takeWhile_append_dropWhile (p := (· ≠ ' ')) (l := cs)
  have hall (x : Char) (hx : x ∈ cs.takeWhile (· ≠ ' ')) : x ≠ ' ' := by
    simpa using List.all_eq_true.mp List.all_takeWhile x hx
  generalize cs.takeWhile (· ≠ ' ') = word at hword hall
  have hbehind : ∀ x ∈ (cs.dropWhile (· ≠ ' ')).head?, x = ' ' := by
    intro x hx
    have h := List.head?_dropWhile_not (· ≠ ' ') cs
    rw [Option.mem_def.mp hx] at h
    simpa using h
  generalize cs.dropWhile (· ≠ ' ') = behind at hword hbehind
  have hspaces := List.takeWhile_append_dropWhile (p := (· = ' ')) (l := behind)
  have hreplicate : behind.takeWhile (· = ' ') =
      List.replicate (behind.takeWhile (· = ' ')).length ' ' :=
    List.eq_replicate_of_mem fun x hx ↦ by simpa using List.all_eq_true.mp List.all_takeWhile x hx
  refine ⟨word, (behind.takeWhile (· = ' ')).length, behind.dropWhile (· = ' '), ?_, hall, ?_, ?_⟩
  · rw [← hreplicate, hspaces, hword]
  · intro x hx
    have h := List.head?_dropWhile_not (· = ' ') behind
    rw [Option.mem_def.mp hx] at h
    simpa using h
  · intro hzero
    cases behind with
    | nil => rfl
    | cons x r =>
      have hx : x = ' ' := hbehind x rfl
      simp [hx] at hzero

/-- Behind the spaces in a text between quotes neither a blank nor a line break follows. -/
theorem exists_head_of_rest {rest : List Char} (hrest : ∀ x ∈ rest, isCarried x = true)
    (hhead : ∀ x ∈ rest.head?, x ≠ ' ') (more : List Char) :
    ∃ y tail, rest.flatMap Json.printChar ++ '\"' :: more = y :: tail ∧ isGap y = false ∧
      isBreak y = false := by
  cases rest with
  | nil => exact ⟨'\"', more, rfl, rfl, rfl⟩
  | cons x others =>
    rw [List.flatMap_cons, List.append_assoc]
    rcases printChar_cases x with ⟨y, r, hprint, -, -⟩ | ⟨hprint, -, -, hge⟩
    · rw [hprint]
      exact ⟨'\\', _, rfl, rfl, rfl⟩
    · rw [hprint]
      obtain ⟨hgap, hbreak⟩ :=
        not_gap_of_isCarried (hrest x List.mem_cons_self) (hhead x rfl) hge
      exact ⟨x, _, rfl, hgap, hbreak⟩

/-- A text behind its opening quote is read up to the closing one. -/
theorem quotedFrom_eq {cs : List Char} (hcs : ∀ x ∈ cs, isCarried x = true)
    (hcolumn : 0 < c.mark.column) (hfuel : cs.length < fuel)
    (hrest : c.rest = cs.flatMap Json.printChar ++ '\"' :: more) :
    quotedFrom true fuel text c =
      some ⟨text ++ cs, (c.skip ((cs.flatMap Json.printChar).length + 1)).mark,
        c.skip ((cs.flatMap Json.printChar).length + 1), false⟩ := by
  induction fuel generalizing cs text c with
  | zero => omega
  | succ fuel ih =>
    obtain ⟨word, n, rest, rfl, hword, hhead, hnil⟩ := exists_word cs
    obtain ⟨hcarried, hbehind⟩ := List.forall_mem_append.mp hcs
    obtain ⟨-, hothers⟩ := List.forall_mem_append.mp hbehind
    have hmarker := Cursor.atDocumentMarker_of_column hcolumn
    have hempty : c.rest.isEmpty = false := by
      rw [hrest]
      simp
    have hspaces : (List.replicate n ' ').flatMap Json.printChar = List.replicate n ' ' := by
      clear hcs hfuel hrest hnil hbehind hempty
      induction n with
      | zero => rfl
      | succ n ih => rw [List.replicate_succ, List.flatMap_cons, ih]; rfl
    rw [List.flatMap_append, List.flatMap_append, hspaces] at hrest ⊢
    rw [List.append_assoc, List.append_assoc] at hrest
    have hquoted (x : Char) (hx : x ∈ word) : isCarried x = true ∧ x ≠ ' ' :=
      ⟨hcarried x hx, hword x hx⟩
    have hlength : word.length < fuel + 1 := by
      rw [List.length_append] at hfuel
      omega
    rw [quotedFrom, hmarker, hempty]
    simp only [Bool.or_self, Bool.false_eq_true, if_false]
    cases n with
    | zero =>
      -- The word is all there is, and the closing quote is behind it.
      obtain rfl := hnil rfl
      have hnext := Cursor.rest_skip_of_append hrest
      rw [quotedWord_eq [] hquoted (.inr rfl) hlength hrest]
      simp only [Option.bind_eq_bind, Option.bind_some, List.nil_append, Cursor.isAt, hnext,
        List.replicate_zero, List.flatMap_nil, List.append_nil, List.head?_cons, beq_self_eq_true,
        if_true, Cursor.skip_skip]
    | succ n =>
      have hnext := Cursor.rest_skip_of_append hrest
      obtain ⟨y, tail, htail, hgap, hbreak⟩ := exists_head_of_rest hothers hhead more
      rw [htail] at hnext
      have hfold := readFold_spaces [] hgap hbreak
        (show n + 1 < fuel + 1 by simp at hfuel; omega) hnext
      have hlast := Cursor.rest_skip_of_append hnext
      rw [List.length_replicate, ← htail] at hlast
      have hat : (c.skip (word.flatMap Json.printChar).length).isAt '\"' = false := by
        rw [Cursor.isAt, hnext]
        rfl
      have hcolumn' :
          0 < ((c.skip (word.flatMap Json.printChar).length).skip (n + 1)).mark.column := by
        rw [Cursor.column_skip, Cursor.column_skip]
        omega
      rw [quotedWord_eq [] hquoted (.inl rfl) hlength hrest]
      simp only [Option.bind_eq_bind, Option.bind_some, List.nil_append, if_true, hat,
        Bool.false_eq_true, if_false, Fold.none, hfold, Fold.text, Bool.not_false]
      rw [ih hothers hcolumn' (by simp at hfuel; omega) hlast]
      simp [Nat.add_assoc]

/-- A printed text is read back where its characters come back from between quotes. -/
theorem readQuoted_printString {t : String} (ht : ∀ x ∈ t.toList, isCarried x = true)
    (hfuel : t.toList.length < fuel) (hrest : c.rest = Json.printString t ++ more) :
    readQuoted fuel true c =
      some ⟨t.toList, (c.skip (Json.printString t).length).mark,
        c.skip (Json.printString t).length, false⟩ := by
  have hopen : (c.skip 1).rest = t.toList.flatMap Json.printChar ++ '\"' :: more := by
    rw [Cursor.rest_skip, hrest, Json.printString, List.append_assoc]
    rfl
  have hlength : (Json.printString t).length =
      1 + ((t.toList.flatMap Json.printChar).length + 1) := by
    simp [Json.printString]
    omega
  rw [readQuoted, quotedFrom_eq ht (by rw [Cursor.column_skip]; omega) hfuel hopen,
    List.nil_append, Cursor.skip_skip, hlength]

end Quoted

section Plain

variable {c : Cursor} {x y : Char} {fuel : Nat} {word more : List Char}

/-- What ends a plain scalar between brackets. -/
def isFlowEnd (y : Char) : Prop := y = ',' ∨ y = ']' ∨ y = '}'

/-- What a character of a word is not. -/
theorem wordChar_ne (hx : x.isAlphanum = true ∨ x ∈ ['.', '+', '-']) :
    isGap x = false ∧ isBreak x = false ∧ x ≠ ':' ∧ x ≠ '#' ∧
      [',', '[', ']', '{', '}'].contains x = false := by
  rcases hx with hx | hx
  · have hn := toNat_of_isAlphanum hx
    have hne (z : Char) (hz : z.isAlphanum = false) : x ≠ z := by
      rintro rfl
      rw [hx] at hz
      cases hz
    refine ⟨?_, ?_, hne ':' rfl, hne '#' rfl, ?_⟩
    · simp [isGap, hne ' ' rfl, hne '\t' rfl]
    · simp [isBreak, hne '\n' rfl, hne '\r' rfl, hne '\u0085' rfl, hne '\u2028' rfl,
        hne '\u2029' rfl]
    · simp [hne ',' rfl, hne '[' rfl, hne ']' rfl, hne '{' rfl, hne '}' rfl]
  · simp only [List.mem_cons, List.not_mem_nil, or_false] at hx
    rcases hx with rfl | rfl | rfl <;> decide

/-- A word is a plain scalar up to a comma or a closing bracket. -/
theorem plainWord_eq (hword : ∀ x ∈ word, x.isAlphanum = true ∨ x ∈ ['.', '+', '-'])
    (hy : isFlowEnd y) : plainWord true (word ++ y :: more) = some word := by
  induction word with
  | nil => rcases hy with rfl | rfl | rfl <;> simp [plainWord, isGap, isBreak]
  | cons x rest ih =>
    obtain ⟨hx, hrest⟩ := List.forall_mem_cons.mp hword
    obtain ⟨hgap, hbreak, hcolon, -, hbracket⟩ := wordChar_ne hx
    rw [List.cons_append, plainWord, hgap, hbreak, ih hrest, hbracket]
    simp [hcolon]

/-- A word between brackets is read as a plain scalar. -/
theorem readPlain_word {least : Nat} (hword : IsWord word) (hy : isFlowEnd y)
    (hcolumn : 0 < c.mark.column) (hfuel : 0 < fuel) (hrest : c.rest = word ++ y :: more) :
    readPlain fuel true least c =
      some ⟨word, (c.skip word.length).mark, c.skip word.length, false⟩ := by
  obtain ⟨n, rfl⟩ : ∃ n, fuel = n + 1 := ⟨fuel - 1, by omega⟩
  obtain ⟨z, others, hz⟩ : ∃ z others, word = z :: others := by
    obtain ⟨d, r, -, rfl | rfl⟩ := hword.starts
    · exact ⟨d, r, rfl⟩
    · exact ⟨'-', d :: r, rfl⟩
  have hcomment : c.isAt '#' = false := by
    have hne := (wordChar_ne (hword.chars z (by rw [hz]; exact List.mem_cons_self))).2.2.2.1
    rw [Cursor.isAt, hrest, hz]
    simpa using hne
  have hend : atWordEnd (c.skip word.length).rest = false := by
    rw [Cursor.rest_skip_of_append hrest]
    rcases hy with rfl | rfl | rfl <;> rfl
  have hempty : word.isEmpty = false := by rw [hz]; rfl
  rw [readPlain, plainFrom, Cursor.atDocumentMarker_of_column hcolumn, hcomment, hrest,
    plainWord_eq hword.chars hy]
  simp only [Option.bind_eq_bind, Option.bind_some, hempty, hend, Fold.none, Fold.text,
    Bool.or_self, Bool.false_and, Bool.not_false, Bool.false_eq_true, if_false, if_true,
    List.nil_append]

end Plain

end ClusterProbe.Yaml
