import ClusterProbe.Text.Blank
import ClusterProbe.Text.Pieces

/-!
# Trimming and cutting a text

What is left of a text when the blanks around it are taken away, and the pieces of a text between
its separators. Main statement: pieces that hold no separator are found again where they are written
with a separator between each two, and no others are.
-/

namespace ClusterProbe.Text

/-- What is left of a text after trimming, and the blanks around it. -/
theorem exists_eq_append_trim (cs : List Char) :
    ∃ front back, cs = front ++ trim cs ++ back ∧ (∀ c ∈ front, isBlank c = true) ∧
      ∀ c ∈ back, isBlank c = true := by
  have hfront := List.takeWhile_append_dropWhile (p := isBlank) (l := cs)
  have hback := congrArg List.reverse
    (List.takeWhile_append_dropWhile (p := isBlank) (l := (trimStart cs).reverse))
  rw [List.reverse_append, List.reverse_reverse] at hback
  refine ⟨cs.takeWhile isBlank, ((trimStart cs).reverse.takeWhile isBlank).reverse, ?_, ?_, ?_⟩
  · rw [List.append_assoc, trim, trimEnd, hback]
    exact hfront.symm
  · intro c hc
    exact List.all_eq_true.mp List.all_takeWhile c hc
  · intro c hc
    exact List.all_eq_true.mp List.all_takeWhile c (List.mem_reverse.mp hc)

/-- Trimming takes away the blanks around a text without blanks. -/
theorem trim_append {front path back : List Char} (hf : ∀ c ∈ front, isBlank c = true)
    (hne : path ≠ []) (hp : ∀ c ∈ path, isBlank c = false) (hb : ∀ c ∈ back, isBlank c = true) :
    trim (front ++ path ++ back) = path := by
  have hstart {x y : List Char} (hx : x ≠ []) (h : ∀ c ∈ x, isBlank c = false) :
      (x ++ y).dropWhile isBlank = x ++ y := by
    cases x with
    | nil => exact absurd rfl hx
    | cons c r =>
      rw [List.cons_append, List.dropWhile_cons_of_neg]
      rw [h c List.mem_cons_self]
      exact Bool.false_ne_true
  rw [trim, trimStart, List.append_assoc, List.dropWhile_append_of_pos hf, hstart hne hp, trimEnd,
    List.reverse_append, List.dropWhile_append_of_pos fun c hc ↦ hb c (List.mem_reverse.mp hc)]
  have hr := hstart (x := path.reverse) (y := []) (by simpa using hne)
    fun c hc ↦ hp c (List.mem_reverse.mp hc)
  rw [List.append_nil] at hr
  rw [hr, List.reverse_reverse]

/-- Pieces with a separator between each two are one piece and separators with a piece behind. -/
theorem join_cons (sep : Char) (first : List Char) (rest : List (List Char)) :
    join [sep] (first :: rest) = first ++ rest.flatMap (sep :: ·) := by
  induction rest generalizing first with
  | nil => exact (List.append_nil first).symm
  | cons p ps ih =>
    rw [join, ih, List.append_assoc, List.flatMap_cons]
    rfl

/-- Pieces with a separator behind each are pieces with one between each two, and one at the end. -/
theorem flatMap_append_sep (sep : Char) {ps : List (List Char)} (h : ps ≠ []) :
    ps.flatMap (· ++ [sep]) = join [sep] ps ++ [sep] := by
  induction ps with
  | nil => exact absurd rfl h
  | cons p rest ih =>
    cases rest with
    | nil => simp [join]
    | cons q qs =>
      rw [List.flatMap_cons, ih (List.cons_ne_nil q qs), join]
      simp only [List.append_assoc]

/-- A text without separators is one piece. -/
theorem pieces_of_notMem {sep : Char} {first : List Char} (h : sep ∉ first) :
    pieces sep first = [first] := by
  induction first with
  | nil => rfl
  | cons c r ih =>
    obtain ⟨hc, hr⟩ := List.ne_and_not_mem_of_not_mem_cons h
    rw [pieces, if_neg hc.symm, ih hr]

/-- A separator between two texts separates their pieces. -/
theorem pieces_append_sep (sep : Char) (a b : List Char) :
    pieces sep (a ++ sep :: b) = pieces sep a ++ pieces sep b := by
  induction a with
  | nil => simp [pieces]
  | cons c r ih =>
    rw [List.cons_append, pieces, pieces]
    split
    · rw [ih]
      rfl
    · rw [ih]
      cases hp : pieces sep r with
      | nil => exact absurd hp (pieces_ne_nil sep r)
      | cons p ps => rfl

/-- A text without separators is the first piece where a separator stands behind it. -/
theorem pieces_append_cons {sep : Char} {first : List Char} (h : sep ∉ first)
    (rest : List Char) : pieces sep (first ++ sep :: rest) = first :: pieces sep rest := by
  rw [pieces_append_sep, pieces_of_notMem h]
  rfl

/-- Pieces without separators are found again. -/
theorem pieces_append_flatMap {sep : Char} {first : List Char} {rest : List (List Char)}
    (hf : sep ∉ first) (hr : ∀ p ∈ rest, sep ∉ p) :
    pieces sep (first ++ rest.flatMap (sep :: ·)) = first :: rest := by
  induction rest generalizing first with
  | nil =>
    rw [List.flatMap_nil, List.append_nil]
    exact pieces_of_notMem hf
  | cons p ps ih =>
    have hp := ih (hr p List.mem_cons_self) fun q hq ↦ hr q (List.mem_cons_of_mem p hq)
    rw [List.flatMap_cons, List.cons_append, pieces_append_cons hf, hp]

/-- No piece holds a separator. -/
theorem notMem_of_mem_pieces {sep : Char} {cs p : List Char} (h : p ∈ pieces sep cs) : sep ∉ p := by
  induction cs generalizing p with
  | nil =>
    obtain rfl := List.mem_singleton.mp h
    exact List.not_mem_nil
  | cons c r ih =>
    rw [pieces] at h
    split at h
    · rcases List.mem_cons.mp h with rfl | h
      · exact List.not_mem_nil
      · exact ih h
    next hc =>
      cases hp : pieces sep r with
      | nil => exact absurd hp (pieces_ne_nil sep r)
      | cons q qs =>
        rw [hp] at h
        rcases List.mem_cons.mp h with rfl | h
        · have hq : sep ∉ q := ih (hp ▸ List.mem_cons_self)
          exact List.not_mem_cons_of_ne_of_not_mem (Ne.symm hc) hq
        · exact ih (hp ▸ List.mem_cons_of_mem q h)

/-- The pieces of a text are the texts without separators that it is written with. -/
theorem pieces_eq_iff {sep : Char} {cs : List Char} {ps : List (List Char)} :
    pieces sep cs = ps ↔ ps ≠ [] ∧ (∀ p ∈ ps, sep ∉ p) ∧ join [sep] ps = cs := by
  constructor
  · rintro rfl
    exact ⟨pieces_ne_nil sep cs, fun p hp ↦ notMem_of_mem_pieces hp, join_pieces sep cs⟩
  · rintro ⟨hne, hps, rfl⟩
    cases ps with
    | nil => exact absurd rfl hne
    | cons first rest =>
      obtain ⟨hfirst, hrest⟩ := List.forall_mem_cons.mp hps
      rw [join_cons, pieces_append_flatMap hfirst hrest]

/-- There is one piece more than there are separators. -/
theorem length_pieces (sep : Char) (cs : List Char) :
    (pieces sep cs).length = cs.count sep + 1 := by
  induction cs with
  | nil => rfl
  | cons c r ih =>
    by_cases hc : c = sep
    · subst hc
      rw [pieces, if_pos rfl, List.length_cons, ih, List.count_cons_self]
    · rw [pieces, if_neg hc, List.count_cons_of_ne hc, ← ih]
      cases hp : pieces sep r with
      | nil => exact absurd hp (pieces_ne_nil sep r)
      | cons p ps => rfl

/-- The lines that a text is made of: texts without line feeds that come to it with a line feed
between each two. -/
structure LinesOf (text : String) (parts : List String) : Prop where
  ne_nil : parts ≠ []
  noLineFeed : ∀ part ∈ parts, '\n' ∉ part.toList
  joined : joinWith "\n" parts = text

/-- The lines of a text are the only ones that it is made of. -/
theorem lines_eq_iff {text : String} {parts : List String} :
    lines text = parts ↔ LinesOf text parts := by
  have hpieces : lines text = parts ↔ pieces '\n' text.toList = parts.map String.toList := by
    constructor
    · rintro rfl
      simp [lines]
    · intro h
      simp [lines, h]
  have hjoined : join ['\n'] (parts.map String.toList) = text.toList ↔
      joinWith "\n" parts = text := by
    rw [joinWith, ← String.toList_inj, String.toList_ofList]
    rfl
  rw [hpieces, pieces_eq_iff, hjoined]
  constructor
  · rintro ⟨hne, hfeeds, hjoin⟩
    exact ⟨by simpa using hne, by simpa using hfeeds, hjoin⟩
  · intro h
    exact ⟨by simpa using h.ne_nil, by simpa using h.noLineFeed, h.joined⟩

theorem linesOf_lines (text : String) : LinesOf text (lines text) := lines_eq_iff.mp rfl

/-- A text has one line more than it has line feeds. -/
theorem length_lines (text : String) : (lines text).length = text.toList.count '\n' + 1 := by
  rw [lines, List.length_map, length_pieces]

/-- Lines with a line feed behind each are lines with one between each two, and one at the end. -/
theorem join_lineFeeds {texts : List String} (h : texts ≠ []) :
    String.join (texts.map (· ++ "\n")) = joinWith "\n" texts ++ "\n" := by
  have hlines : texts.map String.toList ≠ [] := by simpa using h
  apply String.toList_inj.mp
  rw [String.toList_join, List.flatMap_map, String.toList_append, joinWith, String.toList_ofList]
  have hjoin := flatMap_append_sep '\n' hlines
  rw [List.flatMap_map] at hjoin
  simpa using hjoin

end ClusterProbe.Text
