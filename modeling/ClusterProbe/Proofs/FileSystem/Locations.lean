import Mathlib.Data.List.Basic
import ClusterProbe.FileSystem
import ClusterProbe.HomeDir
import ClusterProbe.Proofs.Text.Cutting

/-!
# Where paths lead

A path is followed name by name through directories that are there. Where it leads, if it leads
anywhere, is told by its names alone: there are no links. Main statements: a path that is followed
successfully leads to its place, and a relative path that never names the directory above leads from
a directory to something below it.
-/

namespace ClusterProbe

namespace Path

variable {p : Path} {q : String}

/-- A relative path that never names the directory above. -/
structure Descends (p : Path) : Prop where
  relative : p.isAbsolute = false
  notAbove : ".." ∉ p.names

/-- A text that names one thing in a directory. -/
structure IsFileName (q : String) : Prop where
  ne_empty : q ≠ ""
  noSlash : '/' ∉ q.toList
  ne_here : q ≠ "."
  ne_above : q ≠ ".."

/-- The names on both sides of a slash. -/
theorem names_of_toList_eq {a b : List Char} (h : p.text.toList = a ++ '/' :: b) :
    p.names = (Path.mk (String.ofList a)).names ++ (Path.mk (String.ofList b)).names := by
  simp only [names, h, String.toList_ofList, Text.pieces_append_sep, List.filter_append,
    List.map_append]

theorem names_of_text_empty (h : p.text = "") : p.names = [] := by
  rw [names, h]
  rfl

/-- A file name is the only name of its path. -/
theorem IsFileName.names_eq (h : IsFileName q) : (Path.mk q).names = [q] := by
  have hlist : q.toList.isEmpty = false := by simpa using h.ne_empty
  rw [names, Text.pieces_of_notMem h.noSlash, List.filter_cons_of_pos (by rw [hlist]; rfl)]
  simp

/-- A file name leads down. -/
theorem IsFileName.descends (h : IsFileName q) : (Path.mk q).Descends := by
  refine ⟨?_, ?_⟩
  · rw [isAbsolute, beq_eq_false_iff_ne]
    exact fun hhead ↦ h.noSlash (List.mem_of_mem_head? hhead)
  · rw [h.names_eq]
    simpa using h.ne_above.symm

/-- A text without slashes that is longer than two characters is a file name. -/
theorem isFileName_append {extension : String} (h : '/' ∉ q.toList)
    (hslash : '/' ∉ extension.toList) (hlength : 2 < extension.length) :
    IsFileName (q ++ extension) := by
  have hlong (short : String) (hshort : short.length ≤ 2) : q ++ extension ≠ short := by
    rintro rfl
    rw [String.length_append] at hshort
    omega
  refine ⟨hlong _ (by decide), ?_, hlong _ (by decide), hlong _ (by decide)⟩
  rw [String.toList_append, List.mem_append, not_or]
  exact ⟨h, hslash⟩

/-- A relative path that is joined to a path is put behind it, with a slash between the two unless
there is one already. -/
theorem join_cases (p : Path) (h : (Path.mk q).isAbsolute = false) :
    (p.text = "" ∧ p.join q = ⟨q⟩) ∨
      ∃ front, (p.text.toList = front ∧ front ≠ [] ∨ p.text.toList = front ++ ['/']) ∧
        (p.join q).text.toList = front ++ '/' :: q.toList := by
  unfold join
  rw [h, Bool.false_or]
  split
  next hempty => exact .inl ⟨String.isEmpty_iff.mp hempty, rfl⟩
  next hempty =>
    have hne : p.text.toList ≠ [] := by simpa using hempty
    split
    next hslash =>
      obtain ⟨front, hfront⟩ := List.getLast?_eq_some_iff.mp (beq_iff_eq.mp hslash)
      refine .inr ⟨front, .inr hfront, ?_⟩
      rw [String.toList_append, hfront, List.append_assoc]
      rfl
    · refine .inr ⟨p.text.toList, .inl ⟨rfl, hne⟩, ?_⟩
      rw [String.toList_append, String.toList_append, List.append_assoc]
      rfl

/-- A relative path is joined to a path by putting its names behind those of the path. -/
theorem names_join (p : Path) (h : (Path.mk q).isAbsolute = false) :
    (p.join q).names = p.names ++ (Path.mk q).names := by
  rcases join_cases p h with ⟨hempty, hjoin⟩ | ⟨front, hfront, hjoin⟩
  · rw [hjoin, names_of_text_empty hempty, List.nil_append]
  · rw [names_of_toList_eq hjoin, String.ofList_toList]
    rcases hfront with ⟨rfl, -⟩ | hfront
    · rw [String.ofList_toList]
    · rw [names_of_toList_eq hfront, names_of_text_empty (p := ⟨String.ofList []⟩) rfl,
        List.append_nil]

/-- A relative path starts where the path starts that it is joined to. -/
theorem isAbsolute_join (p : Path) (h : (Path.mk q).isAbsolute = false) :
    (p.join q).isAbsolute = p.isAbsolute := by
  rcases join_cases p h with ⟨hempty, hjoin⟩ | ⟨front, hfront, hjoin⟩
  · rw [hjoin, h, isAbsolute, hempty]
    rfl
  · rw [isAbsolute, isAbsolute, hjoin]
    rcases hfront with ⟨hfront, hne⟩ | hfront
    · rw [hfront]
      cases front with
      | nil => exact absurd rfl hne
      | cons c rest => rfl
    · rw [hfront]
      cases front <;> rfl

/-- The text of a path is in front of what is joined to it. -/
theorem exists_text_join (p : Path) (h : (Path.mk q).isAbsolute = false) :
    ∃ more, (p.join q).text = p.text ++ more := by
  rcases join_cases p h with ⟨hempty, hjoin⟩ | ⟨front, hfront, hjoin⟩
  · exact ⟨q, by rw [hjoin, hempty, String.empty_append]⟩
  · rcases hfront with ⟨rfl, -⟩ | hfront
    · exact ⟨String.ofList ('/' :: q.toList), String.toList_inj.mp (by rw [hjoin]; simp)⟩
    · exact ⟨q, String.toList_inj.mp (by rw [hjoin, String.toList_append, hfront]; simp)⟩

/-- What is joined to a path stands at its end. -/
theorem exists_toList_join (p : Path) (q : String) :
    ∃ front, (p.join q).text.toList = front ++ q.toList := by
  by_cases h : (Path.mk q).isAbsolute = true
  · exact ⟨[], by rw [join_of_isAbsolute p h]; rfl⟩
  · rcases join_cases p (eq_false_of_ne_true h) with ⟨-, hjoin⟩ | ⟨front, -, hjoin⟩
    · exact ⟨[], by rw [hjoin]; rfl⟩
    · exact ⟨front ++ ['/'], by rw [hjoin, List.append_assoc]; rfl⟩

/-- A path that ends with a file name asks for no directory. -/
theorem endsInSlash_join (p : Path) (h : IsFileName q) : (p.join q).endsInSlash = false := by
  obtain ⟨front, hfront⟩ := exists_toList_join p q
  have hne : q.toList ≠ [] := by simpa using h.ne_empty
  rw [endsInSlash, beq_eq_false_iff_ne, hfront, List.getLast?_append_of_ne_nil _ hne]
  exact fun hlast ↦ h.noSlash (List.mem_of_getLast? hlast)

/-- Behind the last slash of a text that ends with a name there is a file name. -/
theorem exists_names_append (q : String) {name : String} (hslash : '/' ∉ name.toList)
    (hlength : 2 < name.length) :
    ∃ front last, (Path.mk (q ++ name)).names = front ++ [last ++ name] ∧
      IsFileName (last ++ name) := by
  by_cases h : '/' ∈ q.toList
  · obtain ⟨b, a, hq, hb⟩ := List.eq_append_cons_of_mem (List.mem_reverse.mpr h)
    have htext : (Path.mk (q ++ name)).text.toList =
        a.reverse ++ '/' :: (String.ofList b.reverse ++ name).toList := by
      have hsplit : q.toList = a.reverse ++ '/' :: b.reverse := by
        simpa using congrArg List.reverse hq
      simp [hsplit]
    have hname : IsFileName (String.ofList b.reverse ++ name) :=
      isFileName_append (by simpa using hb) hslash hlength
    refine ⟨(Path.mk (String.ofList a.reverse)).names, String.ofList b.reverse, ?_, hname⟩
    rw [names_of_toList_eq htext, String.ofList_toList, hname.names_eq]
  · have hname := isFileName_append h hslash hlength
    exact ⟨[], q, hname.names_eq, hname⟩

end Path

namespace FileSystem

/-- Where a name leads from a location. -/
def after (loc : Location) (name : String) : Location :=
  if name = "." then loc else if name = ".." then loc.dropLast else loc ++ [name]

/-- The location that relative paths and absolute ones start from. -/
def origin (fs : FileSystem) (p : Path) : Location := if p.isAbsolute then [] else fs.workDir

/-- The place that a path names, with its dots resolved. -/
def place (fs : FileSystem) (p : Path) : Location := p.names.foldl after (fs.origin p)

/-- The locations inside a directory, at any depth. -/
def Below (fs : FileSystem) (p : Path) (loc : Location) : Prop := fs.place p <+: loc

variable {fs gs : FileSystem} {loc next : Location} {name : String} {p : Path}

/-- A directory can be entered by every name that is not too long. -/
theorem enter_eq_ok_iff :
    fs.enter loc name = .ok next ↔
      fs.entry? loc = some .directory ∧ next = after loc name ∧
        (name = "." ∨ name = ".." ∨ name.utf8ByteSize ≤ nameLimit) := by
  unfold enter after
  cases fs.entry? loc with
  | none => simp
  | some e =>
    cases e with
    | file content executable => simp
    | directory =>
      by_cases hdot : name = "."
      · simp [hdot, eq_comm]
      · by_cases hup : name = ".."
        · simp [hup, eq_comm]
        · by_cases hlong : nameLimit < name.utf8ByteSize
          · simp [hdot, hup, hlong, Nat.not_le.mpr hlong]
          · simp [hdot, hup, hlong, Nat.not_lt.mp hlong, eq_comm]

theorem walk_append (xs ys : List String) :
    fs.walk loc (xs ++ ys) = (fs.walk loc xs).bind fun loc ↦ fs.walk loc ys := by
  induction xs generalizing loc with
  | nil => rfl
  | cons x xs ih =>
    rw [List.cons_append, walk, walk]
    cases fs.enter loc x with
    | error e => rfl
    | ok next => exact ih

theorem walk_singleton : fs.walk loc [name] = fs.enter loc name := by
  rw [walk]
  cases fs.enter loc name <;> rfl

/-- Where names lead, if they lead anywhere, is told by the names. -/
theorem eq_foldl_of_walk {names : List String} (h : fs.walk loc names = .ok next) :
    next = names.foldl after loc := by
  induction names generalizing loc with
  | nil => exact (Except.ok.inj h).symm
  | cons name rest ih =>
    rw [walk] at h
    cases henter : fs.enter loc name with
    | error e =>
      rw [henter] at h
      cases h
    | ok between =>
      rw [henter] at h
      rw [List.foldl_cons, ← (enter_eq_ok_iff.mp henter).2.1]
      exact ih h

/-- Names lead through the same directories where there are more of them. -/
theorem walk_mono {names : List String}
    (hmono : ∀ loc, fs.entry? loc = some .directory → gs.entry? loc = some .directory)
    (h : fs.walk loc names = .ok next) : gs.walk loc names = .ok next := by
  induction names generalizing loc with
  | nil => exact h
  | cons name rest ih =>
    rw [walk] at h ⊢
    cases henter : fs.enter loc name with
    | error e =>
      rw [henter] at h
      cases h
    | ok between =>
      rw [henter] at h
      have hgs : gs.enter loc name = .ok between := by
        rw [enter_eq_ok_iff] at henter ⊢
        exact ⟨hmono loc henter.1, henter.2⟩
      rw [hgs]
      exact ih h

/-- A path leads somewhere if its text can be one of a path and its names lead there. -/
theorem locate_eq_ok_iff :
    fs.locate p = .ok loc ↔
      '\x00' ∉ p.text.toList ∧ p.text ≠ "" ∧ p.text.utf8ByteSize ≤ pathLimit ∧
        fs.walk (fs.origin p) p.names = .ok loc := by
  unfold locate origin
  by_cases hnul : '\x00' ∈ p.text.toList
  · simp [hnul]
  · by_cases hempty : p.text = ""
    · simp [hempty]
    · by_cases hlong : pathLimit < p.text.utf8ByteSize
      · simp [hnul, hempty, hlong, Nat.not_le.mpr hlong]
      · simp [hnul, hempty, hlong, Nat.not_lt.mp hlong]

/-- Where a relative path leads that is followed from the root. -/
theorem locate_of_names (names : List String) (hstart : fs.workDir = []) (hnames : p.names = names)
    (htext : '\x00' ∉ p.text.toList ∧ p.text ≠ "" ∧ p.text.utf8ByteSize ≤ pathLimit)
    (hwalk : fs.walk [] names = .ok loc) : fs.locate p = .ok loc := by
  refine locate_eq_ok_iff.mpr ⟨htext.1, htext.2.1, htext.2.2, ?_⟩
  rw [origin, hstart, ite_self, hnames, hwalk]

/-- A path that leads somewhere leads to its place. -/
theorem eq_place_of_locate (h : fs.locate p = .ok loc) : loc = fs.place p :=
  eq_foldl_of_walk (locate_eq_ok_iff.mp h).2.2.2

theorem origin_join {q : String} (h : (Path.mk q).isAbsolute = false) :
    fs.origin (p.join q) = fs.origin p := by
  rw [origin, origin, Path.isAbsolute_join p h]

/-- The place of a relative path is found from the place of the path it is joined to. -/
theorem place_join {q : String} (h : (Path.mk q).isAbsolute = false) :
    fs.place (p.join q) = (Path.mk q).names.foldl after (fs.place p) := by
  rw [place, place, origin_join h, Path.names_join p h, List.foldl_append]

theorem after_fileName {q : String} (h : Path.IsFileName q) : after loc q = loc ++ [q] := by
  rw [after, if_neg h.ne_here, if_neg h.ne_above]

/-- A name that is joined to a path leads somewhere if the path leads to a directory. -/
theorem locate_join_iff {q : String} (h : Path.IsFileName q) :
    fs.locate (p.join q) = .ok loc ↔
      '\x00' ∉ (p.join q).text.toList ∧ (p.join q).text.utf8ByteSize ≤ pathLimit ∧
        q.utf8ByteSize ≤ nameLimit ∧
        ∃ dir, fs.walk (fs.origin p) p.names = .ok dir ∧ fs.entry? dir = some .directory ∧
          loc = dir ++ [q] := by
  have hnames : (p.join q).names = p.names ++ [q] := by
    rw [Path.names_join p h.descends.relative, h.names_eq]
  rw [locate_eq_ok_iff, origin_join h.descends.relative, hnames, walk_append]
  constructor
  · rintro ⟨hnul, -, hlimit, hwalk⟩
    cases hdir : fs.walk (fs.origin p) p.names with
    | error e =>
      rw [hdir] at hwalk
      cases hwalk
    | ok dir =>
      rw [hdir, Except.bind, walk_singleton, enter_eq_ok_iff, after_fileName h] at hwalk
      obtain ⟨hentry, rfl, hsize⟩ := hwalk
      have hshort := (hsize.resolve_left h.ne_here).resolve_left h.ne_above
      exact ⟨hnul, hlimit, hshort, dir, rfl, hentry, rfl⟩
  · rintro ⟨hnul, hlimit, hsize, dir, hdir, hentry, rfl⟩
    refine ⟨hnul, fun hempty ↦ ?_, hlimit, ?_⟩
    · rw [Path.names_of_text_empty hempty] at hnames
      simp at hnames
    · rw [hdir, Except.bind, walk_singleton, enter_eq_ok_iff, after_fileName h]
      exact ⟨hentry, rfl, .inr (.inr hsize)⟩

/-- Names other than the one for the directory above lead further down. -/
theorem prefix_foldl_after {names : List String} (h : ".." ∉ names) :
    loc <+: names.foldl after loc := by
  induction names generalizing loc with
  | nil => exact List.prefix_refl loc
  | cons name rest ih =>
    obtain ⟨hname, hrest⟩ := List.ne_and_not_mem_of_not_mem_cons h
    refine List.IsPrefix.trans ?_ (ih hrest)
    rw [after, if_neg hname.symm]
    split
    · exact List.prefix_refl loc
    · exact List.prefix_append loc [name]

/-- A relative path that never names the directory above leads to something below the directory it
is joined to. -/
theorem below_join {q : String} (h : (Path.mk q).Descends) : fs.Below p (fs.place (p.join q)) := by
  rw [Below, place_join h.relative]
  exact prefix_foldl_after h.notAbove

/-- What ends with a name leads to something under that name, wherever it is. -/
theorem exists_place_join_append (fs : FileSystem) (p : Path) (q : String) {name : String}
    (hslash : '/' ∉ name.toList) (hlength : 2 < name.length) :
    ∃ dir last, fs.place (p.join (q ++ name)) = dir ++ [last ++ name] := by
  obtain ⟨front, last, hnames, hname⟩ := Path.exists_names_append q hslash hlength
  have hplace : ∃ before, (p.join (q ++ name)).names = before ++ [last ++ name] := by
    by_cases h : (Path.mk (q ++ name)).isAbsolute = true
    · exact ⟨front, by rw [Path.join_of_isAbsolute p h, hnames]⟩
    · refine ⟨p.names ++ front, ?_⟩
      rw [Path.names_join p (eq_false_of_ne_true h), hnames, List.append_assoc]
  obtain ⟨before, hbefore⟩ := hplace
  refine ⟨before.foldl after (fs.origin (p.join (q ++ name))), last, ?_⟩
  rw [place, hbefore, List.foldl_append, List.foldl_cons, List.foldl_nil, after_fileName hname]

/-- A file name that is joined to a path leads to that name in its place. -/
theorem place_join_fileName {q : String} (h : Path.IsFileName q) :
    fs.place (p.join q) = fs.place p ++ [q] := by
  rw [place_join h.descends.relative, h.names_eq, List.foldl_cons, List.foldl_nil, after_fileName h]

end FileSystem

end ClusterProbe
