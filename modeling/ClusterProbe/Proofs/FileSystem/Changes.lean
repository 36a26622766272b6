import ClusterProbe.Proofs.FileSystem.Locations

/-!
# What operations change

Writing a file changes what stands at one location, and making directories changes nothing but adds
directories where nothing stood, on the way to the one that is asked for. Main statements: one for
each of the two operations, and that a directory whose parent is there is made by itself.
-/

namespace ClusterProbe

/-- A path and the paths of the directories in front of it. -/
inductive Path.Ancestor (p : Path) : Path → Prop
  | self : Ancestor p p
  | parent {q above : Path} (h : Ancestor p q) (habove : q.parent? = some above) : Ancestor p above

namespace FileSystem

variable {fs gs hs : FileSystem} {loc l : Location} {e : Entry} {p q : Path}

/-- The content of the file at a location. -/
def content? (fs : FileSystem) (loc : Location) : Option ByteArray :=
  match fs.entry? loc with
  | some (.file content _) => some content
  | _ => none

theorem entry?_nil : fs.entry? [] = some .directory := if_pos rfl

/-- What is put at a location stands there. -/
theorem entry?_put_self (h : loc ≠ []) : entry? (fs.put loc e) loc = some e := by
  unfold entry? put
  simp [h]

/-- What is put at a location changes no other one. -/
theorem entry?_put_of_ne (h : l ≠ loc) : entry? (fs.put loc e) l = fs.entry? l := by
  unfold entry? put
  split
  · rfl
  · rw [List.find?_cons_of_neg (by simpa using h.symm), List.find?_filter]
    congr 2
    funext x
    by_cases hx : x.1 = l
    · simp [hx, h]
    · simp [hx]

/-- The second file system has everything that the first one has, and beyond that only
directories. -/
structure Extends (fs gs : FileSystem) : Prop where
  workDir : gs.workDir = fs.workDir
  entry : ∀ loc, gs.entry? loc = fs.entry? loc ∨
    fs.entry? loc = none ∧ gs.entry? loc = some .directory

namespace Extends

/-- What stands at a location stays there. -/
theorem entry?_of_some (h : Extends fs gs) (he : fs.entry? loc = some e) :
    gs.entry? loc = some e := by
  rcases h.entry loc with heq | ⟨hnone, _⟩
  · rw [heq, he]
  · rw [he] at hnone
    cases hnone

/-- Files are the same. -/
theorem content?_eq (h : Extends fs gs) (loc : Location) : gs.content? loc = fs.content? loc := by
  unfold content?
  rcases h.entry loc with heq | ⟨hnone, hdir⟩
  · rw [heq]
  · rw [hnone, hdir]

end Extends

theorem content?_put_self {content : ByteArray} {executable : Bool} (h : loc ≠ []) :
    (fs.put loc (.file content executable)).content? loc = some content := by
  rw [content?, entry?_put_self h]

theorem content?_put_of_ne (h : l ≠ loc) : (fs.put loc e).content? l = fs.content? l := by
  rw [content?, entry?_put_of_ne h]
  rfl

theorem origin_congr (h : gs.workDir = fs.workDir) (p : Path) : gs.origin p = fs.origin p := by
  rw [origin, origin, h]

/-- The place of a path depends on nothing but where relative paths start. -/
theorem place_congr (h : gs.workDir = fs.workDir) (p : Path) : gs.place p = fs.place p := by
  rw [place, place, origin_congr h]

/-- A path leads to the same location where there are more directories. -/
theorem locate_mono (hwork : gs.workDir = fs.workDir)
    (hmono : ∀ loc, fs.entry? loc = some .directory → gs.entry? loc = some .directory)
    (h : fs.locate p = .ok loc) : gs.locate p = .ok loc := by
  rw [locate_eq_ok_iff] at h ⊢
  rw [origin_congr hwork]
  exact ⟨h.1, h.2.1, h.2.2.1, walk_mono hmono h.2.2.2⟩

/-- The second file system has everything that the first one has, and beyond that only directories
on the way to a path. -/
structure MadeWay (p : Path) (fs gs : FileSystem) : Prop where
  workDir : gs.workDir = fs.workDir
  entry : ∀ loc, gs.entry? loc = fs.entry? loc ∨
    fs.entry? loc = none ∧ gs.entry? loc = some .directory ∧ ∃ q, p.Ancestor q ∧ loc = fs.place q

namespace MadeWay

theorem refl (p : Path) (fs : FileSystem) : MadeWay p fs fs := ⟨rfl, fun _ ↦ .inl rfl⟩

theorem trans (h : MadeWay p fs gs) (k : MadeWay p gs hs) : MadeWay p fs hs := by
  refine ⟨k.workDir.trans h.workDir, fun loc ↦ ?_⟩
  rcases k.entry loc with hk | ⟨hnone, hk, q, hq, hloc⟩
  · rw [hk]
    exact h.entry loc
  · rcases h.entry loc with hh | ⟨-, hh, -⟩
    · rw [place_congr h.workDir] at hloc
      exact .inr ⟨hh.symm.trans hnone, hk, q, hq, hloc⟩
    · rw [hnone] at hh
      cases hh

theorem toExtends (h : MadeWay p fs gs) : Extends fs gs :=
  ⟨h.workDir, fun loc ↦ (h.entry loc).imp_right fun ⟨hnone, hdir, _⟩ ↦ ⟨hnone, hdir⟩⟩

end MadeWay

/-- A directory is made where nothing stands. -/
theorem makeDir_eq_ok_iff :
    fs.makeDir p = .ok gs ↔
      ∃ loc, fs.locate p = .ok loc ∧ fs.entry? loc = none ∧ gs = fs.put loc .directory := by
  unfold makeDir
  cases fs.locate p with
  | error e => simp [bind, Except.bind]
  | ok loc => cases hentry : fs.entry? loc <;> simp [bind, Except.bind, hentry, eq_comm]

/-- A directory on the way to a path is made. -/
theorem madeWay_makeDir (hq : p.Ancestor q) (h : fs.makeDir q = .ok gs) : MadeWay p fs gs := by
  obtain ⟨loc, hlocate, hnone, rfl⟩ := makeDir_eq_ok_iff.mp h
  have hne : loc ≠ [] := by
    rintro rfl
    rw [entry?_nil] at hnone
    cases hnone
  refine ⟨rfl, fun l ↦ ?_⟩
  by_cases hl : l = loc
  · subst hl
    exact .inr ⟨hnone, entry?_put_self hne, q, hq, eq_place_of_locate hlocate⟩
  · exact .inl (entry?_put_of_ne hl)

/-- The last step of making directories: the directory is made unless it is there. -/
def settle (fs : FileSystem) (p : Path) : FileSystem × Except IoFailure Unit :=
  match fs.makeDir p with
  | .ok gs => (gs, .ok ())
  | .error e => if fs.isDirectory p then (fs, .ok ()) else (fs, .error e)

theorem madeWay_settle (fs : FileSystem) (hq : p.Ancestor q) : MadeWay p fs (fs.settle q).1 := by
  unfold settle
  split
  next hmake => exact madeWay_makeDir hq hmake
  next => split <;> exact .refl p fs

/-- Making a directory and those in front of it adds directories on the way and changes nothing,
whether it comes to an end or not. -/
theorem madeWay_makeDirsFrom (fuel : Nat) (fs : FileSystem) (hq : p.Ancestor q) :
    MadeWay p fs (makeDirsFrom fuel fs q).1 := by
  induction fuel generalizing fs q with
  | zero => exact .refl p fs
  | succ fuel ih =>
    rw [makeDirsFrom]
    split
    · exact .refl p fs
    · split
      · split
        · exact .refl p fs
        next above habove =>
          have hparent := ih fs (hq.parent habove)
          split
          next gs heq =>
            rw [heq] at hparent
            exact hparent.trans (madeWay_settle gs hq)
          next gs e heq =>
            rw [heq] at hparent
            exact hparent
      · exact madeWay_settle fs hq

theorem madeWay_makeDirs (fs : FileSystem) (p : Path) : MadeWay p fs (fs.makeDirs p).1 :=
  madeWay_makeDirsFrom _ fs .self

theorem extends_makeDirs (fs : FileSystem) (p : Path) : Extends fs (fs.makeDirs p).1 :=
  (madeWay_makeDirs fs p).toExtends

/-- Whether a directory stands where a path leads. -/
theorem isDirectory_iff (h : fs.locate p = .ok loc) :
    fs.isDirectory p = true ↔ fs.entry? loc = some .directory := by
  unfold isDirectory lookup
  rw [h]
  cases hentry : fs.entry? loc with
  | none => simp [bind, Except.bind, hentry]
  | some e =>
    cases e with
    | directory => simp [bind, Except.bind, hentry]
    | file content executable =>
      by_cases hslash : p.endsInSlash = true <;> simp [bind, Except.bind, hentry, hslash]

/-- A directory stands at a path exactly if the path leads to one. -/
theorem isDirectory_eq_true_iff :
    fs.isDirectory p = true ↔ ∃ loc, fs.locate p = .ok loc ∧ fs.entry? loc = some .directory := by
  cases hlocate : fs.locate p with
  | error e => simp [isDirectory, lookup, hlocate, bind, Except.bind]
  | ok loc => simp [isDirectory_iff hlocate]

/-- A directory that was made is there. -/
theorem isDirectory_of_makeDir (h : fs.makeDir p = .ok gs) : gs.isDirectory p = true := by
  have hextends := (madeWay_makeDir .self h).toExtends
  obtain ⟨loc, hlocate, hnone, rfl⟩ := makeDir_eq_ok_iff.mp h
  have hmono := locate_mono hextends.workDir (fun _ ↦ hextends.entry?_of_some) hlocate
  refine isDirectory_eq_true_iff.mpr ⟨loc, hmono, entry?_put_self ?_⟩
  rintro rfl
  rw [entry?_nil] at hnone
  cases hnone

theorem isDirectory_of_settle (h : fs.settle p = (gs, .ok ())) : gs.isDirectory p = true := by
  unfold settle at h
  split at h
  next hmake =>
    obtain ⟨rfl, -⟩ := Prod.mk.inj h
    exact isDirectory_of_makeDir hmake
  next =>
    split at h
    next hthere =>
      obtain ⟨rfl, -⟩ := Prod.mk.inj h
      exact hthere
    · cases h

/-- If a directory and those in front of it could be made, it is there. -/
theorem isDirectory_of_makeDirs (hne : p.text ≠ "") (h : fs.makeDirs p = (gs, .ok ())) :
    gs.isDirectory p = true := by
  unfold makeDirs makeDirsFrom at h
  rw [if_neg (by simpa using hne)] at h
  split at h
  · split at h
    · cases h
    · split at h
      · exact isDirectory_of_settle h
      · cases h
  · exact isDirectory_of_settle h

/-- Where a path leads somewhere, making its directory makes that one alone, unless it is there. -/
theorem makeDirs_eq_ok_iff (h : fs.locate p = .ok loc) :
    fs.makeDirs p = (gs, .ok ()) ↔
      fs.entry? loc = none ∧ gs = fs.put loc .directory ∨
        fs.entry? loc = some .directory ∧ gs = fs := by
  have hne : ¬ p.text.isEmpty = true := by
    simpa using (locate_eq_ok_iff.mp h).2.1
  have hdirectory := isDirectory_iff h
  unfold makeDirs makeDirsFrom
  rw [if_neg hne]
  cases hentry : fs.entry? loc with
  | none =>
    have hmake : fs.makeDir p = .ok (fs.put loc .directory) :=
      makeDir_eq_ok_iff.mpr ⟨loc, h, hentry, rfl⟩
    simp only [hmake, Prod.mk.injEq, and_true, true_and, reduceCtorEq, false_and, or_false]
    exact eq_comm
  | some e =>
    have hmake : fs.makeDir p = .error .fileExists := by
      unfold makeDir
      rw [h]
      simp [bind, Except.bind, hentry]
    cases e with
    | directory =>
      simp only [hmake, hdirectory.mpr hentry, if_true, Prod.mk.injEq, and_true, true_and,
        reduceCtorEq, false_and, false_or]
      exact eq_comm
    | file content executable =>
      rw [hentry] at hdirectory
      simp [hmake, hdirectory]

/-- A file is written where its path leads: a new one, or in place of the one that is there. -/
theorem writeText_eq_ok_iff {text : String} :
    fs.writeText p text = .ok gs ↔
      ∃ loc executable, fs.locate p = .ok loc ∧ p.endsInSlash = false ∧
        (fs.entry? loc = none ∧ executable = false ∨
          ∃ content, fs.entry? loc = some (.file content executable)) ∧
        gs = fs.put loc (.file text.toUTF8 executable) := by
  rw [writeText, writeBytes]
  cases fs.locate p with
  | error e => simp [bind, Except.bind]
  | ok loc =>
    cases hentry : fs.entry? loc with
    | none => by_cases hslash : p.endsInSlash = true <;>
        simp [bind, Except.bind, hentry, hslash, eq_comm]
    | some e =>
      cases e with
      | directory => simp [bind, Except.bind, hentry]
      | file content executable =>
        by_cases hslash : p.endsInSlash = true <;> cases executable <;>
          simp [bind, Except.bind, hentry, hslash, eq_comm]

/-- The same stands at every location, and relative paths start from the same one. -/
structure Same (fs gs : FileSystem) : Prop where
  workDir : fs.workDir = gs.workDir
  entry : ∀ loc, fs.entry? loc = gs.entry? loc

/-- Whether a program stands at a location. -/
def runs (fs : FileSystem) (loc : Location) : Bool :=
  match fs.entry? loc with
  | some (.file _ executable) => executable
  | _ => false

/-- Where no directory stands there is nothing, or a file. -/
theorem exists_of_ne_directory (h : fs.entry? loc ≠ some .directory) :
    ∃ executable, fs.entry? loc = none ∧ executable = false ∨
      ∃ content, fs.entry? loc = some (.file content executable) := by
  cases hentry : fs.entry? loc with
  | none => exact ⟨false, .inl ⟨rfl, rfl⟩⟩
  | some e =>
    cases e with
    | directory => exact absurd hentry h
    | file content executable => exact ⟨executable, .inr ⟨content, rfl⟩⟩

theorem runs_of_file {content : ByteArray} {executable : Bool}
    (h : fs.entry? loc = some (.file content executable)) : fs.runs loc = executable := by
  rw [runs, h]

theorem runs_congr (h : gs.entry? loc = fs.entry? loc) : gs.runs loc = fs.runs loc := by
  rw [runs, h]
  rfl

/-- Octets are the text that is written with them. -/
theorem fromUTF8?_eq_some_iff {octets : ByteArray} {text : String} :
    String.fromUTF8? octets = some text ↔ octets = text.toUTF8 := by
  unfold String.fromUTF8?
  split
  next h =>
    rw [Option.some.injEq, ← String.toByteArray_inj]
    rfl
  next h =>
    refine iff_of_false (by simp) ?_
    rintro rfl
    exact h text.isValidUTF8

/-- The text of a file is the one that is written where the path leads. -/
theorem readText_eq_ok_iff {text : String} :
    fs.readText p = .ok text ↔
      ∃ loc executable, fs.locate p = .ok loc ∧ p.endsInSlash = false ∧
        fs.entry? loc = some (.file text.toUTF8 executable) := by
  unfold readText readBytes lookup
  cases fs.locate p with
  | error e => simp [bind, Except.bind]
  | ok loc =>
    cases hentry : fs.entry? loc with
    | none => simp [bind, Except.bind, hentry]
    | some e =>
      cases e with
      | directory => simp [bind, Except.bind, hentry]
      | file content executable =>
        by_cases hslash : p.endsInSlash = true
        · simp [bind, Except.bind, hentry, hslash]
        · have htext : String.fromUTF8? content = some text ↔ content = text.toUTF8 :=
            fromUTF8?_eq_some_iff
          cases hcontent : String.fromUTF8? content <;> cases executable <;>
            simp_all [bind, Except.bind]

end FileSystem

end ClusterProbe
