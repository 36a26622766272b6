import ClusterProbe.Proofs.FileSystem.Locations

/-!
# Paths that start at the home directory

A path is told apart part by part: where it starts, if it says so, and the names behind that. Main
statement: where the first name of a path is a tilde, the other names lead on from the home
directory of the user, unless two slashes stand behind the tilde; then they lead on from the root.
All other paths stay as they are, and so does every path that has been expanded.
-/

namespace ClusterProbe

namespace Path

/-- What a path is made of. -/
inductive Part where
  /-- The slash that an absolute path starts with. -/
  | root
  /-- The dot that a relative path may start with. -/
  | here
  /-- A name, which may be that of the directory above. -/
  | name (text : String)
deriving DecidableEq

/-- The parts of a path, in order. Slashes that follow one another count once, and dots that lead
nowhere do not count. -/
def parts (p : Path) : List Part :=
  if p.isAbsolute then .root :: p.steps.map .name
  else if p.names.head? = some "." then .here :: p.steps.map .name
  else p.steps.map .name

variable {p : Path} {q : String}

theorem parts_of_isAbsolute (h : p.isAbsolute = true) : p.parts = .root :: p.steps.map .name :=
  if_pos h

/-- The parts of a relative path that is joined to an absolute one come behind its parts. -/
theorem parts_join (hp : p.isAbsolute = true) (hq : (Path.mk q).isAbsolute = false) :
    (p.join q).parts = p.parts ++ (Path.mk q).steps.map .name := by
  have hjoin : (p.join q).isAbsolute = true := by rw [isAbsolute_join p hq, hp]
  rw [parts_of_isAbsolute hjoin, parts_of_isAbsolute hp, steps, names_join p hq,
    List.filter_append, List.map_append]
  rfl

end Path

/-- A path that starts with a tilde, and what stands behind the tilde and its slash. -/
inductive StartsAtHome : String → String → Prop
  | bare : StartsAtHome "~" ""
  | slash (rest : String) : StartsAtHome ("~/" ++ rest) rest

namespace StartsAtHome

variable {path rest : String}

/-- The first part of such a path is the tilde. -/
theorem parts_eq (h : StartsAtHome path rest) :
    (Path.mk path).parts = .name "~" :: (Path.mk rest).steps.map .name := by
  cases h with
  | bare => decide +kernel
  | slash =>
    have htext : ("~/" ++ rest).toList = ['~'] ++ '/' :: rest.toList := String.toList_append
    have hnames : (Path.mk ("~/" ++ rest)).names = "~" :: (Path.mk rest).names := by
      rw [Path.names_of_toList_eq htext, String.ofList_toList]
      rfl
    have hrelative : (Path.mk ("~/" ++ rest)).isAbsolute = false := by
      rw [Path.isAbsolute, htext]
      rfl
    rw [Path.parts, hrelative, Path.steps, hnames]
    rfl

theorem not_isAbsolute (h : StartsAtHome path rest) : (Path.mk path).isAbsolute = false := by
  cases h with
  | bare => rfl
  | slash =>
    rw [Path.isAbsolute, String.toList_append]
    rfl

/-- The tilde is replaced by the home directory. -/
theorem expandTilde_eq (h : StartsAtHome path rest) (home : Path) :
    expandTilde (some home) path = if rest = "" then home else home.join rest := by
  cases h with
  | bare => rfl
  | slash =>
    have htext : ("~/" ++ rest).toList = '~' :: '/' :: rest.toList := String.toList_append
    unfold expandTilde
    rw [htext]
    cases hrest : rest.toList with
    | nil =>
      rw [if_pos (String.toList_eq_nil_iff.mp hrest)]
      rfl
    | cons c r =>
      have hne : rest ≠ "" := fun h ↦ by rw [h] at hrest; cases hrest
      have hof : String.ofList (c :: r) = rest := by rw [← hrest, String.ofList_toList]
      rw [if_neg hne, ← hof]
      rfl

end StartsAtHome

/-- A path that does not start with a tilde stays as it is. -/
theorem expandTilde_of_not {path : String} (h : ∀ rest, ¬ StartsAtHome path rest)
    (home : Path) : expandTilde (some home) path = ⟨path⟩ := by
  unfold expandTilde
  split
  next hpath =>
    obtain rfl : path = "~" := String.toList_inj.mp hpath
    exact absurd .bare (h "")
  next r hpath =>
    obtain rfl : path = "~/" ++ String.ofList r :=
      String.toList_inj.mp (by rw [hpath, String.toList_append]; simp)
    exact absurd (.slash _) (h (String.ofList r))
  · rfl

section Home

variable {home : Path} {path rest : String}

/-- Behind a tilde with one slash the names lead on from the home directory. -/
theorem StartsAtHome.parts_expandTilde (h : StartsAtHome path rest)
    (hhome : home.isAbsolute = true) (hrest : (Path.mk rest).isAbsolute = false) :
    (expandTilde (some home) path).parts = home.parts ++ (Path.mk rest).steps.map .name := by
  rw [h.expandTilde_eq]
  split
  next hempty =>
    subst hempty
    exact (List.append_nil _).symm
  · exact Path.parts_join hhome hrest

/-- Behind a tilde with two slashes the names lead on from the root. -/
theorem StartsAtHome.expandTilde_of_isAbsolute (h : StartsAtHome path rest)
    (hrest : (Path.mk rest).isAbsolute = true) : expandTilde (some home) path = ⟨rest⟩ := by
  have hne : rest ≠ "" := by
    rintro rfl
    cases hrest
  rw [h.expandTilde_eq, if_neg hne, Path.join_of_isAbsolute home hrest]

/-- A path that was expanded is absolute. -/
theorem StartsAtHome.isAbsolute_expandTilde (h : StartsAtHome path rest)
    (hhome : home.isAbsolute = true) : (expandTilde (some home) path).isAbsolute = true := by
  cases hrest : (Path.mk rest).isAbsolute with
  | true => rw [h.expandTilde_of_isAbsolute hrest, hrest]
  | false =>
    rw [h.expandTilde_eq]
    split
    · exact hhome
    · rw [Path.isAbsolute_join home hrest, hhome]

/-- Expanding a path once more changes nothing. -/
theorem expandTilde_expandTilde (hhome : home.isAbsolute = true) (path : String) :
    expandTilde (some home) (expandTilde (some home) path).text = expandTilde (some home) path := by
  by_cases h : ∃ rest, StartsAtHome path rest
  · obtain ⟨rest, h⟩ := h
    have habsolute := h.isAbsolute_expandTilde hhome
    refine expandTilde_of_not (fun again hagain ↦ ?_) home
    exact Bool.false_ne_true (hagain.not_isAbsolute.symm.trans habsolute)
  · rw [expandTilde_of_not (not_exists.mp h), expandTilde_of_not (not_exists.mp h)]

/-- Whatever path is named and wherever the home directory is: a path that starts with a tilde
leads on from the home directory by its other names exactly if no second slash stands behind the
tilde or the home directory is the root, and with a second slash it is what stands behind the first
one. All other paths stay as they are, nothing changes when a path is expanded once more, and the
cluster configuration that the environment names is found in the same way. -/
theorem expandTilde_inside_home (hhome : home.isAbsolute = true) (path : String) :
    (∀ rest, StartsAtHome path rest →
      ∃ names, (Path.mk path).parts = .name "~" :: names ∧
        ((expandTilde (some home) path).parts = home.parts ++ names ↔
          (Path.mk rest).isAbsolute = false ∨ home.parts = [.root]) ∧
        ((Path.mk rest).isAbsolute = true → expandTilde (some home) path = ⟨rest⟩)) ∧
    ((∀ rest, ¬ StartsAtHome path rest) → expandTilde (some home) path = ⟨path⟩) ∧
    expandTilde (some home) (expandTilde (some home) path).text =
      expandTilde (some home) path ∧
    kubeconfigPath (some home) (some path) = expandTilde (some home) path := by
  refine ⟨fun rest h ↦ ⟨_, h.parts_eq, ?_, h.expandTilde_of_isAbsolute⟩,
    fun h ↦ expandTilde_of_not h home, expandTilde_expandTilde hhome path, rfl⟩
  cases hrest : (Path.mk rest).isAbsolute with
  | false => exact iff_of_true (h.parts_expandTilde hhome hrest) (.inl rfl)
  | true =>
    -- both sides start at the root, so they agree only if the home directory adds no name
    rw [h.expandTilde_of_isAbsolute hrest, Path.parts_of_isAbsolute hrest,
      Path.parts_of_isAbsolute hhome]
    simp

/-- Dots and slashes between the names, and a tilde that is one of them. -/
theorem expandTilde_inside_home_dotted :
    (Path.mk "/home/u/").isAbsolute = true ∧ StartsAtHome "~/./a//../~" "./a//../~" ∧
      (expandTilde (some ⟨"/home/u/"⟩) "~/./a//../~").parts =
        [.root, .name "home", .name "u", .name "a", .name "..", .name "~"] := by
  have hhome : (Path.mk "/home/u/").isAbsolute = true := rfl
  have hstarts : StartsAtHome "~/./a//../~" "./a//../~" := .slash "./a//../~"
  obtain ⟨names, hnames, hinside, -⟩ := (expandTilde_inside_home hhome _).1 _ hstarts
  have hparts := hinside.mpr (.inl rfl)
  have hpath : (Path.mk "~/./a//../~").parts = [.name "~", .name "a", .name "..", .name "~"] := by
    decide +kernel
  obtain rfl := (List.cons.inj (hnames.symm.trans hpath)).2
  exact ⟨hhome, hstarts, hparts.trans (by decide +kernel)⟩

/-- Behind two slashes a path leaves the home directory. -/
theorem expandTilde_leaves_home :
    (Path.mk "/home/u").isAbsolute = true ∧ StartsAtHome "~//etc/kube" "/etc/kube" ∧
      expandTilde (some ⟨"/home/u"⟩) "~//etc/kube" = ⟨"/etc/kube"⟩ ∧
      kubeconfigPath (some ⟨"/home/u"⟩) (some "~//etc/kube") = ⟨"/etc/kube"⟩ ∧
      ¬ (Path.mk "/home/u").parts <+: (Path.mk "/etc/kube").parts := by
  have hstarts : StartsAtHome "~//etc/kube" "/etc/kube" := .slash "/etc/kube"
  have hleaves : expandTilde (some ⟨"/home/u"⟩) "~//etc/kube" = ⟨"/etc/kube"⟩ :=
    hstarts.expandTilde_of_isAbsolute rfl
  exact ⟨rfl, hstarts, hleaves, hleaves, by decide +kernel⟩

end Home

end ClusterProbe
