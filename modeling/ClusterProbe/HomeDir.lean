import ClusterProbe.Path

/-!
# The home directory of a suite

One directory holds all of a suite: the template values, the templates, and what was rendered from
them. A path that starts with a tilde starts at the home directory of the user instead.
-/

namespace ClusterProbe

/-- The directory of a suite. -/
structure HomeDir where
  root : Path

namespace HomeDir

/-- The file of the template values. -/
def valuesFile (h : HomeDir) : Path := h.root.join "config.yaml"

/-- The file of a template. -/
def templateFile (h : HomeDir) (identifier : String) : Path :=
  (h.root.join "templates").join (identifier ++ ".yaml.j2")

/-- The directory of everything that was rendered. -/
def depsDir (h : HomeDir) : Path := h.root.join "deps"

/-- The file that a template is rendered to. -/
def renderedFile (h : HomeDir) (identifier : String) : Path :=
  h.depsDir.join (identifier ++ ".yaml")

/-- The directory of a suite: the one asked for, or else the one that the program is in. -/
def resolve (explicit : Option Path) (programDir : Path) : HomeDir := ⟨explicit.getD programDir⟩

end HomeDir

/-- A path whose first name is a tilde, with the tilde replaced by the home directory of the user;
every other path as it is. -/
def expandTilde (home : Option Path) (path : String) : Path :=
  let rest := match path.toList with
    | ['~'] => some []
    | '~' :: '/' :: r => some r
    | _ => none
  match rest, home with
  | some [], some h => h
  | some r, some h => h.join (String.ofList r)
  | _, _ => ⟨path⟩

/-- The cluster configuration that is used where none is named. -/
def defaultKubeconfig : String := "~/.kube/config"

/-- The path of the cluster configuration. -/
def kubeconfigPath (home : Option Path) (named : Option String) : Path :=
  expandTilde home (named.getD defaultKubeconfig)

end ClusterProbe
