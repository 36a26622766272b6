import ClusterProbe.HomeDir

/-!
# The environment of a run

What a run takes from the process it runs in, besides its arguments.
-/

namespace ClusterProbe

/-- The environment of a run. -/
structure Environment where
  /-- The home directory of the user. -/
  userHome : Option Path
  /-- The path of the cluster configuration, where one is named. -/
  kubeconfig : Option String
  /-- The directories in which programs are looked for by name. -/
  searchPath : List Path
  /-- The directory that relative paths start from. -/
  workDir : Path
  /-- The file of the settings. -/
  settingsFile : Option Path
  /-- The directory that the running program is in. -/
  programDir : Path

namespace Environment

/-- Whether a program is named by a path, and not looked for by its name. A single dot in front is a
part of a path; others are not. -/
def isByPath (program : Path) : Bool :=
  let root := if program.isAbsolute then 1 else 0
  let dot := if program.names.head? = some "." && !program.isAbsolute then 1 else 0
  1 < root + dot + program.steps.length

/-- The places where a program may be, the best one first. -/
def candidates (e : Environment) (program : Path) : List Path :=
  if isByPath program then
    [if program.isAbsolute then program else program.steps.foldl Path.join e.workDir]
  else e.searchPath.map (·.join program.text)

/-- The path of the cluster configuration. -/
def kubeconfigPath (e : Environment) : Path := ClusterProbe.kubeconfigPath e.userHome e.kubeconfig

end Environment

end ClusterProbe
