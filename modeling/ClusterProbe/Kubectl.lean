import ClusterProbe.Environment
import ClusterProbe.Machine
import ClusterProbe.Text.Blank
import ClusterProbe.Text.Utf8

/-!
# The cluster behind kubectl

Every action on the cluster is one run of a program, with the cluster configuration and the manifest
as arguments. Its output goes into the report; if it fails, what it wrote to its error stream is the
reason.
-/

namespace ClusterProbe

/-- The program, and the cluster configuration it is run with. -/
structure Kubectl where
  program : Path
  kubeconfig : Path

/-- What a program has written, and whether it succeeded. -/
structure ProcessResult where
  success : Bool
  stdout : List UInt8
  stderr : List UInt8

/-- Programs. -/
structure Programs (m : Type → Type) where
  /-- Whether a program stands at a path. -/
  isProgram : Path → m Bool
  /-- Runs a program with arguments until it ends. -/
  run : Path → List String → m (Except IoFailure ProcessResult)

/-- The first path at which a program stands. -/
def Programs.findProgram? {m : Type → Type} [Monad m] (programs : Programs m) :
    List Path → m (Option Path)
  | [] => pure none
  | p :: rest => do
    if ← programs.isProgram p then pure (some p) else programs.findProgram? rest

/-- The word for an action while it goes on. -/
def Action.progress : Action → String
  | .apply => "Deploying"
  | .delete => "Deleting"

/-- The word for an action that failed. -/
def Action.failure : Action → String
  | .apply => "deploy"
  | .delete => "delete"

/-- The failure of an action, without the blanks that its reason ends with. -/
def Error.ofCluster (action : String) (manifest : Path) (stderr : String) : Error :=
  .clusterCommand action manifest.text (String.ofList (Text.trimEnd stderr.toList))

namespace Kubectl

variable {m : Type → Type} [Monad m]

/-- The arguments for an action. -/
def arguments (k : Kubectl) (action : Action) (manifest : Path) : List String :=
  ["--kubeconfig", k.kubeconfig.text, action.word, "-f", manifest.text]

/-- The command for an action, to be read by people. -/
def commandLine (k : Kubectl) (action : Action) (manifest : Path) : String :=
  Text.joinWith " " (k.program.text :: k.arguments action manifest)

/-- Carries out an action. -/
def call (k : Kubectl) (M : Machine m) (programs : Programs m) (action : Action) (name : String)
    (manifest : Path) : Stage m Unit := do
  M.report .progress name (action.progress ++ " ... " ++ k.commandLine action manifest)
  match ← programs.run k.program (k.arguments action manifest) with
  | .error e => throw (.io e.message)
  | .ok result =>
    let shown (octets : List UInt8) : String :=
      String.ofList (Text.trimEnd (Text.decodeLossy octets))
    if result.success then M.report .ok name (shown result.stdout)
    else do
      M.report .failed name ("Failed to " ++ action.failure ++ ": " ++ shown result.stderr)
      throw (.ofCluster action.word manifest (shown result.stderr))

/-- The program of a name or path, with the cluster configuration of the environment. -/
def resolve (programs : Programs m) (e : Environment) (program : String) : Stage m Kubectl := do
  match ← programs.findProgram? (e.candidates ⟨program⟩) with
  | some p => return ⟨p, e.kubeconfigPath⟩
  | none => throw (.kubectlNotFound program)

/-- The cluster that the program speaks to. -/
def cluster (k : Kubectl) (M : Machine m) (programs : Programs m) : Cluster m :=
  ⟨fun action name manifest ↦ (k.call M programs action name manifest).run⟩

end Kubectl

end ClusterProbe
