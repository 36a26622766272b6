import ClusterProbe.Kubectl
import ClusterProbe.Runner
import ClusterProbe.Service.Probe
import ClusterProbe.Suite.Filter
import ClusterProbe.Suite.Loading

/-!
# What can be asked for

A suite can be run, its test cases can be listed, and its templates can be rendered without being
applied. Each of the three is carried out on a host, and the first error ends it.
-/

namespace ClusterProbe

/-- What is asked for. -/
inductive Command where
  /-- Run the test cases with the given names, or all of them. -/
  | run (names : List String) (overrides : Overrides)
  /-- List the test cases. -/
  | list
  /-- Render the templates with the given identifiers. -/
  | render (identifiers : List String)

/-- Where a command is carried out. -/
structure Host (m : Type → Type) where
  machine : Machine m
  programs : Programs m
  network : Network m
  environment : Environment

namespace Host

variable {m : Type → Type} [Monad m]

/-- The name that lines of the report have before there is a test case. -/
def setupName : String := "test setup"

/-- The settings file's settings; what holds by default if there is no such file. -/
def loadSettings (h : Host m) : Stage m Settings := do
  match h.environment.settingsFile with
  | none => return .standard
  | some file =>
    if ← h.machine.contains file then Stage.ofExcept (Settings.parse (← h.machine.read file))
    else return .standard

/-- The test cases of a suite, with a report on them. -/
def loadCases (h : Host m) (r : Renderer) : Stage m (List TestCase) := do
  h.machine.report .note setupName "Loading test cases..."
  let (path, cases) ← Suite.load h.machine r
  h.machine.report .ok setupName
    ("Loaded " ++ toString cases.length ++ " test cases from " ++ path.text)
  return cases

/-- Runs the test cases of a suite. -/
def run (h : Host m) (home : HomeDir) (names : List String) (overrides : Overrides) :
    Stage m Unit := do
  let settings ← h.loadSettings
  let settings ← Stage.ofExcept (settings.withOverrides overrides)
  let renderer ← Renderer.load h.machine home
  let cases ← h.loadCases renderer
  let cases ← Stage.ofExcept (Suite.filter cases names)
  let kubectl ← Kubectl.resolve h.programs h.environment settings.kubectl
  let probe := h.network.probe ⟨settings.requestTimeout, settings.insecure⟩
  let runner :=
    Runner.ofSettings h.machine renderer (kubectl.cluster h.machine h.programs) probe settings
  let _ ← runner.run cases

/-- The lines that a test case has in a list: its name, its context if it has one, and its
request. -/
def listing (colours : Bool) (c : TestCase) : List String :=
  let context :=
    if c.context.isEmpty then []
    else ["    context: " ++ Report.paint colours .dimmed (Text.joinWith ", " c.context)]
  Report.paint colours .whiteBold c.name :: context ++
    ["    " ++ Report.paint colours .cyan c.request.method.toUpper ++ " " ++ c.request.url]

/-- Lists the test cases of a suite. -/
def list (h : Host m) (home : HomeDir) : Stage m Unit := do
  let renderer ← Renderer.load h.machine home
  let cases ← h.loadCases renderer
  h.machine.printLines (cases.flatMap (listing h.machine.colours))

/-- Renders templates in order. -/
def renderAll (h : Host m) (r : Renderer) : List String → Stage m Unit
  | [] => return ()
  | identifier :: rest => do
    let path ← r.render h.machine identifier
    h.machine.report .ok identifier ("Generated " ++ path.text)
    h.renderAll r rest

/-- Renders templates of a suite. -/
def render (h : Host m) (home : HomeDir) (identifiers : List String) : Stage m Unit := do
  let renderer ← Renderer.load h.machine home
  h.renderAll renderer identifiers

/-- Carries out a command on the suite in a directory. -/
def execute (h : Host m) (home : HomeDir) : Command → Stage m Unit
  | .run names overrides => h.run home names overrides
  | .list => h.list home
  | .render identifiers => h.render home identifiers

end Host

end ClusterProbe
