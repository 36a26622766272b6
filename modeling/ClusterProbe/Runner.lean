import ClusterProbe.Renderer
import ClusterProbe.Settings

/-!
# Running test cases

A test case is run in three steps. Setup renders and applies its manifests one by one; verification
asks for the response until it is the expected one or no attempts are left; teardown deletes the
manifests, whatever the verification came to. The first error ends the run.
-/

namespace ClusterProbe

/-- The result of a run without an error. -/
structure Summary where
  total : Nat
  passed : Nat
deriving DecidableEq

/-- What a test case has in the cluster. -/
structure Deployment where
  name : String
  manifests : List Path

/-- All that a run works with. -/
structure Runner (m : Type → Type) where
  machine : Machine m
  renderer : Renderer
  cluster : Cluster m
  probe : Probe m
  /-- Attempts for each test case. -/
  retries : Nat
  /-- Seconds between two attempts. -/
  interval : Nat

namespace Runner

variable {m : Type → Type} [Monad m]

/-- A runner with the given settings; there is always at least one attempt. -/
def ofSettings (M : Machine m) (renderer : Renderer) (cluster : Cluster m) (probe : Probe m)
    (s : Settings) : Runner m :=
  ⟨M, renderer, cluster, probe, max s.retries 1, s.retryInterval⟩

/-- Tells the cluster what to do with a manifest. -/
def act (r : Runner m) (action : Action) (name : String) (manifest : Path) : Stage m Unit :=
  ExceptT.mk (r.cluster.call action name manifest)

/-- Renders and applies one manifest. -/
def deploy (r : Runner m) (name identifier : String) : Stage m Path := do
  r.machine.report .progress name ("Generating ... " ++ identifier)
  let manifest ← r.renderer.render r.machine identifier
  r.machine.report .ok name ("Generated " ++ manifest.text)
  r.act .apply name manifest
  return manifest

/-- Renders and applies manifests in order; each is applied before the next one is rendered. -/
def deployAll (r : Runner m) (name : String) : List String → Stage m (List Path)
  | [] => return []
  | identifier :: rest => do
    let manifest ← r.deploy name identifier
    let manifests ← r.deployAll name rest
    return manifest :: manifests

/-- Puts what a test case needs into the cluster. If that fails, what was applied stays. -/
def setup (r : Runner m) (c : TestCase) : Stage m Deployment := do
  return ⟨c.name, ← r.deployAll c.name c.context⟩

/-- Deletes manifests in order, up to the first that cannot be. -/
def deleteAll (r : Runner m) (name : String) : List Path → Stage m Unit
  | [] => return ()
  | manifest :: rest => do
    r.act .delete name manifest
    r.deleteAll name rest

/-- Takes a deployment out of the cluster. -/
def teardown (r : Runner m) (d : Deployment) : Stage m Unit := r.deleteAll d.name d.manifests

/-- Gives up on a test case. -/
def giveUp (r : Runner m) (c : TestCase) : Stage m Unit := do
  r.machine.report .failed c.name "Timeout for testing... quit."
  throw (.timeout c.name r.retries)

/-- Asks for the response up to `left` times, with a pause before every further attempt. -/
def verifyUpTo (r : Runner m) (c : TestCase) : Nat → Stage m Unit
  | 0 => r.giveUp c
  | left + 1 => do
    let outcome ← r.probe.verify c.name c.request c.response
    if outcome.passed then r.machine.report .ok c.name outcome.message
    else do
      r.machine.report .failed c.name outcome.message
      if left = 0 then r.giveUp c
      else do
        r.machine.sleep r.interval
        r.machine.report .progress c.name ("Another retry: " ++ toString (left + 1))
        r.verifyUpTo c left

/-- Asks for the response until it is the expected one or no attempts are left. -/
def verify (r : Runner m) (c : TestCase) : Stage m Unit := r.verifyUpTo c r.retries

/-- Runs one test case. A failed verification counts for more than a failed teardown. -/
def runCase (r : Runner m) (c : TestCase) : Stage m Unit := do
  r.machine.report .note c.name ("Testing " ++ c.name)
  let d ← r.setup c
  let verified ← (r.verify c).attempt
  let tornDown ← (r.teardown d).attempt
  match verified with
  | .error e => throw e
  | .ok () => Stage.ofExcept tornDown

/-- Runs test cases in order, up to the first error, where `passed` have passed before. Counts each
that passes. -/
def runCases (r : Runner m) (passed : Nat) : List TestCase → Stage m Nat
  | [] => return passed
  | c :: rest => do
    r.runCase c
    r.runCases (passed + 1) rest

/-- Runs test cases in order and reports how many of them passed. -/
def run (r : Runner m) (cases : List TestCase) : Stage m Summary := do
  let passed ← r.runCases 0 cases
  r.machine.report .ok "test summary"
    (toString passed ++ " of " ++ toString cases.length ++ " test cases passed")
  return ⟨cases.length, passed⟩

end Runner

end ClusterProbe
