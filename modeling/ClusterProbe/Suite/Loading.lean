import ClusterProbe.Renderer
import ClusterProbe.Suite.Reader

/-!
# Loading the test cases of a suite

The list of test cases is itself a template: it is rendered like any other, and read from the file
that it was rendered to.
-/

namespace ClusterProbe.Suite

variable {m : Type → Type} [Monad m]

/-- The identifier of the template of the test cases. -/
def testcases : String := "testcases"

/-- The test cases of a file. -/
def fromFile (M : Machine m) (path : Path) : Stage m (List TestCase) := do
  let text ← M.read path
  Stage.ofExcept (parse text)

/-- Renders the list of test cases and reads it; gives the path of the rendered list as well. -/
def load (M : Machine m) (r : Renderer) : Stage m (Path × List TestCase) := do
  let path ← r.render M testcases
  let cases ← fromFile M path
  return (path, cases)

end ClusterProbe.Suite
