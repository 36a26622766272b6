import ClusterProbe.Error
import ClusterProbe.Suite.TestCase

/-!
# Choosing test cases by name

A run may be confined to some test cases of the suite. They keep the order of the suite, however the
names are ordered, and a name that is not there is refused before anything is run.
-/

namespace ClusterProbe.Suite

/-- The test cases with one of the given names, in their order; all of them if no name is given. A
name that no test case has is an error. -/
def filter (cases : List TestCase) (names : List String) : Except Error (List TestCase) :=
  if names.isEmpty then .ok cases
  else match names.find? fun n ↦ !cases.any fun c ↦ c.name = n with
    | some unknown => .error (.caseNotFound unknown)
    | none => .ok (cases.filter fun c ↦ names.contains c.name)

end ClusterProbe.Suite
