import ClusterProbe.Error
import ClusterProbe.FileSystem
import ClusterProbe.Report
import ClusterProbe.Suite.TestCase

/-!
# What a run needs of the world

A run acts on the world through records of operations, in whatever monad those operations live:
files and console of the machine, the cluster, and the service that is probed. The same run can thus
be carried out for real and be rehearsed.
-/

namespace ClusterProbe

/-- A part of a run, which may end the run. -/
abbrev Stage (m : Type → Type) := ExceptT Error m

/-- Files, console and clock. -/
structure Machine (m : Type → Type) where
  /-- Whether the console shows colours. -/
  colours : Bool
  /-- The text of a file. -/
  readText : Path → m (Except IoFailure String)
  /-- Writes a file, in place of the one that is there. -/
  writeText : Path → String → m (Except IoFailure Unit)
  /-- Makes a directory and those in front of it that are missing. -/
  makeDirs : Path → m (Except IoFailure Unit)
  /-- Makes an empty file where there is none. -/
  touch : Path → m (Except IoFailure Unit)
  /-- Whether anything stands at a path. -/
  contains : Path → m Bool
  /-- Writes a line to the console. -/
  printLine : String → m Unit
  /-- Writes a line to the error stream. -/
  printError : String → m Unit
  /-- Lets seconds pass. -/
  sleep : Nat → m Unit

/-- What is done with a manifest in the cluster. -/
inductive Action where
  | apply | delete
deriving DecidableEq

/-- The cluster: it is told what to do with a manifest, on behalf of a test case. -/
structure Cluster (m : Type → Type) where
  call : Action → String → Path → m (Except Error Unit)

/-- The outcome of one attempt. -/
structure Verification where
  passed : Bool
  message : String
deriving DecidableEq

/-- The service: one attempt to get the expected response, on behalf of a test case. -/
structure Probe (m : Type → Type) where
  verify : String → RequestSpec → ExpectedResponse → m Verification

/-- The word for an action. -/
def Action.word : Action → String
  | .apply => "apply"
  | .delete => "delete"

namespace Machine

variable {m : Type → Type} [Monad m]

/-- Writes lines to the console. -/
def printLines (M : Machine m) : List String → m Unit
  | [] => pure ()
  | line :: rest => do
    M.printLine line
    M.printLines rest

/-- Reports an event. -/
def report (M : Machine m) (status : Status) (name message : String) : m Unit :=
  M.printLines (Report.lines M.colours status name message)

/-- The text of a file that the run cannot do without. -/
def read (M : Machine m) (p : Path) : Stage m String := do
  match ← M.readText p with
  | .ok text => return text
  | .error e => throw (.fileRead p.text e.message)

/-- Goes on if an operation succeeded. -/
def done (result : Except IoFailure Unit) : Stage m Unit :=
  match result with
  | .ok () => pure ()
  | .error e => throw (.io e.message)

end Machine

/-- A part of a run that does not end the run; its error is a result like any other. -/
def Stage.attempt {m : Type → Type} [Monad m] {α : Type} (s : Stage m α) :
    Stage m (Except Error α) :=
  ExceptT.lift s.run

/-- A result as a part of a run. -/
def Stage.ofExcept {m : Type → Type} [Monad m] {α : Type} (r : Except Error α) : Stage m α :=
  ExceptT.mk (pure r)

end ClusterProbe
