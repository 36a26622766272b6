import ClusterProbe.Program

/-!
# Rehearsing a run

A host that is only imagined: a file system, a script that says how the cluster, the service and
other programs behave, and a record of all that happened, in order. Time passes only on paper.
-/

namespace ClusterProbe

/-- An action on the cluster, on behalf of a test case. -/
abbrev Call := Action × String × Path

/-- An attempt to get a response, on behalf of a test case. -/
abbrev Attempt := String × RequestSpec × ExpectedResponse

/-- What can happen in a rehearsal. -/
inductive Event where
  /-- A line on the console. -/
  | line (text : String)
  /-- A line on the error stream. -/
  | errorLine (text : String)
  /-- A pause. -/
  | pause (seconds : Nat)
  /-- An action on the cluster. -/
  | call (c : Call)
  /-- An attempt to get a response. -/
  | attempt (a : Attempt)
  /-- A file that was written. -/
  | wrote (file : Path) (text : String)
  /-- A program that was started. -/
  | started (arguments : List String)

namespace Event

/-- The action on the cluster, if the event is one. -/
def call? : Event → Option Call
  | .call c => some c
  | _ => none

/-- The attempt to get a response, if the event is one. -/
def attempt? : Event → Option Attempt
  | .attempt a => some a
  | _ => none

end Event

/-- How everything outside a rehearsed run behaves. -/
structure Script where
  /-- The reason why the cluster refuses an action; none if it does not. -/
  refuses : Action → Path → Option String
  /-- The outcomes of the attempts to come; the last one repeats. -/
  outcomes : List Verification
  /-- What programs answer to their arguments. -/
  answers : List String → ProcessResult

namespace Script

/-- The outcome of an attempt where the script says nothing. -/
def verified : Verification := ⟨true, "verified"⟩

/-- A script in which all goes well. -/
def smooth : Script := ⟨fun _ _ ↦ none, [], fun _ ↦ ⟨true, [], []⟩⟩

/-- The outcome of the next attempt, and the script for the attempts after it. -/
def nextOutcome (s : Script) : Verification × Script :=
  match s.outcomes with
  | [] => (verified, s)
  | [last] => (last, s)
  | first :: rest => (first, { s with outcomes := rest })

end Script

/-- The world of a rehearsal. -/
structure World where
  files : FileSystem
  script : Script
  /-- All that has happened. -/
  history : Array Event

/-- A part of a rehearsal. -/
abbrev Rehearsal := StateM World

namespace Rehearsal

/-- Notes that something happened. -/
def note (e : Event) : Rehearsal Unit :=
  modify fun w ↦ { w with history := w.history.push e }

/-- Changes the files, if that is possible. -/
def change (f : FileSystem → Except IoFailure FileSystem) : Rehearsal (Except IoFailure Unit) := do
  let w ← get
  match f w.files with
  | .ok files =>
    set { w with files }
    return .ok ()
  | .error e => return .error e

/-- Writes a file, and notes it if that is possible. -/
def writeText (p : Path) (text : String) : Rehearsal (Except IoFailure Unit) := do
  match ← change (·.writeText p text) with
  | .ok () =>
    note (.wrote p text)
    return .ok ()
  | .error e => return .error e

/-- Makes a directory and those in front of it that are missing. -/
def makeDirs (p : Path) : Rehearsal (Except IoFailure Unit) := do
  let w ← get
  let (files, result) := w.files.makeDirs p
  set { w with files }
  return result

/-- Files and console of a rehearsal. -/
def machine (colours : Bool) : Machine Rehearsal where
  colours := colours
  readText := fun p ↦ return (← get).files.readText p
  writeText := writeText
  makeDirs := makeDirs
  touch := fun p ↦ change (·.touch p)
  contains := fun p ↦ return (← get).files.contains p
  printLine := fun text ↦ note (.line text)
  printError := fun text ↦ note (.errorLine text)
  sleep := fun seconds ↦ note (.pause seconds)

/-- The scripted cluster. An action that is refused is one that was asked for. -/
def cluster : Cluster Rehearsal :=
  ⟨fun action name manifest ↦ do
    note (.call (action, name, manifest))
    match (← get).script.refuses action manifest with
    | some reason => return .error (.ofCluster action.word manifest reason)
    | none => return .ok ()⟩

/-- The scripted service. -/
def probe : Probe Rehearsal :=
  ⟨fun name request expected ↦ do
    note (.attempt (name, request, expected))
    let w ← get
    let (outcome, script) := w.script.nextOutcome
    set { w with script }
    return outcome⟩

/-- Starts a program, which must stand at its path and be a program. -/
def start (program : Path) (arguments : List String) :
    Rehearsal (Except IoFailure ProcessResult) := do
  let w ← get
  if (program.text :: arguments).any fun a ↦ a.toList.contains '\x00' then
    return .error .nulInArgument
  else match w.files.lookup program with
    | .error e => return .error e
    | .ok (.file _ true) => do
      note (.started arguments)
      return .ok (w.script.answers arguments)
    | .ok _ => return .error .permissionDenied

/-- The programs of a rehearsal. -/
def programs : Programs Rehearsal where
  isProgram := fun p ↦ return (← get).files.isProgram p
  run := start

/-- A network on which nothing answers. -/
def network : Network Rehearsal := ⟨fun _ _ ↦ return .unanswered⟩

/-- The host of a rehearsal. -/
def host (colours : Bool) (environment : Environment) : Host Rehearsal :=
  ⟨machine colours, programs, network, environment⟩

end Rehearsal

namespace World

/-- The lines on the console. -/
def lines (w : World) : List String :=
  w.history.toList.filterMap fun
    | .line text => some text
    | _ => none

/-- The lines on the error stream. -/
def errorLines (w : World) : List String :=
  w.history.toList.filterMap fun
    | .errorLine text => some text
    | _ => none

/-- The seconds that have passed. -/
def elapsed (w : World) : Nat :=
  (w.history.toList.filterMap fun
    | .pause seconds => some seconds
    | _ => none).foldr (· + ·) 0

/-- The actions on the cluster. -/
def calls (w : World) : List Call :=
  w.history.toList.filterMap Event.call?

/-- The attempts to get a response. -/
def attempted (w : World) : List Attempt :=
  w.history.toList.filterMap Event.attempt?

/-- The number of attempts to get a response. -/
def attempts (w : World) : Nat := w.attempted.length

/-- The arguments of the programs that were started. -/
def started (w : World) : List (List String) :=
  w.history.toList.filterMap fun
    | .started arguments => some arguments
    | _ => none

end World

end ClusterProbe
