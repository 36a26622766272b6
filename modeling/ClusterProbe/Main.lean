import ClusterProbe.Program

/-!
# Running the program

The host that the program runs on. It has files, a console and a clock; it starts no other program,
and there is no network.
-/

namespace ClusterProbe

/-- The failure of an operation on files. -/
def failureOf : IO.Error → IoFailure
  | .noFileOrDirectory .. => .notFound
  | .permissionDenied .. => .permissionDenied
  | .alreadyExists .. => .fileExists
  | .inappropriateType .. => .notADirectory
  | _ => .permissionDenied

/-- An operation on files, with its failure as a result. -/
def attemptFiles {α : Type} (act : IO α) : BaseIO (Except IoFailure α) := do
  match ← act.toBaseIO with
  | .ok a => return .ok a
  | .error e => return .error (failureOf e)

/-- The text of a file. -/
def readFileText (p : Path) : BaseIO (Except IoFailure String) := do
  match ← attemptFiles (IO.FS.readBinFile p.text) with
  | .error e => return .error e
  | .ok octets =>
    match String.fromUTF8? octets with
    | some text => return .ok text
    | none => return .error .notText

/-- Adds nothing to a file, which makes it if it is not there. -/
def touchFile (p : Path) : IO Unit := do
  let _ ← IO.FS.Handle.mk p.text IO.FS.Mode.append

/-- Writes a line, if it can be written. -/
def writeLine (stream : BaseIO IO.FS.Stream) (text : String) : BaseIO Unit := do
  let _ ← ((← stream).putStrLn text).toBaseIO

/-- Files, console and clock of the machine. -/
def systemMachine : Machine BaseIO where
  colours := false
  readText := readFileText
  writeText := fun p text ↦ attemptFiles (IO.FS.writeFile p.text text)
  makeDirs := fun p ↦ attemptFiles (IO.FS.createDirAll p.text)
  touch := fun p ↦ attemptFiles (touchFile p)
  contains := fun p ↦ do
    match ← readFileText p with
    | .error .notFound => return false
    | _ => return true
  printLine := writeLine IO.getStdout
  printError := writeLine IO.getStderr
  sleep := fun seconds ↦ IO.sleep (UInt32.ofNat (seconds * 1000))

/-- No program stands anywhere. -/
def systemPrograms : Programs BaseIO where
  isProgram := fun _ ↦ return false
  run := fun _ _ ↦ return .error .permissionDenied

/-- Nothing answers. -/
def systemNetwork : Network BaseIO := ⟨fun _ _ ↦ return .unanswered⟩

/-- The directories of a list with colons. -/
def directories (list : Option String) : List Path :=
  match list with
  | some text => (Text.pieces ':' text.toList).map fun cs ↦ ⟨String.ofList cs⟩
  | none => []

/-- The environment of the process. -/
def systemEnvironment : IO Environment := do
  let userHome ← IO.getEnv "HOME"
  let settings ← IO.getEnv "XDG_CONFIG_HOME"
  let configHome := (settings.map Path.mk) <|> (userHome.map fun h ↦ (Path.mk h).join ".config")
  let program ← IO.appPath
  let workDir ← IO.currentDir
  return {
    userHome := userHome.map Path.mk
    kubeconfig := ← IO.getEnv "KUBE_CONFIG_FILEPATH"
    searchPath := directories (← IO.getEnv "PATH")
    workDir := ⟨workDir.toString⟩
    settingsFile := configHome.map fun d ↦ (d.join "kube-e2e").join "config.toml"
    programDir := ((Path.mk program.toString).parent?).getD ⟨"."⟩ }

end ClusterProbe

/-- Runs the program with its arguments. -/
def main (arguments : List String) : IO UInt32 := do
  let environment ← ClusterProbe.systemEnvironment
  let host : ClusterProbe.Host BaseIO :=
    ⟨ClusterProbe.systemMachine, ClusterProbe.systemPrograms, ClusterProbe.systemNetwork,
      environment⟩
  let status : Nat ← (ClusterProbe.Program.start host arguments : BaseIO Nat)
  return UInt32.ofNat status
