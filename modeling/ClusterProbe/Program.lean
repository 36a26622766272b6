import ClusterProbe.CommandLine

/-!
# The program

From the arguments to the exit status: 0 if all went well, 1 if an error ended the run, 2 if the
arguments make no sense.
-/

namespace ClusterProbe.Program

variable {m : Type → Type} [Monad m]

/-- The name of the program, with its version. -/
def version : String := "kube-e2e 0.1.0"

/-- How the program is used. -/
def usage : List String := [
  "End-to-end test runner for Kubernetes services",
  "",
  "Usage: kube-e2e [OPTIONS] [COMMAND]",
  "",
  "Commands:",
  "  run     Run the test suite",
  "  list    List the test cases of the suite",
  "  render  Render templates into deps/ without applying them",
  "  help    Print this message or the help of the given subcommand(s)",
  "",
  "Options:",
  "      --home <HOME>          Test home holding config.yaml, templates/ and deps/ (default: the",
  "                             directory of this executable)",
  "  -v, --verbose              Show debug diagnostics on stderr",
  "      --log-file <LOG_FILE>  Also write diagnostics to this file",
  "  -h, --help                 Print help",
  "  -V, --version              Print version"]

/-- What is said about arguments that make no sense. -/
def misuse : String := "error: unexpected arguments; for more information, try '--help'."

/-- Makes the file for diagnostics, with the directories in front of it. If that fails, there are
none. -/
def openLog (M : Machine m) (file : Path) : m Unit := do
  match file.parent? with
  | some directory => let _ ← M.makeDirs directory
  | none => pure ()
  match ← M.touch file with
  | .ok () => pure ()
  | .error e => M.printError ("Warning: Could not open log file: " ++ e.message)

/-- Does what was asked for. -/
def invoke (h : Host m) (i : CommandLine.Invocation) : m Nat := do
  match i.logFile with
  | some file => openLog h.machine file
  | none => pure ()
  let home := HomeDir.resolve i.home h.environment.programDir
  match ← (h.execute home i.command).run with
  | .ok () => return 0
  | .error e =>
    h.machine.printError ("Error: " ++ e.message)
    return 1

/-- Runs the program. -/
def start (h : Host m) (arguments : List String) : m Nat := do
  match CommandLine.read arguments with
  | .ok i => invoke h i
  | .error .help =>
    h.machine.printLines usage
    return 0
  | .error .version =>
    h.machine.printLine version
    return 0
  | .error .misuse =>
    h.machine.printError misuse
    return 2

end ClusterProbe.Program
