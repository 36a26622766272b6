import ClusterProbe.Command
import ClusterProbe.Lookup

/-!
# The command line

Arguments are read from left to right on two levels: options of the program, then the name of a
subcommand and what belongs to it. Some options may stand on either level; the inner one counts. An
option may be given once on each level, except for the names of test cases, and its value follows it
as the next argument or behind an equals sign. A value that follows must not look like an option.
-/

namespace ClusterProbe.CommandLine

/-- The levels on which arguments are read. -/
inductive Level where
  | program | run | list | render
deriving DecidableEq

/-- The options. -/
inductive Flag where
  | home | logFile | verbose | help | version | case | retries | interval | timeout | insecure
  | kubectl
deriving DecidableEq

/-- What the arguments come to if they ask for nothing to be done on a suite. -/
inductive Ending where
  /-- The arguments make no sense. -/
  | misuse
  | help
  | version
deriving DecidableEq

/-- What is asked for, and where. -/
structure Invocation where
  home : Option Path
  verbose : Bool
  logFile : Option Path
  command : Command

/-- What has been read on one level. -/
structure Draft where
  home : Option Path
  logFile : Option Path
  verbose : Bool
  names : List String
  overrides : Overrides
  identifiers : List String

/-- Nothing. -/
def Draft.empty : Draft := ⟨none, none, false, [], .none, []⟩

/-- The level that the name of a subcommand leads to. -/
def subcommand? (name : String) : Option Level :=
  if name = "run" then some .run
  else if name = "list" then some .list
  else if name = "render" then some .render
  else none

/-- The options of every level by their long names. -/
def commonFlag? (name : String) : Option Flag :=
  if name = "home" then some .home
  else if name = "log-file" then some .logFile
  else if name = "verbose" then some .verbose
  else if name = "help" then some .help
  else none

/-- The options of a run by their long names. -/
def runFlag? (name : String) : Option Flag :=
  if name = "case" then some .case
  else if name = "retries" then some .retries
  else if name = "interval" then some .interval
  else if name = "timeout" then some .timeout
  else if name = "insecure" then some .insecure
  else if name = "kubectl" then some .kubectl
  else none

/-- The option with a long name. -/
def longFlag? (level : Level) (name : String) : Option Flag :=
  commonFlag? name <|> match level with
    | .program => if name = "version" then some .version else none
    | .run => runFlag? name
    | _ => none

/-- The option with a name of one letter. -/
def shortFlag? (level : Level) (c : Char) : Option Flag :=
  if c = 'h' then some .help
  else if c = 'v' then some .verbose
  else if c = 'V' then if level = .program then some .version else none
  else if c = 'c' then if level = .run then some .case else none
  else none

/-- Whether an option has a value. -/
def Flag.hasValue : Flag → Bool
  | .verbose | .help | .version | .insecure => false
  | _ => true

/-- A path; it must not be empty. -/
def path? (s : String) : Option Path := if s.isEmpty then none else some ⟨s⟩

/-- A natural number below `2 ^ bits`, which may have a sign if its value allows it. -/
def number? (bits : Nat) (signed : Bool) (s : String) : Option Nat := do
  let n ← match s.toList with
    | '-' :: r => if signed && r.head? ≠ some '+' then decimalIndex? r else none
    | cs => decimalIndex? cs
  let negative := s.toList.head? = some '-'
  if n < Nat.pow 2 bits && (!negative || n = 0) then some n else none

/-- A value for an entry that has none yet. -/
def fill {α : Type} (before value : Option α) : Option (Option α) :=
  match before, value with
  | none, some v => some (some v)
  | _, _ => none

/-- The draft with an option without a value. -/
def Draft.set (d : Draft) : Flag → Except Ending Draft
  | .help => .error .help
  | .version => .error .version
  | .verbose => if d.verbose then .error .misuse else .ok { d with verbose := true }
  | .insecure =>
    if d.overrides.insecure then .error .misuse
    else .ok { d with overrides.insecure := true }
  | _ => .error .misuse

/-- The draft with the value of an option, if the value makes sense. -/
def Draft.assign? (d : Draft) (flag : Flag) (value : String) : Option Draft := do
  match flag with
  | .home => return { d with home := ← fill d.home (path? value) }
  | .logFile => return { d with logFile := ← fill d.logFile (path? value) }
  | .case => return { d with names := d.names ++ [value] }
  | .retries =>
    return { d with overrides.retries := ← fill d.overrides.retries (number? 32 true value) }
  | .interval =>
    return { d with
      overrides.retryInterval := ← fill d.overrides.retryInterval (number? 64 false value) }
  | .timeout =>
    return { d with
      overrides.requestTimeout := ← fill d.overrides.requestTimeout (number? 64 false value) }
  | .kubectl => return { d with overrides.kubectl := ← fill d.overrides.kubectl (some value) }
  | _ => none

/-- The draft with the value of an option. -/
def Draft.assign (d : Draft) (flag : Flag) (value : String) : Except Ending Draft :=
  match d.assign? flag value with
  | some d => .ok d
  | none => .error .misuse

/-- The draft with an argument that is no option; only templates are named by such. -/
def Draft.position (level : Level) (d : Draft) (argument : String) : Except Ending Draft :=
  if level = .render then .ok { d with identifiers := d.identifiers ++ [argument] }
  else .error .misuse

/-- Whether an argument looks like an option. -/
def looksLikeOption (argument : String) : Bool :=
  match argument.toList with
  | '-' :: _ :: _ => true
  | _ => false

/-- What one argument is. -/
inductive Argument where
  /-- Two hyphens, behind which there are no options. -/
  | separator
  | long (name : String) (value : Option String)
  | short (letters : List Char)
  | plain (text : String)

/-- Tells what an argument is. -/
def classify (argument : String) : Argument :=
  match argument.toList with
  | ['-', '-'] => .separator
  | '-' :: '-' :: r =>
    let (name, rest) := r.span (· ≠ '=')
    .long (String.ofList name)
      (match rest with
        | [] => none
        | _ :: value => some (String.ofList value))
  | '-' :: c :: r => .short (c :: r)
  | _ => .plain argument

/-- Reads options of one letter in a row. The first one with a value takes the rest of the row; if
there is no rest, it is left to be read. -/
def readShort (level : Level) (d : Draft) : List Char → Except Ending (Draft × Option Flag)
  | [] => .ok (d, none)
  | c :: r => do
    match shortFlag? level c with
    | none => .error .misuse
    | some flag =>
      if flag.hasValue then
        match r with
        | [] => .ok (d, some flag)
        | '=' :: value => .ok (← d.assign flag (String.ofList value), none)
        | value => .ok (← d.assign flag (String.ofList value), none)
      else do readShort level (← d.set flag) r

/-- Reads one argument that is an option; gives the option whose value the next argument must be. -/
def readOption (level : Level) (d : Draft) : Argument → Except Ending (Draft × Option Flag)
  | .long name value => do
    match longFlag? level name with
    | none => .error .misuse
    | some flag =>
      match flag.hasValue, value with
      | true, some value => .ok (← d.assign flag value, none)
      | true, none => .ok (d, some flag)
      | false, none => .ok (← d.set flag, none)
      | false, some _ => .error .misuse
  | .short letters => readShort level d letters
  | _ => .error .misuse

/-- The names for which there is help: at most one, of a subcommand. -/
def helpFor : List String → Ending
  | [] => .help
  | [name] => if (subcommand? name).isSome || name = "help" then .help else .misuse
  | _ => .misuse

/-- Reads arguments on one level up to the end or to the name of a subcommand, and gives the level
and the arguments where reading goes on. `due` is the option whose value comes next. -/
def readLevel (level : Level) (due : Option Flag) (d : Draft) :
    List String → Except Ending (Draft × Option (Level × List String))
  | [] => if due.isSome then .error .misuse else .ok (d, none)
  | argument :: rest =>
    match due with
    | some flag =>
      if looksLikeOption argument then .error .misuse
      else do readLevel level none (← d.assign flag argument) rest
    | none =>
      match classify argument with
      | .separator => do
        let d ← rest.foldlM (Draft.position level) d
        .ok (d, none)
      | .plain text =>
        if level = .program then
          match subcommand? text with
          | some inner => .ok (d, some (inner, rest))
          | none => .error (if text = "help" then helpFor rest else .misuse)
        else do readLevel level none (← d.position level text) rest
      | option => do
        let (d, due) ← readOption level d option
        readLevel level due d rest

/-- The command that was read on a level. -/
def Draft.command (level : Level) (d : Draft) : Except Ending Command :=
  match level with
  | .list => .ok .list
  | .render => if d.identifiers.isEmpty then .error .misuse else .ok (.render d.identifiers)
  | _ => .ok (.run d.names d.overrides)

/-- Reads the arguments of the program. Without a subcommand the suite is run. -/
def read (arguments : List String) : Except Ending Invocation := do
  let (outer, rest) ← readLevel .program none Draft.empty arguments
  match rest with
  | none => .ok ⟨outer.home, outer.verbose, outer.logFile, .run [] .none⟩
  | some (level, rest) =>
    let (inner, _) ← readLevel level none Draft.empty rest
    let command ← inner.command level
    .ok ⟨inner.home <|> outer.home, outer.verbose || inner.verbose,
      inner.logFile <|> outer.logFile, command⟩

end ClusterProbe.CommandLine
