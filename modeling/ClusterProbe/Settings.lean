import ClusterProbe.Error
import ClusterProbe.Found
import ClusterProbe.Toml.Reader
import ClusterProbe.Toml.Snippet

/-!
# Settings

How often and how fast a response is asked for, and with which program the cluster is spoken to.
Settings come in layers: what holds by default, the settings file, and the command line. Every layer
must make sense, and a layer can allow invalid certificates but not forbid them again.
-/

namespace ClusterProbe

/-- The settings of a run. -/
structure Settings where
  /-- Attempts for each test case. -/
  retries : Nat
  /-- Seconds between two attempts. -/
  retryInterval : Nat
  /-- Seconds that a request may take. -/
  requestTimeout : Nat
  /-- Whether invalid certificates are accepted. -/
  insecure : Bool
  /-- The program that speaks to the cluster, or its path. -/
  kubectl : String
deriving DecidableEq

/-- One layer of settings: what it sets. -/
structure Overrides where
  retries : Option Nat
  retryInterval : Option Nat
  requestTimeout : Option Nat
  insecure : Bool
  kubectl : Option String
deriving DecidableEq

/-- A layer that sets nothing. -/
def Overrides.none : Overrides := ⟨Option.none, Option.none, Option.none, false, Option.none⟩

namespace Settings

/-- What holds where nothing is set. -/
def standard : Settings := ⟨50, 2, 2, false, "kubectl"⟩

/-- Settings must leave room for one attempt and one second. -/
def validate (s : Settings) : Except Error Settings :=
  if s.retries = 0 then .error (.config "retries must be at least 1")
  else if s.requestTimeout = 0 then .error (.config "request_timeout_secs must be at least 1")
  else .ok s

/-- The settings with a layer over them, whether or not they make sense. -/
def merge (s : Settings) (o : Overrides) : Settings :=
  ⟨o.retries.getD s.retries, o.retryInterval.getD s.retryInterval,
    o.requestTimeout.getD s.requestTimeout, s.insecure || o.insecure, o.kubectl.getD s.kubectl⟩

/-- The settings with a layer over them. -/
def withOverrides (s : Settings) (o : Overrides) : Except Error Settings := (s.merge o).validate

/-- What an entry of the settings file is, for a reader that wants something else. -/
def foundOf : Toml.Item → Found
  | .value (.string s) _ => .text s
  | .value (.integer i) _ => .integer i
  | .value (.real x) _ => .real x
  | .value (.bool b) _ => .bool b
  | .value .datetime _ => .mapping
  | .value .list _ => .sequence
  | .value .inlineTable _ => .mapping
  | .table .. => .mapping
  | .tables _ => .sequence

/-- A natural number below `2 ^ bits`. -/
def naturalOf (bits : Nat) (item : Toml.Item) : Except Unwanted Nat :=
  let wanted := "u" ++ toString bits
  match item with
  | .value (.integer i) _ =>
    if 0 ≤ i && i < Int.pow 2 bits then .ok i.toNat else .error (.value (.integer i) wanted)
  | item => .error (.kind (foundOf item) wanted)

/-- A truth value. -/
def boolOf : Toml.Item → Except Unwanted Bool
  | .value (.bool b) _ => .ok b
  | item => .error (.kind (foundOf item) "a boolean")

/-- A text. -/
def textOf : Toml.Item → Except Unwanted String
  | .value (.string s) _ => .ok s
  | item => .error (.kind (foundOf item) "a string")

/-- The settings with one entry of the settings file read; other entries mean nothing. -/
def readEntry (s : Settings) (name : String) (item : Toml.Item) : Except Unwanted Settings :=
  if name = "retries" then (naturalOf 32 item).map fun n ↦ { s with retries := n }
  else if name = "retry_interval_secs" then
    (naturalOf 64 item).map fun n ↦ { s with retryInterval := n }
  else if name = "request_timeout_secs" then
    (naturalOf 64 item).map fun n ↦ { s with requestTimeout := n }
  else if name = "insecure" then (boolOf item).map fun b ↦ { s with insecure := b }
  else if name = "kubectl" then (textOf item).map fun t ↦ { s with kubectl := t }
  else .ok s

/-- The settings with all entries of the settings file read, or the first entry that cannot be, by
its place in the text. -/
def readEntries (s : Settings) : Toml.Entries → Except (Toml.Span × Unwanted) Settings
  | [] => .ok s
  | (key, item) :: rest =>
    match s.readEntry key.name item with
    | .ok s => s.readEntries rest
    | .error u => .error (Toml.spanOf key item, u)

/-- The settings of a settings file. -/
def parse (text : String) : Except Error Settings :=
  match Toml.ofText? text with
  | none => .error (.configParse malformed)
  | some entries =>
    match standard.readEntries entries with
    | .ok s => s.validate
    | .error (span, u) => .error (.configParse (Toml.snippet text span u.message))

end Settings

end ClusterProbe
