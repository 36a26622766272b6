/-!
# What ends a run

The causes that stop the program. A response that is not the expected one is no error: it is tried
again. Each cause has its wording here, once.
-/

namespace ClusterProbe

/-- What an operation of the machine can fail with. -/
inductive IoFailure where
  | notFound
  | permissionDenied
  | fileExists
  | notADirectory
  | isADirectory
  | nameTooLong
  /-- The path of a file holds a NUL character. -/
  | nulInPath
  /-- An argument of a program holds a NUL character. -/
  | nulInArgument
  /-- The file is no text. -/
  | notText
deriving DecidableEq

/-- The wording of a failure. -/
def IoFailure.message : IoFailure → String
  | .notFound => "No such file or directory (os error 2)"
  | .permissionDenied => "Permission denied (os error 13)"
  | .fileExists => "File exists (os error 17)"
  | .notADirectory => "Not a directory (os error 20)"
  | .isADirectory => "Is a directory (os error 21)"
  | .nameTooLong => "File name too long (os error 36)"
  | .nulInPath => "file name contained an unexpected NUL byte"
  | .nulInArgument => "nul byte found in provided data"
  | .notText => "stream did not contain valid UTF-8"

/-- What ends a run. -/
inductive Error where
  /-- Settings that make no sense. -/
  | config (text : String)
  /-- A configuration document that cannot be read. -/
  | configParse (text : String)
  /-- A file that cannot be read. -/
  | fileRead (path error : String)
  /-- A template that cannot be rendered. -/
  | template (identifier message : String)
  /-- There is no such program. -/
  | kubectlNotFound (program : String)
  /-- The cluster refused a manifest. -/
  | clusterCommand (action manifest stderr : String)
  /-- The response was not the expected one, however often it was asked for. -/
  | timeout (name : String) (attempts : Nat)
  /-- A filter names no test case. -/
  | caseNotFound (name : String)
  /-- The client for requests cannot be made. -/
  | http (text : String)
  /-- An operation of the machine failed. -/
  | io (text : String)
deriving DecidableEq

/-- The wording of an error. -/
def Error.message : Error → String
  | .config t => "Configuration error: " ++ t
  | .configParse t => "Invalid configuration file: " ++ t
  | .fileRead path error => "Failed to read file '" ++ path ++ "': " ++ error
  | .template identifier message =>
    "Failed to render template '" ++ identifier ++ "': " ++ message
  | .kubectlNotFound program =>
    "kubectl not found: '" ++ program ++ "' is not an executable on PATH"
  | .clusterCommand action manifest stderr =>
    "Failed to " ++ action ++ " '" ++ manifest ++ "': " ++ stderr
  | .timeout name attempts =>
    "Timeout for testing '" ++ name ++ "' after " ++ toString attempts ++ " attempts... quit."
  | .caseNotFound name => "No test case named '" ++ name ++ "'"
  | .http t => "HTTP client error: " ++ t
  | .io t => "IO error: " ++ t

/-- What is said of a configuration document that is malformed. -/
def malformed : String := "<syntax>"

end ClusterProbe
