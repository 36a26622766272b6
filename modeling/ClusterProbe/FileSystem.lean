import ClusterProbe.Error
import ClusterProbe.Path

/-!
# Files and directories

A file system without links: what stands at each location, and the directory that relative paths
start from. A path is followed name by name, so a name that leads upwards is reached only through a
directory that is there. Operations change the location they name and the directories in front of
it, and nothing else.
-/

namespace ClusterProbe

/-- A location: the names that lead to it from the root. -/
abbrev Location := List String

/-- What stands at a location. -/
inductive Entry where
  | directory
  | file (content : ByteArray) (executable : Bool)

/-- A file system. The root is always a directory. -/
structure FileSystem where
  entries : List (Location × Entry)
  workDir : Location

namespace FileSystem

/-- What stands at a location. -/
def entry? (fs : FileSystem) (loc : Location) : Option Entry :=
  if loc = [] then some .directory
  else (fs.entries.find? fun e ↦ e.1 = loc).map Prod.snd

/-- The file system with another entry at a location. -/
def put (fs : FileSystem) (loc : Location) (e : Entry) : FileSystem :=
  { fs with entries := (loc, e) :: fs.entries.filter fun x ↦ x.1 ≠ loc }

/-- The file system without the entry at a location. -/
def erase (fs : FileSystem) (loc : Location) : FileSystem :=
  { fs with entries := fs.entries.filter fun x ↦ x.1 ≠ loc }

/-- The longest name of a file, in octets. -/
def nameLimit : Nat := 255

/-- The longest path, in octets. -/
def pathLimit : Nat := 4095

/-- The location one name further. Only a directory can be entered. -/
def enter (fs : FileSystem) (loc : Location) (name : String) : Except IoFailure Location :=
  match fs.entry? loc with
  | none => .error .notFound
  | some (.file ..) => .error .notADirectory
  | some .directory =>
    if name = "." then .ok loc
    else if name = ".." then .ok loc.dropLast
    else if nameLimit < name.utf8ByteSize then .error .nameTooLong
    else .ok (loc ++ [name])

/-- The location that names lead to, each one but the last a directory that is there. -/
def walk (fs : FileSystem) (loc : Location) : List String → Except IoFailure Location
  | [] => .ok loc
  | name :: rest => do
    let next ← fs.enter loc name
    fs.walk next rest

/-- The location of a path. Nothing need stand there, but all directories in front of it must. -/
def locate (fs : FileSystem) (p : Path) : Except IoFailure Location :=
  if p.text.toList.contains '\x00' then .error .nulInPath
  else if p.text.isEmpty then .error .notFound
  else if pathLimit < p.text.utf8ByteSize then .error .nameTooLong
  else fs.walk (if p.isAbsolute then [] else fs.workDir) p.names

/-- What stands at a path. A slash at the end asks for a directory. -/
def lookup (fs : FileSystem) (p : Path) : Except IoFailure Entry := do
  let loc ← fs.locate p
  match fs.entry? loc with
  | none => .error .notFound
  | some (.file content executable) =>
    if p.endsInSlash then .error .notADirectory else .ok (.file content executable)
  | some .directory => .ok .directory

/-- Whether a directory stands at a path. -/
def isDirectory (fs : FileSystem) (p : Path) : Bool :=
  match fs.lookup p with
  | .ok .directory => true
  | _ => false

/-- Whether anything stands at a path. -/
def contains (fs : FileSystem) (p : Path) : Bool :=
  match fs.lookup p with
  | .ok _ => true
  | .error _ => false

/-- Whether a program stands at a path. -/
def isProgram (fs : FileSystem) (p : Path) : Bool :=
  match fs.lookup p with
  | .ok (.file _ executable) => executable
  | _ => false

/-- The octets of a file. -/
def readBytes (fs : FileSystem) (p : Path) : Except IoFailure ByteArray := do
  match ← fs.lookup p with
  | .directory => .error .isADirectory
  | .file content _ => .ok content

/-- The text of a file. -/
def readText (fs : FileSystem) (p : Path) : Except IoFailure String := do
  match String.fromUTF8? (← fs.readBytes p) with
  | some s => .ok s
  | none => .error .notText

/-- Writes a file, in place of the one that is there. -/
def writeBytes (fs : FileSystem) (p : Path) (content : ByteArray) :
    Except IoFailure FileSystem := do
  let loc ← fs.locate p
  match fs.entry? loc with
  | some .directory => .error .isADirectory
  | some (.file _ executable) =>
    if p.endsInSlash then .error .notADirectory else .ok (fs.put loc (.file content executable))
  | none => if p.endsInSlash then .error .isADirectory else .ok (fs.put loc (.file content false))

/-- Writes a text file. -/
def writeText (fs : FileSystem) (p : Path) (text : String) : Except IoFailure FileSystem :=
  fs.writeBytes p text.toUTF8

/-- Makes an empty file where there is none. -/
def touch (fs : FileSystem) (p : Path) : Except IoFailure FileSystem :=
  match fs.readBytes p with
  | .ok _ => .ok fs
  | .error .notFound => fs.writeBytes p ByteArray.empty
  | .error e => .error e

/-- Makes one directory. -/
def makeDir (fs : FileSystem) (p : Path) : Except IoFailure FileSystem := do
  let loc ← fs.locate p
  match fs.entry? loc with
  | some _ => .error .fileExists
  | none => .ok (fs.put loc .directory)

/-- Makes a directory and those in front of it that are missing, and says whether all of them are
there. The fuel is the number of steps of the path, and one more. -/
def makeDirsFrom : Nat → FileSystem → Path → FileSystem × Except IoFailure Unit
  | 0, fs, _ => (fs, .ok ())
  | fuel + 1, fs, p =>
    let last (fs : FileSystem) : FileSystem × Except IoFailure Unit :=
      match fs.makeDir p with
      | .ok fs => (fs, .ok ())
      | .error e => if fs.isDirectory p then (fs, .ok ()) else (fs, .error e)
    if p.text.isEmpty then (fs, .ok ())
    else match fs.makeDir p with
      | .error .notFound =>
        match p.parent? with
        | none => (fs, .error .notFound)
        | some parent =>
          match makeDirsFrom fuel fs parent with
          | (fs, .ok ()) => last fs
          | (fs, .error e) => (fs, .error e)
      | _ => last fs

/-- Makes a directory and those in front of it that are missing. -/
def makeDirs (fs : FileSystem) (p : Path) : FileSystem × Except IoFailure Unit :=
  makeDirsFrom (p.steps.length + 1) fs p

/-- Removes a file. -/
def removeFile (fs : FileSystem) (p : Path) : Except IoFailure FileSystem := do
  let loc ← fs.locate p
  match fs.entry? loc with
  | none => .error .notFound
  | some .directory => .error .isADirectory
  | some (.file ..) => if p.endsInSlash then .error .notADirectory else .ok (fs.erase loc)

/-- The files below a location, with the names that lead to them from there. -/
def filesBelow (fs : FileSystem) (loc : Location) : List (Location × ByteArray) :=
  fs.entries.filterMap fun (place, e) ↦
    match e with
    | .file content _ =>
      if loc.isPrefixOf place then some (place.drop loc.length, content) else none
    | .directory => none

end FileSystem

end ClusterProbe
