import ClusterProbe.Text.Pieces

/-!
# Paths of files

A path is kept as it is written. It is joined without being tidied up: a relative path is put behind
the path before it, and an absolute one replaces it.
-/

namespace ClusterProbe

/-- A path, as it is written. -/
structure Path where
  text : String
deriving DecidableEq

namespace Path

/-- A path that starts at the root. -/
def isAbsolute (p : Path) : Bool := p.text.toList.head? == some '/'

/-- The path `q`, taken from `p` if it is relative. -/
def join (p : Path) (q : String) : Path :=
  if (Path.mk q).isAbsolute || p.text.isEmpty then ⟨q⟩
  else if p.text.toList.getLast? == some '/' then ⟨p.text ++ q⟩
  else ⟨p.text ++ "/" ++ q⟩

/-- The names between the slashes of a path, dots and all. -/
def names (p : Path) : List String :=
  ((Text.pieces '/' p.text.toList).filter (!·.isEmpty)).map String.ofList

/-- The names of a path that lead somewhere: a single dot stays where it is. -/
def steps (p : Path) : List String := p.names.filter (· ≠ ".")

/-- Whether a path asks for a directory by the slash it ends with. -/
def endsInSlash (p : Path) : Bool := p.text.toList.getLast? == some '/'

/-- The last name of a path. -/
def fileName? (p : Path) : Option String :=
  p.steps.getLast?.filter (· ≠ "..")

/-- The last name of a path up to its last point. A point that it starts with does not count. -/
def stem? (p : Path) : Option String :=
  p.fileName?.map fun name ↦
    let front := (name.toList.reverse.dropWhile (· ≠ '.')).drop 1
    if front.isEmpty then name else String.ofList front.reverse

/-- The path without its last name; none for the root and for nothing. -/
def parent? (p : Path) : Option Path :=
  match p.steps with
  | [] => none
  | steps =>
    let front := Text.joinWith "/" steps.dropLast
    some ⟨if p.isAbsolute then "/" ++ front else front⟩

/-- An absolute path replaces the one it is joined to. -/
theorem join_of_isAbsolute (p : Path) {q : String} (h : (Path.mk q).isAbsolute = true) :
    p.join q = ⟨q⟩ := by simp [join, h]

end Path

end ClusterProbe
