import ClusterProbe.Json.Basic
import ClusterProbe.Text.Pieces

/-!
# Dotted paths

A dotted path names a value inside a document: each segment is the key of a mapping or the index of
an item. `lookup` follows a path segment by segment; it finds nothing where a segment names nothing.
-/

namespace ClusterProbe

/-- The natural number of one or more decimal digits, which may have a plus sign in front. -/
def decimalIndex? (cs : List Char) : Option Nat :=
  let ds := match cs with
    | '+' :: r => r
    | r => r
  if ds.isEmpty || !ds.all Char.isDigit then none
  else some (ds.foldl (fun n d ↦ n * 10 + (d.toNat - 48)) 0)

namespace Json

/-- The value that one segment names. -/
def child? (segment : List Char) : Json → Option Json
  | .object entries => find? (String.ofList segment) entries
  | .array items => (decimalIndex? segment).bind fun i ↦ items[i]?
  | _ => none

/-- The value that a list of segments leads to. -/
def follow? (v : Json) (segments : List (List Char)) : Option Json :=
  segments.foldlM (fun v s ↦ v.child? s) v

/-- The value that a dotted path leads to. -/
def lookup? (v : Json) (path : List Char) : Option Json := v.follow? (Text.pieces '.' path)

/-- The first segment is followed first. -/
theorem follow?_cons (v : Json) (s : List Char) (rest : List (List Char)) :
    v.follow? (s :: rest) = (v.child? s).bind (·.follow? rest) := by
  rw [follow?, List.foldlM_cons]
  rfl

/-- A path of two parts is followed part by part. -/
theorem follow?_append (v : Json) (s t : List (List Char)) :
    v.follow? (s ++ t) = (v.follow? s).bind (·.follow? t) := by
  simp only [follow?, List.foldlM_append]
  rfl

end Json

/-- A letter or underscore of ASCII. -/
def isNameStart (c : Char) : Bool := c.isAlpha || c = '_'

/-- A letter, digit, underscore or hyphen of ASCII. -/
def isNameChar (c : Char) : Bool := c.isAlphanum || c = '_' || c = '-'

/-- The paths that a template may name: segments of letters, digits, underscores and hyphens, the
first of which starts with a letter or an underscore. -/
def isTemplatePath (path : List Char) : Bool :=
  match Text.pieces '.' path with
  | [] => false
  | first :: rest =>
    (first.head?.map isNameStart).getD false && first.all isNameChar &&
      rest.all fun s ↦ !s.isEmpty && s.all isNameChar

end ClusterProbe
