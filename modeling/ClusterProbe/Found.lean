import ClusterProbe.Number.Real
import ClusterProbe.Text.Quoted

/-!
# What was found where something else was wanted

The two kinds of mismatch between a document and what a reader wants of it, and their wording.
-/

namespace ClusterProbe

/-- What a part of a document is. -/
inductive Found where
  | unit
  | bool (b : Bool)
  | integer (i : Int)
  | real (x : Real)
  | text (s : String)
  | sequence
  | mapping
  /-- A value with a tag of the document's own. -/
  | tagged

/-- The wording of what was found. Integers that need more than 64 bits say so. -/
def Found.message : Found → String
  | .unit => "unit value"
  | .bool true => "boolean `true`"
  | .bool false => "boolean `false`"
  | .integer i =>
    let wide :=
      if Int.pow 2 64 ≤ i then " as u128" else if i < -Int.pow 2 63 then " as i128" else ""
    "integer `" ++ toString i ++ "`" ++ wide
  | .real x => "floating point `" ++ x.text ++ "`"
  | .text s => "string " ++ Text.quoted s
  | .sequence => "sequence"
  | .mapping => "map"
  | .tagged => "enum"

/-- A part of a document that is not what a reader wants: of another kind, or of the right kind and
out of range. -/
inductive Unwanted where
  | kind (found : Found) (wanted : String)
  | value (found : Found) (wanted : String)

/-- The wording of a mismatch. -/
def Unwanted.message : Unwanted → String
  | .kind f w => "invalid type: " ++ f.message ++ ", expected " ++ w
  | .value f w => "invalid value: " ++ f.message ++ ", expected " ++ w

end ClusterProbe
