import ClusterProbe.Error
import ClusterProbe.Text.Blank
import ClusterProbe.Yaml.Grammar
import ClusterProbe.Yaml.Reading

/-!
# Template values

The values that templates name: a document whose root is a mapping. A document that is empty or null
holds no values.
-/

namespace ClusterProbe

/-- The entries that templates can name. -/
structure Values where
  entries : List (String × Json)

namespace Values

/-- The values as one document. -/
def toJson (v : Values) : Json := .object v.entries

/-- The values of a document, whose root must be a mapping. -/
def ofJson? : Json → Except String Values
  | .null => .ok ⟨[]⟩
  | .object entries => .ok ⟨entries⟩
  | v => .error ("expected a mapping at the document root, found " ++ v.kind.name)

/-- The values of a document tree. -/
def ofDocument (d : Yaml.Document) : Except String Values :=
  match d.read d.value with
  | .ok v => ofJson? v
  | .error f => .error f.message

/-- The values of a text. -/
def parse (text : String) : Except Error Values :=
  if Text.isAllBlank text then .ok ⟨[]⟩
  else match Yaml.Document.ofText? text with
    | none => .error (.configParse malformed)
    | some d => (ofDocument d).mapError .configParse

end Values

end ClusterProbe
