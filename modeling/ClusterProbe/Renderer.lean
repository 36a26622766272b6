import ClusterProbe.HomeDir
import ClusterProbe.Machine
import ClusterProbe.Template
import ClusterProbe.Values

/-!
# Rendering the templates of a suite

A template is read from the suite's directory, expanded with the suite's values, and written below
the directory for everything rendered. Nothing is written unless the expansion succeeds.
-/

namespace ClusterProbe

/-- The text of a template; `identifier` only names it where something is wrong with it. -/
def Template.render (identifier source : String) (values : Json) : Except Error String :=
  match Template.expand values source.toList with
  | .ok text => .ok (String.ofList text)
  | .error f => .error (.template identifier f.message)

/-- The templates of one directory, with one set of values. -/
structure Renderer where
  home : HomeDir
  values : Values

namespace Renderer

variable {m : Type → Type} [Monad m]

/-- The values of a file, with the file named where something is wrong with them. -/
def readValues (path : Path) (text : String) : Except Error Values :=
  match Values.parse text with
  | .error (.configParse why) => .error (.configParse (path.text ++ ": " ++ why))
  | result => result

/-- The renderer of a suite, with the values in its directory. -/
def load (M : Machine m) (home : HomeDir) : Stage m Renderer := do
  let text ← M.read home.valuesFile
  let values ← Stage.ofExcept (readValues home.valuesFile text)
  return ⟨home, values⟩

/-- The text that a template renders to. -/
def renderToString (M : Machine m) (r : Renderer) (identifier : String) : Stage m String := do
  let source ← M.read (r.home.templateFile identifier)
  Stage.ofExcept (Template.render identifier source r.values.toJson)

/-- Renders a template into its file and gives the path of that file. -/
def render (M : Machine m) (r : Renderer) (identifier : String) : Stage m Path := do
  let text ← r.renderToString M identifier
  Machine.done (← M.makeDirs r.home.depsDir)
  let path := r.home.renderedFile identifier
  Machine.done (← M.writeText path text)
  return path

end Renderer

end ClusterProbe
