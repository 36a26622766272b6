import ClusterProbe.Yaml.Cursor

/-!
# Tokens of a document

What the lines of a document consist of: markers, indicators, the ends of indented blocks made
visible, and scalars with their escapes and line folds resolved.
-/

namespace ClusterProbe.Yaml

/-- How a scalar is written. -/
inductive Style where
  | plain | singleQuoted | doubleQuoted | literal | folded
deriving DecidableEq

/-- What a token is. -/
inductive Lexeme where
  | streamEnd
  | versionDirective (major minor : Nat)
  | tagDirective (handle lead : String)
  | documentStart
  | documentEnd
  | blockSequenceStart
  | blockMappingStart
  | blockEnd
  | flowSequenceStart
  | flowSequenceEnd
  | flowMappingStart
  | flowMappingEnd
  | blockEntry
  | flowEntry
  | key
  | value
  | alias (name : String)
  | anchor (name : String)
  | tag (handle suffix : String)
  | scalar (style : Style) (text : String)
deriving DecidableEq

/-- A token and the places where it starts and ends. -/
structure Token where
  lexeme : Lexeme
  start : Mark
  stop : Mark

end ClusterProbe.Yaml
