import ClusterProbe.Text.Pieces
import ClusterProbe.Text.Utf8
import ClusterProbe.Toml.Basic

/-!
# A place of a document, shown

The line that a fault is on, under its number and over a row of carets that marks the faulty
stretch. Columns count characters, and the stretch counts octets up to the end of the line.
-/

namespace ClusterProbe.Toml

/-- The lines of a fault report: place, line, marked stretch and message. -/
def snippet (text : String) (span : Span) (message : String) : String :=
  let octets := Text.utf8 text.toList
  let before := octets.take span.start
  let line := before.count 10
  let inLine := before.reverse.takeWhile (· ≠ 10)
  let column := (Text.decodeLossy inLine.reverse).length
  let content := ((Text.pieces '\n' text.toList)[line]?).getD []
  let number := toString (line + 1)
  let gutter := String.ofList (List.replicate (number.length + 1) ' ')
  let carets := max 1 (min (span.stop - span.start) (Text.octets content - column))
  "TOML parse error at line " ++ number ++ ", column " ++ toString (column + 1) ++ "\n" ++
    gutter ++ "|\n" ++
    number ++ " | " ++ String.ofList content ++ "\n" ++
    gutter ++ "|" ++ String.ofList (List.replicate (column + 1) ' ') ++
    String.ofList (List.replicate carets '^') ++ "\n" ++
    message ++ "\n"

end ClusterProbe.Toml
