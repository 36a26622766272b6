import ClusterProbe.Text.Pieces

/-!
# The report on the console

Every event of a run is a line, or as many lines as its message has: a label for the kind of event,
the name it belongs to in a column of its own, and the message.
-/

namespace ClusterProbe

/-- The kinds of event. -/
inductive Status where
  | ok | failed | progress | note
deriving DecidableEq

namespace Report

/-- The width of the column for names. -/
def nameWidth : Nat := 30

/-- The label of a kind of event; all labels have six characters. -/
def label : Status → String
  | .ok => "OK    "
  | .failed => "Failed"
  | .progress => "...   "
  | .note => "->    "

/-- A console style, by the parameters of its escape sequence. -/
inductive Style where
  | greenBold | magentaBold | greyBold | whiteBold | dimmed | cyan
deriving DecidableEq

/-- The parameters of a style. -/
def Style.parameters : Style → String
  | .greenBold => "1;32"
  | .magentaBold => "1;35"
  | .greyBold => "1;90"
  | .whiteBold => "1;37"
  | .dimmed => "2"
  | .cyan => "36"

/-- The sequence that starts a style. -/
def Style.start (s : Style) : String := "\x1b[" ++ s.parameters ++ "m"

/-- The sequence that ends every style. -/
def reset : List Char := ['\x1b', '[', '0', 'm']

/-- The text with a style started again behind every sequence in it that ends all styles. -/
def restart (start : List Char) : List Char → List Char
  | '\x1b' :: '[' :: '0' :: 'm' :: r => reset ++ start ++ restart start r
  | c :: r => c :: restart start r
  | [] => []

/-- A text in a style. Without colours it is left as it is. -/
def paint (colours : Bool) (style : Style) (text : String) : String :=
  if colours then
    style.start ++ String.ofList (restart style.start.toList text.toList) ++ String.ofList reset
  else text

/-- The style of the label of a kind of event. -/
def styleOf : Status → Option Style
  | .ok => some .greenBold
  | .failed => some .magentaBold
  | .progress => some .greyBold
  | .note => none

/-- The label as it is shown. -/
def shownLabel (colours : Bool) (status : Status) : String :=
  match styleOf status with
  | some style => paint colours style (label status)
  | none => label status

/-- The name, padded on the right to the width of its column. A longer name is not cut. -/
def padded (name : String) : String :=
  name ++ String.ofList (List.replicate (nameWidth - name.length) ' ')

/-- What stands in front of every line of a message. -/
def lineStart (colours : Bool) (status : Status) (name : String) : String :=
  "  " ++ shownLabel colours status ++ " : " ++ padded name ++ " "

/-- The lines of an event, one for each line of its message. -/
def lines (colours : Bool) (status : Status) (name message : String) : List String :=
  (Text.lines message).map (lineStart colours status name ++ ·)

end Report

end ClusterProbe
