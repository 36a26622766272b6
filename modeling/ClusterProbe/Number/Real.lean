import ClusterProbe.Number.Layout

/-!
# Floating-point numbers of documents

A document may hold a finite double, an infinity or a value that is no number.
-/

namespace ClusterProbe

/-- A floating-point number that a document denotes. -/
inductive Real where
  | finite (x : Binary64)
  | infinite (negative : Bool)
  | notANumber
deriving DecidableEq

/-- The text of a floating-point number in a message. -/
def Real.text : Real → String
  | .finite x => String.ofList (NumberLayout.message.text x)
  | .infinite false => "inf"
  | .infinite true => "-inf"
  | .notANumber => "NaN"

end ClusterProbe
