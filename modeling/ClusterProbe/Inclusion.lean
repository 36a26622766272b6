import ClusterProbe.Json.Printer

/-!
# Structural inclusion

An expectation is included in a document if every entry it asks for is there, at any depth of
mappings, and every item it lists is a member of the list it is compared with. Further entries and
items of the document do not matter. `mismatch` finds the first place where that fails.
-/

namespace ClusterProbe

/-- What is wrong at the place of a mismatch. -/
inductive Discrepancy where
  /-- The document has no entry of the key. -/
  | missingEntry (expected : Json)
  /-- The document's list has no such item. -/
  | missingItem (expected : Json)
  /-- The kinds differ. -/
  | kinds (expected actual : Json)
  /-- Two scalars of one kind differ. -/
  | values (expected actual : Json)

/-- The first place where an expectation is not met: the keys that lead there, and what is wrong. -/
structure Mismatch where
  keys : List String
  reason : Discrepancy

/-- The wording of a discrepancy. -/
def Discrepancy.message : Discrepancy → String
  | .missingEntry e => "missing, expected " ++ e.text
  | .missingItem e => "missing element " ++ e.text
  | .kinds e a =>
    "expected " ++ e.kind.name ++ " " ++ e.text ++ ", actually " ++ a.kind.name ++ " " ++ a.text
  | .values e a => "expected " ++ e.text ++ ", actually " ++ a.text

namespace Mismatch

/-- The place of a mismatch: a dollar sign, and a point before each key. -/
def path (m : Mismatch) : String := m.keys.foldl (fun acc k ↦ acc ++ "." ++ k) "$"

/-- The wording of a mismatch. -/
def message (m : Mismatch) : String := "at " ++ m.path ++ ": " ++ m.reason.message

/-- The same mismatch, one key further out. -/
def under (key : String) (m : Mismatch) : Mismatch := { m with keys := key :: m.keys }

end Mismatch

namespace Json

/-- Whether a list has an item equal to a document. -/
def memberOf (items : List Json) (v : Json) : Bool := items.any fun w ↦ v.same w

mutual

/-- The first place where `expected` is not included in `actual`. -/
def mismatch (expected actual : Json) : Option Mismatch :=
  match expected, actual with
  | .object e, .object a => mismatchEntries e a
  | .array e, .array a =>
    (e.find? fun v ↦ !memberOf a v).map fun v ↦ ⟨[], .missingItem v⟩
  | e, a =>
    if e.kind ≠ a.kind then some ⟨[], .kinds e a⟩
    else if e.same a then none
    else some ⟨[], .values e a⟩

/-- The first entry that is missing or whose value is not included, in the order expected. -/
def mismatchEntries : List (String × Json) → List (String × Json) → Option Mismatch
  | [], _ => none
  | (k, v) :: rest, actual =>
    match find? k actual with
    | none => some ⟨[k], .missingEntry v⟩
    | some w =>
      match mismatch v w with
      | some m => some (m.under k)
      | none => mismatchEntries rest actual

end

/-- Whether `expected` is included in `actual`. -/
def included (expected actual : Json) : Bool := (mismatch expected actual).isNone

end Json

end ClusterProbe
