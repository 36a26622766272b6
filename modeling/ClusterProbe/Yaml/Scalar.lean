import ClusterProbe.Number.Real
import ClusterProbe.Text.Digit
import ClusterProbe.Yaml.Token

/-!
# What a scalar stands for

A plain scalar may be null, a truth value, an integer in one of four bases or a floating-point
number; every other scalar is text. A tag may ask for one of these kinds, and refuses a scalar that
is not of it.
-/

namespace ClusterProbe.Yaml

/-- What a scalar stands for. An integer has at most 128 bits. -/
inductive Scalar where
  | null
  | bool (b : Bool)
  | integer (i : Int)
  | real (x : Real)
  | text (s : String)
deriving DecidableEq

/-- The spellings of null. -/
def isNullWord (s : String) : Bool := s = "null" || s = "Null" || s = "NULL" || s = "~"

/-- The spellings of the truth values. -/
def truth? (s : String) : Option Bool :=
  if s = "true" || s = "True" || s = "TRUE" then some true
  else if s = "false" || s = "False" || s = "FALSE" then some false
  else none

/-- The natural number of one or more digits in a base. -/
def naturalIn? (base : Nat) (cs : List Char) : Option Nat :=
  if cs.isEmpty then none
  else Text.numberIn? base cs

/-- The base that a zero and a letter announce, with the digits behind them. -/
def basedDigits? : List Char → Option (Nat × List Char)
  | '0' :: 'x' :: r => some (16, r)
  | '0' :: 'o' :: r => some (8, r)
  | '0' :: 'b' :: r => some (2, r)
  | _ => none

/-- The text without a sign in front. -/
def dropSign : List Char → List Char
  | '+' :: r | '-' :: r => r
  | r => r

/-- Decimal digits with a zero in front that they do not need; they are text, not a number. -/
def hasRedundantZero (cs : List Char) : Bool :=
  match dropSign cs with
  | '0' :: d :: r => (d :: r).all Char.isDigit
  | _ => false

/-- The magnitude of an integer whose sign has been read, in base ten or the base it announces. -/
def magnitude? (cs : List Char) : Option Nat :=
  match basedDigits? cs with
  | some (base, ds) => naturalIn? base ds
  | none => if hasRedundantZero cs then none else naturalIn? 10 cs

/-- The integer that a plain scalar denotes, if it fits in 128 bits. -/
def integer? (cs : List Char) : Option Int :=
  match cs with
  | '-' :: r => (magnitude? r).bind fun n ↦ if n ≤ Nat.pow 2 127 then some (-(n : Int)) else none
  | _ =>
    let r := match cs with
      | '+' :: r => r
      | r => r
    (magnitude? r).bind fun n ↦ if n < Nat.pow 2 128 then some (n : Int) else none

/-- A decimal with at least one digit before its exponent: its digits and its exponent of ten. -/
def decimal? (cs : List Char) : Option (Nat × Int) := do
  let (whole, r) := cs.span Char.isDigit
  let (fraction, r) := match r with
    | '.' :: r => r.span Char.isDigit
    | r => ([], r)
  if whole.isEmpty && fraction.isEmpty then none
  else
    let digits ← naturalIn? 10 (whole ++ fraction)
    let scale : Int := -(fraction.length : Int)
    match r with
    | [] => some (digits, scale)
    | e :: r =>
      if e ≠ 'e' && e ≠ 'E' then none
      else
        let (below, r) := match r with
          | '-' :: r => (true, r)
          | '+' :: r => (false, r)
          | r => (false, r)
        let n ← naturalIn? 10 r
        some (digits, scale + (if below then -(n : Int) else n))

/-- The finite double of a decimal with an optional sign; one that is too large is none. -/
def finite? (cs : List Char) : Option Binary64 :=
  let (negative, r) := match cs with
    | '-' :: r => (true, r)
    | '+' :: r => (false, r)
    | r => (false, r)
  (decimal? r).bind fun d ↦ Binary64.ofDecimal negative d.1 d.2

/-- The floating-point number that a scalar denotes. -/
def real? (s : String) : Option Real :=
  if s = ".inf" || s = ".Inf" || s = ".INF" || s = "+.inf" || s = "+.Inf" || s = "+.INF" then
    some (.infinite false)
  else if s = "-.inf" || s = "-.Inf" || s = "-.INF" then some (.infinite true)
  else if s = ".nan" || s = ".NaN" || s = ".NAN" then some .notANumber
  else (finite? s.toList).map .finite

/-- What a plain scalar stands for. -/
def resolve (s : String) : Scalar :=
  if s.isEmpty || isNullWord s then .null
  else match truth? s with
    | some b => .bool b
    | none =>
      match integer? s.toList with
      | some i => .integer i
      | none =>
        if hasRedundantZero s.toList then .text s
        else match real? s with
          | some x => .real x
          | none => .text s

/-- The kinds that a tag may ask for. -/
inductive CoreTag where
  | null | bool | int | float
deriving DecidableEq

/-- The tags of the core kinds. -/
def coreTag? (tag : String) : Option CoreTag :=
  if tag = "tag:yaml.org,2002:null" then some .null
  else if tag = "tag:yaml.org,2002:bool" then some .bool
  else if tag = "tag:yaml.org,2002:int" then some .int
  else if tag = "tag:yaml.org,2002:float" then some .float
  else none

/-- What a tag asks for, as named where a scalar does not meet it. -/
def CoreTag.wanted : CoreTag → String
  | .null => "null"
  | .bool => "a boolean"
  | .int => "an integer"
  | .float => "a float"

/-- The scalar of a kind. -/
def CoreTag.scalar? (s : String) : CoreTag → Option Scalar
  | .null => if isNullWord s then some .null else none
  | .bool => (truth? s).map .bool
  | .int => (integer? s.toList).map .integer
  | .float => (real? s).map .real

/-- A tag of the document's own, which starts with an exclamation mark. -/
def isLocalTag (tag : String) : Bool := tag.toList.head? == some '!'

/-- What a scalar stands for, given its tag and how it is written; if it is not of the kind that its
tag asks for, that kind. -/
def scalarOf (tag : Option String) (style : Style) (s : String) : Except CoreTag Scalar :=
  match tag with
  | none => .ok (if style = .plain then resolve s else .text s)
  | some tag =>
    match coreTag? tag with
    | some core =>
      match core.scalar? s with
      | some v => .ok v
      | none => .error core
    | none => .ok (if isLocalTag tag && style = .plain then resolve s else .text s)

end ClusterProbe.Yaml
