import ClusterProbe.Number.Shortest

/-!
# How a number is laid out

The text of a double from its shortest decimal: where positional notation ends, and how an
exponent is written.
-/

namespace ClusterProbe

/-- How the text of a double looks. -/
structure NumberLayout where
  /-- The exponents of the leading digit, from and to, that are written positionally; none for
  all of them. -/
  positional : Option (Int × Int)

namespace NumberLayout

/-- Numbers in documents are positional from `0.00001` to below `10 ^ 16`, and otherwise have an
exponent with its sign. -/
def document : NumberLayout := ⟨some (-5, 15)⟩

/-- Numbers in messages are always positional. -/
def message : NumberLayout := ⟨none⟩

/-- Digits without the zeros they end with. -/
def significantDigits (n : Nat) : List Char :=
  let ds := ((Nat.toDigits 10 n).reverse.dropWhile (· = '0')).reverse
  if ds.isEmpty then ['0'] else ds

/-- The digits with a point after the first `point` of them, padded with zeros on the side where
digits are missing. There is at least one digit on either side of the point. -/
def pointed (ds : List Char) (point : Int) : List Char :=
  if point ≤ 0 then '0' :: '.' :: (List.replicate point.natAbs '0' ++ ds)
  else
    let n := point.natAbs
    let fraction := ds.drop n
    ds.take n ++ List.replicate (n - ds.length) '0' ++
      '.' :: (if fraction.isEmpty then ['0'] else fraction)

/-- One digit, the others after a point, and the exponent with its sign. -/
def scientific (ds : List Char) (e : Int) : List Char :=
  let mantissa := match ds with
    | [] => []
    | [d] => [d]
    | d :: rest => d :: '.' :: rest
  mantissa ++ 'e' :: (if e < 0 then '-' else '+') :: Nat.toDigits 10 e.natAbs

/-- The text of a double. -/
def text (layout : NumberLayout) (x : Binary64) : List Char :=
  let d := x.shortest
  let ds := significantDigits d.digits
  let e := d.point - 1
  let body := match layout.positional with
    | none => pointed ds d.point
    | some (low, high) => if low ≤ e && e ≤ high then pointed ds d.point else scientific ds e
  if x.negative then '-' :: body else body

end NumberLayout

end ClusterProbe
