import ClusterProbe.Number.Binary64

/-!
# The shortest decimal of a double

Of all decimals that round to a given double, the ones with the fewest digits are wanted, and of
those the nearest to it. For each number of digits only the two neighbours of the double on that
decimal grid have to be looked at: if any point of the grid rounds to the double, one of them does.
-/

namespace ClusterProbe

/-- A decimal `0.d₁d₂… · 10 ^ point` with the digits of `digits`. -/
structure Decimal where
  digits : Nat
  point : Int

namespace Binary64

/-- The reals that round to a positive double, as three fractions over one denominator: the lower
end, the number itself, the upper end. -/
structure Neighbourhood where
  low : Nat
  value : Nat
  high : Nat
  unit : Nat
  closed : Bool

/-- Half the way to either neighbour; below a power of two the lower one is nearer. The ends belong
to the double if its significand is even. -/
def neighbourhood (x : Binary64) : Neighbourhood :=
  let m := x.significand
  let e := x.exponent
  let below := if x.fraction.val = 0 && 1 < x.biased.val then 1 else 2
  let (grain, unit) := if e < 0 then (1, 4 * Nat.pow 2 e.natAbs) else (Nat.pow 2 e.natAbs, 4)
  ⟨(4 * m - below) * grain, 4 * m * grain, (4 * m + 2) * grain, unit, m % 2 = 0⟩

/-- Whether `q · 10 ^ p` rounds to the double. -/
def Neighbourhood.holds (r : Neighbourhood) (q : Nat) (p : Int) : Bool :=
  let (point, unit) :=
    if p < 0 then (q * r.unit, Nat.pow 10 p.natAbs) else (q * r.unit * Nat.pow 10 p.natAbs, 1)
  if r.closed then r.low * unit ≤ point && point ≤ r.high * unit
  else r.low * unit < point && point < r.high * unit

/-- The neighbours of the double on the grid `10 ^ p` that round to it, the nearer one if both
do, and of two equally near ones the even one. -/
def Neighbourhood.onGrid? (r : Neighbourhood) (p : Int) : Option Nat :=
  let (num, den) :=
    if p < 0 then (r.value * Nat.pow 10 p.natAbs, r.unit)
    else (r.value, r.unit * Nat.pow 10 p.natAbs)
  let q := num / den
  let rest := num % den
  match r.holds q p, r.holds (q + 1) p with
  | false, false => none
  | true, false => some q
  | false, true => some (q + 1)
  | true, true =>
    if 2 * rest < den then some q
    else if den < 2 * rest then some (q + 1)
    else if q % 2 = 0 then some q else some (q + 1)

/-- The least `k` with `num / den < 10 ^ k`, found from a first guess. -/
def decimalPoint (num den : Nat) : Int :=
  let digitsOf (n : Nat) : Nat := (Nat.toDigits 10 n).length
  let guess : Int := (digitsOf num : Int) - digitsOf den
  let below (k : Int) : Bool :=
    if k < 0 then num * Nat.pow 10 k.natAbs < den else num < den * Nat.pow 10 k.natAbs
  if below guess then guess else guess + 1

/-- Tries grids of one digit more each time. -/
def shortestFrom (r : Neighbourhood) (point : Int) : Nat → Nat → Decimal
  | 0, _ => ⟨0, 0⟩
  | fuel + 1, k =>
    match r.onGrid? (point - k) with
    | some q => ⟨q, (Nat.toDigits 10 q).length + (point - k)⟩
    | none => shortestFrom r point fuel (k + 1)

/-- The shortest decimal of the absolute value of a double. Seventeen digits always suffice. -/
def shortest (x : Binary64) : Decimal :=
  if x.isZero then ⟨0, 1⟩
  else
    let r := x.neighbourhood
    shortestFrom r (decimalPoint r.value r.unit) 17 1

end Binary64

end ClusterProbe
