import BracketQuery.Binary64

/-!
The fewest decimal digits that identify a double. The reals that round to a finite number form an
interval around it; the shortest decimal is a point of that interval on the coarsest decimal grid
that has one, and of two such points the nearer.
-/

namespace BracketQuery

/-- The number `coefficient * 10 ^ exponent`. -/
structure Decimal where
  coefficient : Nat
  exponent : Int
  deriving DecidableEq, Repr

/-- Which of two equally near decimals is taken. -/
inductive Tie where
  | toEven
  | up
  deriving DecidableEq, Repr

namespace Decimal

/-- The same number without trailing zeros in its coefficient, of which at most `fuel` are moved. -/
def stripZeros : Nat → Decimal → Decimal
  | 0, d => d
  | fuel + 1, d =>
    if d.coefficient ≠ 0 ∧ d.coefficient % 10 = 0 then
      stripZeros fuel ⟨d.coefficient / 10, d.exponent + 1⟩
    else d

end Decimal

namespace Binary64

/-- The value of a positive double and the ends of its rounding interval, all as numerators over
`denominator`; the ends belong to the interval when `closed`. -/
structure Interval where
  low : Nat
  value : Nat
  high : Nat
  denominator : Nat
  closed : Bool

/-- The rounding interval of a positive finite double: half way to either neighbour. The neighbour
below a power of two is half as far away as the one above. -/
def interval (x : Binary64) : Interval where
  low := 4 * x.magnitude - (if x.fractionField = 0 ∧ 1 < x.exponentField then 1 else 2) * x.step
  value := 4 * x.magnitude
  high := 4 * x.magnitude + 2 * x.step
  denominator := 4 * unitsPerOne
  closed := x.significand % 2 == 0

namespace Interval

/-- The interval in multiples of `10 ^ exponent`. -/
def scale (i : Interval) (exponent : Int) : Interval :=
  if 0 ≤ exponent then { i with denominator := i.denominator * 10 ^ exponent.toNat }
  else
    let factor := 10 ^ (-exponent).toNat
    { i with low := i.low * factor, value := i.value * factor, high := i.high * factor }

/-- Whether a natural number lies in the interval. -/
def contains (i : Interval) (n : Nat) : Bool :=
  let n := n * i.denominator
  if i.closed then i.low ≤ n && n ≤ i.high else i.low < n && n < i.high

/-- The natural number in the interval that is nearest to its value, if there is one. -/
def nearest? (tie : Tie) (i : Interval) : Option Nat :=
  let below := i.value / i.denominator
  let above := below + 1
  match i.contains below, i.contains above with
  | true, true =>
    let twice := 2 * i.value
    let middle := (below + above) * i.denominator
    if twice < middle then some below
    else if middle < twice then some above
    else match tie with
      | .up => some above
      | .toEven => some (if below % 2 = 0 then below else above)
  | true, false => some below
  | false, true => some above
  | false, false => none

end Interval

/-- The number of decimal digits before the point of a positive finite double, minus the number of
zeros that follow the point when there are none: the least `k` with value below `10 ^ k`. -/
def decimalScale (x : Binary64) : Int :=
  let binary : Int := Nat.log2 x.magnitude - 1074
  let estimate := binary * 30103 / 100000
  ([0, 1, 2].map (estimate + ·)).find? (fun k =>
      let i := x.interval.scale k
      i.value < i.denominator)
    |>.getD (estimate + 3)

/-- The shortest decimal that rounds to the positive finite double `x`. Seventeen digits identify
every double; were they not to, the exact value would be given. -/
def shortest (tie : Tie) (x : Binary64) : Decimal :=
  let scale := x.decimalScale
  let found := (List.range 17).findSome? fun (digits : Nat) =>
    let exponent := scale - (digits + 1)
    ((x.interval.scale exponent).nearest? tie).map fun n => Decimal.mk n exponent
  match found with
  | some d => d.stripZeros 18
  | none => Decimal.stripZeros 1074 ⟨x.magnitude * 5 ^ 1074, -1074⟩

end Binary64

end BracketQuery
