import DocShape.Number.Binary64

/-!
The shortest decimal of a binary magnitude: among the decimals that read back as the magnitude,
those on the coarsest grid of powers of ten have the fewest digits, and of them the one nearest
to the magnitude is taken.

The reals that read back form an interval around the magnitude. If a point of a grid lies in it,
so does one of the two neighbours of the magnitude on that grid, hence only those are tried.
-/

namespace DocShape

-- Powers are those of core, whatever else is imported.
attribute [local instance (2000)] instPowNat

/-- Which of two equally near decimals is taken. -/
inductive Tie where
  | toEven
  | up
deriving DecidableEq

/-- The number `digits * 10 ^ exponent`. -/
structure Decimal where
  digits : Nat
  exponent : Int
deriving DecidableEq

/-- The reals that round to `value`, in quarters of a unit. The ends belong to it when the
significand is even. -/
structure RoundingInterval where
  low : Nat
  value : Nat
  high : Nat
  closed : Bool

namespace RoundingInterval

/-- The next magnitude below a power of two is only half as far away as the next one above. -/
def of {f : Format} (x : f.Magnitude) : RoundingInterval :=
  let value := 4 * x.units
  let gap := 2 ^ x.scale
  let narrow := x.significand = 2 ^ (f.precision - 1) ∧ x.scale ≠ 0
  { low := value - if narrow then gap else 2 * gap
    value := value
    high := value + 2 * gap
    closed := x.significand % 2 = 0 }

/-- Whether `num / den` quarters of a unit lie in the interval. -/
def contains (r : RoundingInterval) (num den : Nat) : Bool :=
  if r.closed then r.low * den ≤ num && num ≤ r.high * den
  else r.low * den < num && num < r.high * den

/-- The multiple of `num / den` quarters in the interval that is nearest to its value. -/
def nearestMultiple? (r : RoundingInterval) (tie : Tie) (num den : Nat) : Option Nat :=
  let below := r.value * den / num
  let above := below + 1
  match r.contains (below * num) den, r.contains (above * num) den with
  | false, false => none
  | true, false => some below
  | false, true => some above
  | true, true =>
    match compare (2 * (r.value * den)) ((below + above) * num), tie with
    | .lt, _ => some below
    | .gt, _ => some above
    | .eq, .up => some above
    | .eq, .toEven => if below % 2 = 0 then some below else some above

end RoundingInterval

namespace Format.Magnitude

variable {f : Format}

/-- The grid `10 ^ exponent` as a ratio of quarters of a unit. -/
def gridOf (f : Format) (exponent : Int) : Nat × Nat :=
  (10 ^ exponent.toNat * (4 * f.one), 10 ^ (-exponent).toNat)

/-- An exponent whose power of ten is above the magnitude. -/
def exponentAbove (x : f.Magnitude) : Int :=
  ((x.units.log2 + 1 : Int) - f.unitExponent) * 30103 / 100000 + 2

/-- Tries the grids from `exponent` downwards, at most `steps` many. -/
def decimalFrom (x : f.Magnitude) (tie : Tie) : Nat → Int → Decimal
  | 0, exponent =>
    let (num, den) := gridOf f exponent
    ⟨4 * x.units * den / num, exponent⟩
  | steps + 1, exponent =>
    let (num, den) := gridOf f exponent
    match (RoundingInterval.of x).nearestMultiple? tie num den with
    | some digits => ⟨digits, exponent⟩
    | none => x.decimalFrom tie steps (exponent - 1)

/-- The shortest decimal that reads back as the magnitude. Seventeen digits always suffice. -/
def shortest (x : f.Magnitude) (tie : Tie) : Decimal :=
  if x.significand = 0 then ⟨0, 0⟩ else x.decimalFrom tie 24 x.exponentAbove

end Format.Magnitude
end DocShape
