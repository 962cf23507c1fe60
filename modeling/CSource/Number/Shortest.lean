import CSource.Number.Binary

/-!
# Shortest decimals

A positive binary number stands for all reals that round to it. Of the decimals among them the
shortest is wanted, and of those the nearest: the grids of the powers of ten are tried from the
coarsest on, and on each of them only the two neighbours of the number can be the answer, since
a grid point between them and an end of the interval would be farther off. A neighbour at equal
distance gives way to the even one. All comparisons are between natural numbers.
-/

namespace CSource

/-- A natural number times a power of ten. -/
structure Decimal where
  /-- The number that is scaled. -/
  coefficient : Nat
  /-- The power of ten that scales it. -/
  exponent : Int
deriving DecidableEq

/-- A positive number with the ends of an interval around it, in multiples of a power of two. -/
structure Neighbourhood where
  /-- The number of units at the lower end. -/
  lower : Nat
  /-- The number of units at the number itself. -/
  value : Nat
  /-- The number of units at the upper end. -/
  upper : Nat
  /-- The power of two that is the unit. -/
  unit : Int
  /-- Whether the ends belong to the interval. -/
  closed : Bool

namespace Neighbourhood

/-- The factor that turns units into parts of a grid. -/
def unitScale (around : Neighbourhood) (grid : Int) : Nat :=
  Nat.pow 2 around.unit.toNat * Nat.pow 10 (-grid).toNat

/-- The factor that turns points of a grid into the same parts. -/
def gridScale (around : Neighbourhood) (grid : Int) : Nat :=
  Nat.pow 10 grid.toNat * Nat.pow 2 (-around.unit).toNat

/-- Whether a point of a grid lies in the interval. -/
def holds (around : Neighbourhood) (grid : Int) (point : Nat) : Bool :=
  let lower := around.lower * around.unitScale grid
  let upper := around.upper * around.unitScale grid
  let place := point * around.gridScale grid
  lower < place && place < upper || around.closed && (lower = place || place = upper)

/-- The point of a grid at or right below the number. -/
def below (around : Neighbourhood) (grid : Int) : Nat :=
  around.value * around.unitScale grid / around.gridScale grid

/-- Whether the point right below the number is the nearer one, or the even one at equal
distance. -/
def prefersBelow (around : Neighbourhood) (grid : Int) : Bool :=
  let twice := 2 * (around.value * around.unitScale grid % around.gridScale grid)
  twice < around.gridScale grid ||
    twice = around.gridScale grid && around.below grid % 2 = 0

/-- The preferred neighbour of the number on a grid no coarser than the number itself. -/
def pointOn? (around : Neighbourhood) (grid : Int) : Option Nat :=
  let below := around.below grid
  let candidates := if around.prefersBelow grid then [below, below + 1] else [below + 1, below]
  if below = 0 then none else candidates.find? (around.holds grid)

end Neighbourhood

namespace Binary

/-- The reals that round to a number, in quarters of its last binary place. The gap below a
power of two is half as wide, and ties go to an even significand. -/
def neighbourhood (number : Binary) : Neighbourhood where
  lower :=
    if fractionField number.bits = 0 ∧ 1 < exponentField number.bits
    then 4 * number.significand - 1 else 4 * number.significand - 2
  value := 4 * number.significand
  upper := 4 * number.significand + 2
  unit := number.exponent - 2
  closed := number.significand % 2 = 0

/-- The grids on which the format has numbers, coarsest first. -/
def grids : List Int := (List.range 650).map fun (step : Nat) => 309 - (step : Int)

/-- The shortest decimal that rounds to the magnitude of a number, and the nearest of those. -/
def shortest (number : Binary) : Decimal :=
  let found := grids.findSome? fun grid =>
    (number.neighbourhood.pointOn? grid).map fun point => Decimal.mk point grid
  found.getD ⟨0, 0⟩

end Binary
end CSource
