/-
  Magnitudes of double-precision numbers, in exact arithmetic.

  A finite double is a sign and a magnitude, and a magnitude is a multiple of
  the unit `2 ^ -1074`.  The magnitudes are numbered in increasing order by
  their `rank`: the ranks below `2 ^ 53` are the magnitudes of as many units,
  and from there on every binade of `2 ^ 52` ranks doubles the step.

  * `Magnitude.units` is the value of a magnitude, counted in units;
  * `Magnitude.nearest` rounds a quotient of units to the nearest magnitude,
    a tie going to the even rank, and gives nothing beyond the largest one.
-/

namespace SpriteScene

/-- How many magnitudes there are from one power of two up to the next one:
    `2 ^ 52`. -/
def Magnitude.binade : Nat := 0x10000000000000

/-- A finite magnitude, given by its place in the increasing order. -/
structure Magnitude where
  rank : Nat
  rank_lt : rank < 2047 * Magnitude.binade := by decide
deriving DecidableEq

namespace Magnitude

/-- How many units make one: the unit is `2 ^ -1074`. -/
def unitsPerOne : Nat := Nat.pow 2 1074

/-- The binary exponent of the step between a magnitude and its successor. -/
def shift (m : Magnitude) : Nat := m.rank / binade - 1

/-- The value of a magnitude, counted in units. -/
def units (m : Magnitude) : Nat := (m.rank - m.shift * binade) * Nat.pow 2 m.shift

/-- The magnitude zero. -/
def zero : Magnitude := ⟨0, by decide⟩

/-- The rank nearest to `num / den` units, as if there were no largest one.

    The quotient is cut to 53 binary digits, and the remainder decides between
    the cut and its successor; a remainder of exactly half a step goes to the
    even rank. -/
def nearestRank (num den : Nat) : Nat :=
  let whole := num / den
  let shift := Nat.log2 whole + 1 - 53
  let step := Nat.pow 2 shift * den
  let below := shift * binade + num / step
  let rest := 2 * (num % step)
  if rest < step then below
  else if step < rest then below + 1
  else if below % 2 = 0 then below
  else below + 1

/-- The magnitude of a given rank, if there is one. -/
def ofRank? (rank : Nat) : Option Magnitude :=
  if h : rank < 2047 * binade then some ⟨rank, h⟩ else none

/-- The magnitude nearest to `num / den` units, if it is not beyond the
    largest. -/
def nearest (num den : Nat) : Option Magnitude := ofRank? (nearestRank num den)

/-- The magnitude nearest to a natural number. -/
def ofNat (n : Nat) : Option Magnitude := nearest (n * unitsPerOne) 1

/-- The product of two magnitudes, rounded. -/
def mul (a b : Magnitude) : Option Magnitude := nearest (a.units * b.units) unitsPerOne

/-- The quotient of two magnitudes, rounded. -/
def div (a b : Magnitude) : Option Magnitude := nearest (a.units * unitsPerOne) b.units

end Magnitude

end SpriteScene
