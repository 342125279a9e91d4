/-
  Decimals, and the passage between them and double-precision magnitudes.

  A decimal is a number of the form `digits * 10 ^ exponent`.

  * `Decimal.toMagnitude?` is the magnitude nearest to a decimal;
  * `Magnitude.shortest` is the decimal that a magnitude is written with: of
    the decimals that read back as the magnitude it has the fewest digits, and
    of those it is the nearest one.
-/
import SpriteScene.Number.Magnitude

namespace SpriteScene

/-- The number `digits * 10 ^ exponent`. -/
structure Decimal where
  digits : Nat
  exponent : Int
deriving DecidableEq

namespace Decimal

/-- The magnitude nearest to a decimal, if it is not beyond the largest.

    From `10 ^ 310` on every decimal is beyond the largest magnitude, and below
    `2 ^ -1100` every decimal is nearest to zero; the two tests keep the powers
    of ten within reach whatever the exponent. -/
def toMagnitude? (d : Decimal) : Option Magnitude :=
  if d.digits = 0 then some .zero
  else match d.exponent with
    | .ofNat e =>
      if 310 ≤ e then none else Magnitude.nearest (d.digits * Nat.pow 10 e * Magnitude.unitsPerOne) 1
    | .negSucc e =>
      if Nat.log2 d.digits + 1100 < 3 * e then some .zero
      else Magnitude.nearest (d.digits * Magnitude.unitsPerOne) (Nat.pow 10 (e + 1))

/-- The decimal without trailing zeros among its digits; at most `limit` of
    them are taken off. -/
def trim : (limit : Nat) → Decimal → Decimal
  | 0, d => d
  | limit + 1, d =>
    if d.digits % 10 = 0 then trim limit ⟨d.digits / 10, d.exponent + 1⟩ else d

end Decimal

/-- Which of two decimals at the same distance is written. -/
inductive TieRule where
  /-- The larger one. -/
  | up
  /-- The one whose last digit is even. -/
  | toEven
deriving DecidableEq

namespace Magnitude

/-- Every magnitude is a whole number of `10 ^ -1074`; this is how many. -/
def exactDigits (m : Magnitude) : Nat := m.units * Nat.pow 5 1074

/-- The exact value of a magnitude as a decimal. -/
def exact (m : Magnitude) : Decimal := ⟨m.exactDigits, -1074⟩

/-- Whether a decimal reads back as the magnitude. -/
def readsBack (m : Magnitude) (d : Decimal) : Bool := d.toMagnitude? = some m

/-- Of the two neighbours of a magnitude among the multiples of
    `10 ^ (places - 1074)`, the nearest that reads back as the magnitude. -/
def neighbour? (tie : TieRule) (m : Magnitude) (places : Nat) : Option Decimal :=
  let step := Nat.pow 10 places
  let exponent : Int := places - 1074
  let below : Decimal := ⟨m.exactDigits / step, exponent⟩
  let above : Decimal := ⟨m.exactDigits / step + 1, exponent⟩
  let rest := 2 * (m.exactDigits % step)
  let preferAbove : Bool :=
    if rest < step then false
    else if step < rest then true
    else match tie with
      | .up => true
      | .toEven => below.digits % 2 = 1
  match m.readsBack below, m.readsBack above with
  | true, true => some (if preferAbove then above else below)
  | true, false => some below
  | false, true => some above
  | false, false => none

/-- The decimal a magnitude is written with: the fewest digits that read back,
    the nearest of those, and on a tie the one the rule names.  Seventeen
    digits always suffice; the exact value stands behind them. -/
def shortest (tie : TieRule) (m : Magnitude) : Decimal :=
  if m.rank = 0 then ⟨0, 0⟩
  else
    let length := (Nat.toDigits 10 m.exactDigits).length
    let found := (List.range 17).findSome? fun i => m.neighbour? tie (length - (i + 1))
    (found.getD m.exact).trim length

end Magnitude

end SpriteScene
