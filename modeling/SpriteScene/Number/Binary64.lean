/-
  Double-precision numbers, as the coordinates of objects.

  A number is not-a-number, an infinity, or a sign with a finite magnitude;
  zero has two signs.  Two numbers are equal when they are the same case with
  the same parts, so the two zeros differ and not-a-number equals itself.
-/
import SpriteScene.Number.Magnitude

namespace SpriteScene

/-- A double-precision number. -/
inductive Binary64 where
  | nan
  | infinite (negative : Bool)
  | finite (negative : Bool) (magnitude : Magnitude)
deriving DecidableEq

namespace Binary64

/-- Positive zero. -/
def zero : Binary64 := .finite false .zero

instance : Inhabited Binary64 := ⟨zero⟩

/-- Whether the number is neither infinite nor not-a-number. -/
def isFinite : Binary64 → Bool
  | .finite .. => true
  | _ => false

/-- A sign and a rounded magnitude; a magnitude beyond the largest is an
    infinity. -/
def ofMagnitude? (negative : Bool) : Option Magnitude → Binary64
  | some magnitude => .finite negative magnitude
  | none => .infinite negative

/-- The number nearest to an integer. -/
def ofInt (n : Int) : Binary64 := ofMagnitude? (n < 0) (Magnitude.ofNat n.natAbs)

end Binary64

end SpriteScene
