/-
  Hexadecimal digits.

  * `hexDigit?` is the value of a digit of either case;
  * `hexQuad` writes a number below `2 ^ 16` by four digits, `ofHexQuad?` reads
    four digits;
  * `length_le_flatMap`: a text is no longer than with its characters escaped.
-/

namespace SpriteScene

/-- The value of a hexadecimal digit. -/
def hexDigit? (c : Char) : Option Nat :=
  if c.isDigit then some (c.toNat - '0'.toNat)
  else if 'a' ≤ c ∧ c ≤ 'f' then some (c.toNat - 'a'.toNat + 10)
  else if 'A' ≤ c ∧ c ≤ 'F' then some (c.toNat - 'A'.toNat + 10)
  else none

/-- A number below `2 ^ 16` by four digits. -/
def hexQuad (n : Nat) : List Char :=
  [Nat.digitChar (n / 0x1000 % 16), Nat.digitChar (n / 0x100 % 16), Nat.digitChar (n / 0x10 % 16),
    Nat.digitChar (n % 16)]

/-- The number that four digits stand for. -/
def ofHexQuad? (a b c d : Char) : Option Nat := do
  let a ← hexDigit? a
  let b ← hexDigit? b
  let c ← hexDigit? c
  let d ← hexDigit? d
  return ((a * 16 + b) * 16 + c) * 16 + d

theorem hexDigit?_digitChar : ∀ n < 16, hexDigit? (Nat.digitChar n) = some n := by decide

theorem ofHexQuad?_hexQuad {n : Nat} (h : n < 0x10000) :
    ofHexQuad? (Nat.digitChar (n / 0x1000 % 16)) (Nat.digitChar (n / 0x100 % 16))
      (Nat.digitChar (n / 0x10 % 16)) (Nat.digitChar (n % 16)) = some n := by
  have digit (k : Nat) : hexDigit? (Nat.digitChar (k % 16)) = some (k % 16) :=
    hexDigit?_digitChar _ (Nat.mod_lt _ (by decide))
  simp only [ofHexQuad?, digit, Option.bind_eq_bind, Option.bind_some, Option.pure_def,
    Option.some.injEq]
  omega

theorem length_le_flatMap {escape : Char → List Char} (h : ∀ c, escape c ≠ []) (cs : List Char) :
    cs.length ≤ (cs.flatMap escape).length := by
  induction cs with
  | nil => exact Nat.le_refl _
  | cons c cs ih =>
    have hc := List.length_pos_iff.2 (h c)
    rw [List.flatMap_cons, List.length_append, List.length_cons]
    omega

end SpriteScene
