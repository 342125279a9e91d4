/-
  Rounding, told in rational numbers.

  * `Magnitude.valueAt` and `Decimal.value` are the exact values of ranks and decimals;
  * `RoundsTo`: no rank is nearer to a number, and an odd one is the only one so near;
  * `isNearest_iff_roundsTo`: the midpoints between ranks say the same, and so
    `Decimal.toMagnitude?_eq_some_iff`: the magnitude of a decimal is the one that its
    exact value rounds to.
-/
import Mathlib.Algebra.Order.Field.Basic
import Mathlib.Algebra.Order.Ring.Rat
import Mathlib.Data.Nat.Cast.Order.Ring
import Mathlib.Tactic.FieldSimp
import SpriteScene.Proofs.Number.Decimal

namespace SpriteScene

open Magnitude

/-! ## Distances -/

section
variable {a b q : ℚ}

theorem abs_sub_le_abs_sub_right_iff (h : a < b) : |q - a| ≤ |q - b| ↔ 2 * q ≤ a + b := by
  have hsquares : (q - b) ^ 2 - (q - a) ^ 2 = (b - a) * (a + b - 2 * q) := by ring
  rw [← sq_le_sq, ← sub_nonneg, hsquares, mul_nonneg_iff_of_pos_left (sub_pos.2 h), sub_nonneg]

theorem abs_sub_le_abs_sub_left_iff (h : a < b) : |q - b| ≤ |q - a| ↔ a + b ≤ 2 * q := by
  have hsquares : (q - a) ^ 2 - (q - b) ^ 2 = (b - a) * (2 * q - (a + b)) := by ring
  rw [← sq_le_sq, ← sub_nonneg, hsquares, mul_nonneg_iff_of_pos_left (sub_pos.2 h), sub_nonneg]

theorem abs_sub_eq_abs_sub_iff (h : a < b) : |q - a| = |q - b| ↔ 2 * q = a + b := by
  rw [le_antisymm_iff, le_antisymm_iff, abs_sub_le_abs_sub_right_iff h,
    abs_sub_le_abs_sub_left_iff h]

end

/-! ## Values -/

/-- The value of a rank, as if there were no largest magnitude. -/
def Magnitude.valueAt (rank : Nat) : ℚ := unitsAt rank / unitsPerOne

/-- The value of a decimal. -/
def Decimal.value (d : Decimal) : ℚ := d.digits * 10 ^ d.exponent

theorem cast_unitsPerOne_pos : (0 : ℚ) < unitsPerOne := Nat.cast_pos.2 unitsPerOne_pos

theorem valueAt_strictMono : StrictMono valueAt := fun _ _ h =>
  div_lt_div_of_pos_right (Nat.cast_lt.2 (unitsAt_strictMono h)) cast_unitsPerOne_pos

theorem Decimal.value_eq (d : Decimal) :
    d.value = (d.numerator : ℚ) / d.denominator / unitsPerOne := by
  have hunit := cast_unitsPerOne_pos.ne'
  obtain ⟨digits, e | e⟩ := d
  · simp only [value, numerator, denominator]
    generalize unitsPerOne = unit at *
    rw [Int.ofNat_eq_natCast, zpow_natCast]
    push_cast
    field_simp
  · simp only [value, numerator, denominator]
    generalize unitsPerOne = unit at *
    rw [zpow_negSucc]
    push_cast
    field_simp

/-! ## Rounding -/

/-- Whether a rank is nearest to a number; if two are, it has to be the even one, which
    is the one whose last binary digit is zero. -/
structure RoundsTo (q : ℚ) (rank : Nat) : Prop where
  le : ∀ r, |q - valueAt rank| ≤ |q - valueAt r|
  even_of_tie : ∀ r, |q - valueAt rank| = |q - valueAt r| → r = rank ∨ rank % 2 = 0

/-- On which side a number lies of the middle between a rank and the next one. -/
theorem two_mul_le_midpoint_iff (num : Nat) {den : Nat} (hden : 0 < den) (r : Nat) :
    (2 * num ≤ Magnitude.midpoint r * den ↔
      2 * ((num : ℚ) / den / unitsPerOne) ≤ valueAt r + valueAt (r + 1)) ∧
    (Magnitude.midpoint r * den ≤ 2 * num ↔
      valueAt r + valueAt (r + 1) ≤ 2 * ((num : ℚ) / den / unitsPerOne)) := by
  have hunit := cast_unitsPerOne_pos
  have hden' : (0 : ℚ) < den := Nat.cast_pos.2 hden
  have hnum : 2 * ((num : ℚ) / den / unitsPerOne) = (2 * num : ℕ) / (den * unitsPerOne) := by
    push_cast
    field_simp
  have hmid : valueAt r + valueAt (r + 1) =
      (Magnitude.midpoint r * den : ℕ) / (den * unitsPerOne) := by
    rw [valueAt, valueAt, Magnitude.midpoint]
    push_cast
    field_simp
  have hscale : (0 : ℚ) < den * unitsPerOne := mul_pos hden' hunit
  rw [hnum, hmid, div_le_div_iff_of_pos_right hscale, div_le_div_iff_of_pos_right hscale,
    Nat.cast_le, Nat.cast_le]
  exact ⟨Iff.rfl, Iff.rfl⟩

theorem lt_or_eq_and_iff {a b : Nat} {p : Prop} : a < b ∨ a = b ∧ p ↔ a ≤ b ∧ (b ≤ a → p) := by
  constructor
  · rintro (h | ⟨rfl, hp⟩)
    · exact ⟨h.le, fun hle => absurd h (Nat.not_lt.2 hle)⟩
    · exact ⟨le_rfl, fun _ => hp⟩
  · rintro ⟨hle, hp⟩
    rcases hle.lt_or_eq with h | h
    · exact Or.inl h
    · exact Or.inr ⟨h, hp h.ge⟩

/-- The bounds of what is rounded to a rank, which belong to it if it is even. -/
theorem isNearest_iff {num den rank : Nat} {q : ℚ} (hden : 0 < den)
    (hq : (num : ℚ) / den / unitsPerOne = q) :
    IsNearest num den rank ↔
      (2 * q ≤ valueAt rank + valueAt (rank + 1) ∧
        (valueAt rank + valueAt (rank + 1) ≤ 2 * q → rank % 2 = 0)) ∧
      ∀ r, rank = r + 1 → valueAt r + valueAt (r + 1) ≤ 2 * q ∧
        (2 * q ≤ valueAt r + valueAt (r + 1) → rank % 2 = 0) := by
  subst hq
  have hside := two_mul_le_midpoint_iff num hden
  simp only [← (hside _).1, ← (hside _).2]
  constructor
  · intro h
    exact ⟨lt_or_eq_and_iff.1 h.le_above, fun r hr => lt_or_eq_and_iff.1 (h.below_le r hr)⟩
  · rintro ⟨habove, hbelow⟩
    exact ⟨lt_or_eq_and_iff.2 habove, fun r hr => lt_or_eq_and_iff.2 (hbelow r hr)⟩

/-- **The nearest rank** is nearest among all ranks. -/
theorem isNearest_iff_roundsTo {num den rank : Nat} (hden : 0 < den) :
    IsNearest num den rank ↔ RoundsTo ((num : ℚ) / den / unitsPerOne) rank := by
  rw [isNearest_iff hden rfl]
  generalize ((num : ℚ) / den / unitsPerOne) = q
  have hnext (r : Nat) : valueAt r < valueAt (r + 1) := valueAt_strictMono (Nat.lt_succ_self r)
  constructor
  · rintro ⟨⟨habove, heven⟩, hbelow⟩
    refine ⟨fun r => ?_, fun r htie => ?_⟩
    all_goals rcases lt_trichotomy r rank with hlt | rfl | hlt
    · obtain ⟨k, rfl⟩ := Nat.exists_eq_succ_of_ne_zero (Nat.ne_zero_of_lt hlt)
      have hmono := valueAt_strictMono.monotone (Nat.le_of_lt_succ hlt)
      refine (abs_sub_le_abs_sub_left_iff (valueAt_strictMono hlt)).2 ?_
      linarith [(hbelow k rfl).1]
    · exact le_rfl
    · have hmono := valueAt_strictMono.monotone (Nat.succ_le_of_lt hlt)
      refine (abs_sub_le_abs_sub_right_iff (valueAt_strictMono hlt)).2 ?_
      linarith
    · obtain ⟨k, rfl⟩ := Nat.exists_eq_succ_of_ne_zero (Nat.ne_zero_of_lt hlt)
      have hmono := valueAt_strictMono.monotone (Nat.le_of_lt_succ hlt)
      have hmiddle := (abs_sub_eq_abs_sub_iff (valueAt_strictMono hlt)).1 htie.symm
      exact Or.inr ((hbelow k rfl).2 (by linarith))
    · exact Or.inl rfl
    · have hmono := valueAt_strictMono.monotone (Nat.succ_le_of_lt hlt)
      have hmiddle := (abs_sub_eq_abs_sub_iff (valueAt_strictMono hlt)).1 htie
      exact Or.inr (heven (by linarith))
  · rintro ⟨hle, htie⟩
    refine ⟨⟨(abs_sub_le_abs_sub_right_iff (hnext rank)).1 (hle _), fun hge => ?_⟩, ?_⟩
    · have hmiddle := le_antisymm ((abs_sub_le_abs_sub_right_iff (hnext rank)).1 (hle _)) hge
      exact (htie _ ((abs_sub_eq_abs_sub_iff (hnext rank)).2 hmiddle)).resolve_left (by omega)
    · rintro r rfl
      have hbelow := (abs_sub_le_abs_sub_left_iff (hnext r)).1 (hle r)
      refine ⟨hbelow, fun hge => ?_⟩
      have hmiddle := (abs_sub_eq_abs_sub_iff (hnext r)).2 (le_antisymm hge hbelow)
      exact (htie r hmiddle.symm).resolve_left (by omega)

/-- **No two ranks are nearest.** -/
theorem RoundsTo.unique {q : ℚ} {r r' : Nat} (h : RoundsTo q r) (h' : RoundsTo q r') : r = r' := by
  by_contra hne
  wlog hlt : r < r' generalizing r r'
  · exact this h' h (Ne.symm hne) (by omega)
  have htie : |q - valueAt r| = |q - valueAt r'| := le_antisymm (h.le r') (h'.le r)
  have hmiddle := (abs_sub_eq_abs_sub_iff (valueAt_strictMono hlt)).1 htie
  have heven := (h.even_of_tie r' htie).resolve_left (Ne.symm hne)
  have heven' := (h'.even_of_tie r htie.symm).resolve_left hne
  -- between even ranks there is another one, which would be nearer
  have hnext := (abs_sub_le_abs_sub_right_iff (valueAt_strictMono (Nat.lt_succ_self r))).1
    (h.le (r + 1))
  have hgap : valueAt (r + 1) < valueAt r' := valueAt_strictMono (by omega)
  linarith

/-- **The magnitude of a decimal** is the one that its value rounds to. -/
theorem Decimal.toMagnitude?_eq_some_iff {d : Decimal} {m : Magnitude} :
    d.toMagnitude? = some m ↔ RoundsTo d.value m.rank := by
  rw [toMagnitude?_eq, nearest_eq_some_iff d.denominator_pos,
    isNearest_iff_roundsTo d.denominator_pos, value_eq]

end SpriteScene
