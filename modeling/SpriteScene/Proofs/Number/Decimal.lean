/-
  Decimals as quotients of units.

  * `toMagnitude?_eq`: the magnitude of a decimal is the one nearest to its
    quotient of units; the tests for very large and very small decimals only
    save work;
  * `toMagnitude?_trim`: zeros taken off the end of the digits change nothing;
  * `toMagnitude?_onGrid`: the same for the multiples of `10 ^ (places - 1074)`,
    counted in multiples of `10 ^ -1074`.
-/
import SpriteScene.Number.Decimal
import SpriteScene.Proofs.Number.Rounding

namespace SpriteScene

open Magnitude

/-! ## Digits of numbers -/

theorem lt_pow_length_toDigits (n : Nat) : n < 10 ^ (Nat.toDigits 10 n).length :=
  (Nat.length_toDigits_le_iff (by decide) Nat.length_toDigits_pos).1 (Nat.le_refl _)

theorem pow_le_of_lt_length_toDigits {n k : Nat} (hk : 0 < k)
    (h : k < (Nat.toDigits 10 n).length) : 10 ^ k ≤ n := by
  by_contra hlt
  exact Nat.not_le.2 h ((Nat.length_toDigits_le_iff (by decide) hk).2 (Nat.not_le.1 hlt))

namespace Decimal

/-! ## Quotients -/

/-- The dividend of a decimal in units. -/
def numerator (d : Decimal) : Nat :=
  match d.exponent with
  | .ofNat e => d.digits * 10 ^ e * unitsPerOne
  | .negSucc _ => d.digits * unitsPerOne

/-- The divisor of a decimal in units. -/
def denominator (d : Decimal) : Nat :=
  match d.exponent with
  | .ofNat _ => 1
  | .negSucc e => 10 ^ (e + 1)

theorem denominator_pos (d : Decimal) : 0 < d.denominator := by
  unfold denominator
  split
  · exact Nat.one_pos
  · exact Nat.pow_pos (by decide)

theorem two_pow_mul_unitsPerOne (n : Nat) : 2 ^ n * unitsPerOne = 2 ^ (n + 1074) := by
  unfold unitsPerOne
  generalize 1074 = k
  exact (Nat.pow_add 2 n k).symm

/-- From `10 ^ 310` on there is no magnitude. -/
theorem nearest_eq_none_of_large {n e : Nat} (hn : 0 < n) (he : 310 ≤ e) :
    nearest (n * 10 ^ e * unitsPerOne) 1 = none := by
  obtain ⟨k, hk, hnone⟩ : ∃ k, k = 310 ∧ nearest (Nat.pow 10 k * unitsPerOne) 1 = none :=
    ⟨_, rfl, by decide +kernel⟩
  cases hm : nearest (n * 10 ^ e * unitsPerOne) 1 with
  | none => rfl
  | some m =>
    have hle : 10 ^ k ≤ n * 10 ^ e :=
      calc 10 ^ k ≤ 10 ^ e := Nat.pow_le_pow_right (by decide) (by omega)
        _ ≤ n * 10 ^ e := Nat.le_mul_of_pos_left _ hn
    obtain ⟨m', hm', -⟩ := nearest_mono Nat.one_pos Nat.one_pos
      (Nat.mul_le_mul_right 1 (Nat.mul_le_mul_right unitsPerOne hle)) hm
    rw [← Nat.pow_eq, hnone] at hm'
    cases hm'

/-- What is less than half a unit is nearest to zero. -/
theorem nearest_eq_zero {num den : Nat} (h : 2 * num < den) : nearest num den = some zero := by
  have hmid : midpoint 0 = 1 := by decide
  refine (nearest_eq_some_iff (Nat.zero_lt_of_lt h)).2 ⟨Or.inl ?_, fun r hr => nomatch hr⟩
  rw [show zero.rank = 0 from rfl, hmid]
  omega

/-- **The magnitude of a decimal** is the one nearest to its quotient. -/
theorem toMagnitude?_eq (d : Decimal) :
    d.toMagnitude? = nearest d.numerator d.denominator := by
  obtain ⟨digits, exponent⟩ := d
  unfold toMagnitude?
  split
  · rename_i hzero
    have hnum : numerator ⟨digits, exponent⟩ = 0 := by
      unfold numerator
      rw [show digits = 0 from hzero]
      split <;> simp
    rw [hnum, nearest_eq_zero]
    exact denominator_pos _
  · rename_i hne
    have hpos : 0 < digits := Nat.pos_of_ne_zero hne
    cases exponent with
    | ofNat e =>
      simp only [numerator, denominator, Nat.pow_eq]
      split
      · exact (nearest_eq_none_of_large hpos ‹_›).symm
      · rfl
    | negSucc e =>
      simp only [numerator, denominator, Nat.pow_eq]
      split
      · refine (nearest_eq_zero ?_).symm
        calc 2 * (digits * unitsPerOne)
            < 2 * (2 ^ (Nat.log2 digits + 1) * unitsPerOne) := by
              have := Nat.mul_lt_mul_of_pos_right (Nat.lt_log2_self (n := digits)) unitsPerOne_pos
              omega
          _ = 2 ^ (Nat.log2 digits + 1 + 1074 + 1) := by
              rw [two_pow_mul_unitsPerOne, ← Nat.pow_succ']
          _ ≤ 2 ^ (3 * e) := Nat.pow_le_pow_right (by decide) (by omega)
          _ = 8 ^ e := by rw [Nat.pow_mul]
          _ ≤ 10 ^ e := Nat.pow_le_pow_left (by decide) e
          _ ≤ 10 ^ (e + 1) := Nat.pow_le_pow_right (by decide) (Nat.le_succ e)
      · rfl

/-- A zero at the end of the digits can go into the exponent. -/
theorem toMagnitude?_shift (n : Nat) (e : Int) :
    toMagnitude? ⟨n, e + 1⟩ = toMagnitude? ⟨10 * n, e⟩ := by
  rw [toMagnitude?_eq, toMagnitude?_eq]
  refine nearest_congr (denominator_pos _) (denominator_pos _) ?_
  cases e with
  | ofNat e =>
    rw [show Int.ofNat e + 1 = Int.ofNat (e + 1) from rfl]
    simp only [numerator, denominator]
    ring
  | negSucc e =>
    cases e with
    | zero =>
      rw [show Int.negSucc 0 + 1 = Int.ofNat 0 from rfl]
      simp only [numerator, denominator]
      ring
    | succ e =>
      rw [show Int.negSucc (e + 1) + 1 = Int.negSucc e from rfl]
      simp only [numerator, denominator]
      ring

theorem toMagnitude?_trim (limit : Nat) (d : Decimal) :
    (d.trim limit).toMagnitude? = d.toMagnitude? := by
  induction limit generalizing d with
  | zero => rfl
  | succ limit ih =>
    unfold trim
    split
    · rename_i h
      rw [ih, toMagnitude?_shift, Nat.mul_div_cancel' (Nat.dvd_of_mod_eq_zero h)]
    · rfl

theorem digits_trim_le (limit : Nat) (d : Decimal) : (d.trim limit).digits ≤ d.digits := by
  induction limit generalizing d with
  | zero => exact Nat.le_refl _
  | succ limit ih =>
    unfold trim
    split
    · exact (ih _).trans (Nat.div_le_self _ _)
    · exact Nat.le_refl _

/-- With enough tries all zeros are taken off the end. -/
theorem digits_trim_mod_ne_zero {limit : Nat} {d : Decimal} (hd : d.digits ≠ 0)
    (hlt : d.digits < 10 ^ limit) : (d.trim limit).digits % 10 ≠ 0 := by
  induction limit generalizing d with
  | zero =>
    rw [Nat.pow_zero] at hlt
    omega
  | succ limit ih =>
    unfold trim
    split
    · rw [Nat.pow_succ] at hlt
      refine ih ?_ ?_ <;> dsimp only <;> omega
    · assumption

/-! ## The grid of the exact values -/

/-- How many multiples of `10 ^ -1074` make a unit. -/
def gridUnit : Nat := Nat.pow 5 1074

theorem gridUnit_pos : 0 < gridUnit := by
  unfold gridUnit
  generalize 1074 = k
  exact Nat.pow_pos (by decide)

theorem unitsPerOne_mul_gridUnit {a b c : Nat} (h : a + 1074 = b + c) :
    10 ^ a * (unitsPerOne * gridUnit) = 10 ^ b * 10 ^ c := by
  unfold unitsPerOne gridUnit
  generalize 1074 = k at *
  rw [Nat.pow_eq, Nat.pow_eq, ← Nat.mul_pow, ← Nat.pow_add, ← Nat.pow_add, h]

/-- A multiple of `10 ^ (places - 1074)`. -/
def onGrid (n places : Nat) : Decimal := ⟨n, (places : Int) - 1074⟩

/-- The magnitude of a decimal on a grid, from its multiple of `10 ^ -1074`. -/
theorem toMagnitude?_onGrid (n places : Nat) :
    (onGrid n places).toMagnitude? = nearest (n * 10 ^ places) gridUnit := by
  rw [toMagnitude?_eq, onGrid]
  refine nearest_congr (denominator_pos _) gridUnit_pos ?_
  rcases Nat.lt_or_ge places 1074 with h | h
  · obtain ⟨k, hk⟩ : ∃ k, 0 + 1074 = places + (k + 1) := ⟨1073 - places, by omega⟩
    have hexp : (places : Int) - 1074 = Int.negSucc k := by omega
    have hpow := unitsPerOne_mul_gridUnit hk
    rw [hexp]
    simp only [numerator, denominator]
    rw [Nat.mul_assoc, Nat.mul_assoc]
    generalize unitsPerOne * gridUnit = x at *
    rw [← hpow, Nat.pow_zero, Nat.one_mul]
  · obtain ⟨k, hk⟩ : ∃ k, k + 1074 = places + 0 := ⟨places - 1074, by omega⟩
    have hexp : (places : Int) - 1074 = Int.ofNat k := by
      rw [Int.ofNat_eq_natCast]
      omega
    rw [hexp]
    simp only [numerator, denominator]
    rw [Nat.mul_assoc, Nat.mul_assoc, unitsPerOne_mul_gridUnit hk, Nat.pow_zero, Nat.mul_one,
      Nat.mul_one]

end Decimal

end SpriteScene
