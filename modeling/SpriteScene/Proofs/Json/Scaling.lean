/-
  Significands scaled by rounded powers of ten.

  The double of a numeral goes through two or more roundings, so it need not be
  the nearest one.

  * `exists_scale?`: a significand of no more than seventeen digits stays in
    range, as long as the exact value does not go beyond the largest magnitude;
  * `Exact`: a significand that is a double, as all below `2 ^ 53` are;
  * `scale?_eq_toMagnitude?`: if the significand is a double itself and the power
    of ten is at most 22 in either direction, both factors are exact, and the
    one rounding that is left gives the nearest double.
-/
import SpriteScene.Json.Numeral
import SpriteScene.Proofs.Number.Decimal

namespace SpriteScene

open Json

namespace Magnitude

/-- The largest magnitude. -/
def largest : Magnitude := ⟨2047 * binade - 1, by decide⟩

theorem eq_largest {m : Magnitude} (h : largest.rank ≤ m.rank) : m = largest :=
  eq_of_rank_eq (Nat.le_antisymm (Nat.le_sub_one_of_lt m.rank_lt) h)

/-! ## Rounding keeps the order -/

theorem ofNat_mono {n n' : Nat} (h : n ≤ n') {m' : Magnitude} (hm' : ofNat n' = some m') :
    ∃ m, ofNat n = some m ∧ m.rank ≤ m'.rank :=
  nearest_mono Nat.one_pos Nat.one_pos
    (Nat.mul_le_mul_right 1 (Nat.mul_le_mul_right unitsPerOne h)) hm'

theorem mul_mono {a a' b b' m' : Magnitude} (ha : a.rank ≤ a'.rank) (hb : b.rank ≤ b'.rank)
    (hm' : a'.mul b' = some m') : ∃ m, a.mul b = some m ∧ m.rank ≤ m'.rank :=
  nearest_mono unitsPerOne_pos unitsPerOne_pos
    (Nat.mul_le_mul_right unitsPerOne
      (Nat.mul_le_mul (units_le_units.2 ha) (units_le_units.2 hb))) hm'

/-- Dividing by one or more stays in range. -/
theorem exists_div (m : Magnitude) {p : Magnitude} (hp : unitsPerOne ≤ p.units) :
    ∃ m', m.div p = some m' := by
  have hle : m.units * unitsPerOne * 1 ≤ m.units * 1 * p.units := by
    rw [Nat.mul_one, Nat.mul_one]
    exact Nat.mul_le_mul_left _ hp
  obtain ⟨m', hm', -⟩ := nearest_mono (unitsPerOne_pos.trans_le hp) Nat.one_pos hle
    (m.nearest_units Nat.one_pos)
  exact ⟨m', hm'⟩

/-! ## Exact whole numbers -/

theorem ofNat_zero : ofNat 0 = some zero := by
  rw [ofNat, Nat.zero_mul, Decimal.nearest_eq_zero (by decide)]

/-- Whole numbers that are magnitudes. -/
def Exact (n : Nat) : Prop := ∃ m, ofNat n = some m ∧ m.units = n * unitsPerOne

/-- Whole numbers below `2 ^ 53` are magnitudes, and so are their multiples by
    powers of two. -/
theorem exact_mul_two_pow {n j : Nat} (h : n < 2 ^ 53) (hj : j ≤ 900) : Exact (n * 2 ^ j) := by
  suffices hm : ∃ m : Magnitude, m.units = n * 2 ^ j * unitsPerOne by
    obtain ⟨m, hm⟩ := hm
    exact ⟨m, by rw [ofNat, ← hm, ← m.nearest_units Nat.one_pos, Nat.mul_one], hm⟩
  rcases Nat.eq_zero_or_pos n with rfl | hpos
  · exact ⟨zero, by rw [Nat.zero_mul, Nat.zero_mul]; decide⟩
  · -- the digits are moved up until they fill the significand
    have hlo : 2 ^ Nat.log2 n ≤ n := Nat.log2_self_le (Nat.ne_of_gt hpos)
    have hhi : n < 2 ^ (Nat.log2 n + 1) := Nat.lt_log2_self
    have hlog : Nat.log2 n < 53 := (Nat.log2_lt (Nat.ne_of_gt hpos)).2 h
    have hplace : IsPlace (j + 1022 + Nat.log2 n) (n * 2 ^ (52 - Nat.log2 n)) := by
      refine ⟨?_, Or.inr ?_⟩
      · calc n * 2 ^ (52 - Nat.log2 n) < 2 ^ (Nat.log2 n + 1) * 2 ^ (52 - Nat.log2 n) :=
              Nat.mul_lt_mul_of_pos_right hhi (Nat.two_pow_pos _)
          _ = 2 * binade := by
              rw [← Nat.pow_add, show Nat.log2 n + 1 + (52 - Nat.log2 n) = 53 by omega]
              decide
      · calc binade = 2 ^ Nat.log2 n * 2 ^ (52 - Nat.log2 n) := by
              rw [← Nat.pow_add, show Nat.log2 n + (52 - Nat.log2 n) = 52 by omega]
              decide
          _ ≤ n * 2 ^ (52 - Nat.log2 n) := Nat.mul_le_mul_right _ hlo
    refine ⟨⟨(j + 1022 + Nat.log2 n) * binade + n * 2 ^ (52 - Nat.log2 n), ?_⟩, ?_⟩
    · have := hplace.1
      have hle : (j + 1022 + Nat.log2 n) * binade ≤ 1974 * binade :=
        Nat.mul_le_mul_right _ (by omega)
      omega
    · rw [units_eq_unitsAt, unitsAt_place hplace, Nat.mul_assoc, Nat.mul_assoc, ← Nat.pow_add,
        Decimal.two_pow_mul_unitsPerOne,
        show 52 - Nat.log2 n + (j + 1022 + Nat.log2 n) = j + 1074 by omega]

theorem exact_of_lt {n : Nat} (h : n < 2 ^ 53) : Exact n := by
  simpa using exact_mul_two_pow h (Nat.zero_le 900)

end Magnitude

namespace Json

open Magnitude

/-! ## Powers of ten -/

theorem exists_powerOfTen?_of_le {k limit : Nat} (hk : k ≤ limit)
    (h : (powerOfTen? limit).isSome) : ∃ p, powerOfTen? k = some p ∧ unitsPerOne ≤ p.units := by
  obtain ⟨top, htop⟩ := Option.isSome_iff_exists.1 h
  obtain ⟨p, hp, -⟩ := ofNat_mono (Nat.pow_le_pow_right (by decide) hk) htop
  obtain ⟨one, hone, hunits⟩ := exact_of_lt (n := 1) (by decide)
  obtain ⟨one', hone', hle⟩ := ofNat_mono (Nat.pow_pos (n := k) (by decide : 0 < 10)) hp
  rw [show Nat.succ 0 = 1 from rfl, hone] at hone'
  cases hone'
  refine ⟨p, hp, ?_⟩
  rw [← Nat.one_mul unitsPerOne, ← hunits]
  exact units_le_units.2 hle

theorem exists_powerOfTen? {k : Nat} (hk : k ≤ 308) :
    ∃ p, powerOfTen? k = some p ∧ unitsPerOne ≤ p.units :=
  exists_powerOfTen?_of_le hk (by decide +kernel)

/-- Up to `10 ^ 22` the powers of ten are exact. -/
theorem powerOfTen?_exact : ∀ k < 23,
    (powerOfTen? k).map units = some (10 ^ k * unitsPerOne) := by decide +kernel

/-! ## Staying in range -/

/-- Dividing by powers of ten stays in range. -/
theorem exists_shrink? (m : Magnitude) (k : Nat) : ∃ m', shrink? m k = some m' := by
  induction m, k using shrink?.induct with
  | case1 m k hk =>
    obtain ⟨p, hp, hunits⟩ := exists_powerOfTen? hk
    rw [shrink?, if_pos hk, hp, Option.bind_some]
    exact m.exists_div hunits
  | case2 m k hk hzero =>
    rw [shrink?, if_neg hk, if_pos hzero]
    exact ⟨m, rfl⟩
  | case3 m k hk hzero ih =>
    obtain ⟨p, hp, hunits⟩ := exists_powerOfTen? (Nat.le_refl 308)
    obtain ⟨m', hm'⟩ := m.exists_div hunits
    rw [shrink?, if_neg hk, if_neg hzero, hp, Option.bind_some, hm', Option.bind_some]
    exact ih m'

/-- A significand times a power of ten, each rounded. -/
def product? (n e : Nat) : Option Magnitude :=
  (Magnitude.ofNat n).bind fun a => (powerOfTen? e).bind a.mul

theorem product?_mono {n n' e e' : Nat} (hn : n ≤ n') (he : e ≤ e')
    (h : (product? n' e').isSome) : (product? n e).isSome := by
  obtain ⟨m', hm'⟩ := Option.isSome_iff_exists.1 h
  obtain ⟨a', ha', hm'⟩ := Option.bind_eq_some_iff.1 hm'
  obtain ⟨p', hp', hm'⟩ := Option.bind_eq_some_iff.1 hm'
  obtain ⟨a, ha, hle⟩ := ofNat_mono hn ha'
  obtain ⟨p, hp, hle'⟩ := ofNat_mono (Nat.pow_le_pow_right (by decide) he) hp'
  obtain ⟨m, hm, -⟩ := mul_mono hle hle' hm'
  rw [product?, ha, Option.bind_some, powerOfTen?, Nat.pow_eq, hp, Option.bind_some, hm]
  rfl

/-- Seventeen digits stay in range up to `10 ^ 291`. -/
theorem product?_seventeenDigits : (product? (10 ^ 17) 291).isSome := by decide +kernel

/-- Beyond, the largest significands that may occur stay in range. -/
theorem product?_largest : ∀ i < 17,
    (product? (largest.units / (10 ^ (292 + i) * unitsPerOne)) (292 + i)).isSome := by
  decide +kernel

theorem isSome_product? {n e : Nat} (hn : n ≤ 10 ^ 17) (he : e ≤ 308)
    (h : n * 10 ^ e * unitsPerOne ≤ largest.units) : (product? n e).isSome := by
  rcases Nat.lt_or_ge e 292 with hsmall | hlarge
  · exact product?_mono hn (Nat.le_of_lt_succ hsmall) product?_seventeenDigits
  · obtain ⟨i, rfl⟩ := Nat.exists_eq_add_of_le hlarge
    refine product?_mono ?_ (Nat.le_refl _) (product?_largest i (by omega))
    generalize largest.units = limit at *
    rw [Nat.le_div_iff_mul_le (Nat.mul_pos (Nat.pow_pos (by decide)) unitsPerOne_pos),
      ← Nat.mul_assoc]
    exact h

/-- From `10 ^ 309` on nothing but zero is in range. -/
theorem eq_zero_of_large {n e : Nat} (he : 308 < e)
    (h : n * 10 ^ e * unitsPerOne ≤ largest.units) : n = 0 := by
  obtain ⟨k, hk, hbeyond⟩ : ∃ k, k = 309 ∧ largest.units < 10 ^ k * unitsPerOne :=
    ⟨_, rfl, by decide +kernel⟩
  by_contra hn
  have hpow : 10 ^ k ≤ n * 10 ^ e :=
    (Nat.pow_le_pow_right (by decide) (by omega)).trans
      (Nat.le_mul_of_pos_left _ (Nat.pos_of_ne_zero hn))
  exact Nat.not_le.2 hbeyond ((Nat.mul_le_mul_right _ hpow).trans h)

/-- **Significands of at most seventeen digits stay in range** if the exact
    value does. -/
theorem exists_scale? {n : Nat} {e : Int} (hn : n ≤ 10 ^ 17)
    (h : ∀ k : Nat, e = k → n * 10 ^ k * unitsPerOne ≤ largest.units) :
    ∃ m, (Magnitude.ofNat n).bind (scale? · e) = some m := by
  obtain ⟨top, htop⟩ := Option.isSome_iff_exists.1
    (by decide +kernel : (Magnitude.ofNat (10 ^ 17)).isSome = true)
  obtain ⟨a, ha, -⟩ := ofNat_mono hn htop
  rw [ha, Option.bind_some]
  cases e with
  | negSucc k => exact exists_shrink? a (k + 1)
  | ofNat k =>
    unfold scale?
    dsimp only
    rcases Nat.lt_or_ge 308 k with hk | hk
    · obtain rfl := eq_zero_of_large hk (h k rfl)
      obtain rfl : zero = a := Option.some.inj (ofNat_zero.symm.trans ha)
      exact ⟨zero, by rw [if_neg (Nat.not_le.2 hk), if_pos (show zero.rank = 0 from rfl)]⟩
    · obtain ⟨m, hm⟩ := Option.isSome_iff_exists.1 (isSome_product? hn hk (h k rfl))
      rw [product?, ha, Option.bind_some] at hm
      rw [if_pos hk]
      exact ⟨m, hm⟩

/-! ## One rounding -/

/-- **Exact factors leave one rounding**, which gives the nearest double. -/
theorem scale?_eq_toMagnitude? {n : Nat} {e : Int} (hn : Exact n) (he : -22 ≤ e ∧ e ≤ 22) :
    (Magnitude.ofNat n).bind (scale? · e) = Decimal.toMagnitude? ⟨n, e⟩ := by
  obtain ⟨a, ha, hunits⟩ := hn
  have hpower (k : Nat) (hk : k < 23) :
      ∃ p, powerOfTen? k = some p ∧ p.units = 10 ^ k * unitsPerOne :=
    Option.map_eq_some_iff.1 (powerOfTen?_exact k hk)
  rw [ha, Option.bind_some, Decimal.toMagnitude?_eq]
  cases e with
  | ofNat k =>
    obtain ⟨p, hp, hpunits⟩ := hpower k (Nat.lt_succ_of_le (Int.ofNat_le.1 he.2))
    unfold scale?
    dsimp only
    rw [if_pos ((Int.ofNat_le.1 he.2).trans (by decide)), hp, Option.bind_some, mul, hunits,
      hpunits]
    refine nearest_congr unitsPerOne_pos (Decimal.denominator_pos _) ?_
    simp only [Decimal.numerator, Decimal.denominator]
    ring
  | negSucc k =>
    have hk : k + 1 ≤ 22 := by
      have := he.1
      omega
    obtain ⟨p, hp, hpunits⟩ := hpower (k + 1) (Nat.lt_succ_of_le hk)
    unfold scale?
    dsimp only
    rw [shrink?, if_pos (hk.trans (by decide)), hp, Option.bind_some, div, hunits, hpunits]
    refine nearest_congr (Nat.mul_pos (Nat.pow_pos (by decide)) unitsPerOne_pos)
      (Decimal.denominator_pos _) ?_
    simp only [Decimal.numerator, Decimal.denominator]
    ring

end Json

end SpriteScene
