/-
  Doubles that are written and read back.

  * `Magnitude.reread?` is the magnitude that the text of a magnitude is read
    as; there always is one (`exists_reread?`), but it need not be the same;
  * `reread?_of_fifteenDigits`: it is the same for every number of at most
    fifteen digits that is zero or not below `10 ^ -7`;
  * `takeScalar_text`: in front of any text where a number ends, the text of a
    finite double is read as its sign with the magnitude that is read back.
-/
import SpriteScene.Proofs.Json.Double
import SpriteScene.Proofs.Json.Scaling

namespace SpriteScene

open Json

namespace Magnitude

/-- The magnitude that the text of a magnitude is read as. -/
def reread? (m : Magnitude) : Option Magnitude :=
  (ofNat m.numeral.significand).bind (scale? · m.numeral.power)

/-! ## Reading back stays in range -/

theorem numerator_le_largest {d : Decimal} {m : Magnitude} (h : d.toMagnitude? = some m)
    (hm : m.rank < largest.rank) : d.numerator ≤ largest.units * d.denominator := by
  rw [Decimal.toMagnitude?_eq] at h
  have hnear := (nearest_eq_some_iff d.denominator_pos).1 h
  have hmid : midpoint m.rank ≤ 2 * largest.units := by
    have hle := unitsAt_strictMono.monotone hm.le
    have hle' := unitsAt_strictMono.monotone (show m.rank + 1 ≤ largest.rank from hm)
    rw [midpoint, units_eq_unitsAt]
    omega
  have habove : 2 * d.numerator ≤ midpoint m.rank * d.denominator :=
    hnear.le_above.elim Nat.le_of_lt fun e => e.1.le
  refine Nat.le_of_mul_le_mul_left (c := 2) (habove.trans ?_) (by decide)
  rw [← Nat.mul_assoc]
  exact Nat.mul_le_mul_right _ hmid

theorem numerator_numeral_le (m : Magnitude) :
    m.numeral.decimal.numerator ≤ largest.units * m.numeral.decimal.denominator := by
  rcases Nat.lt_or_ge m.rank largest.rank with hm | hm
  · exact numerator_le_largest m.toMagnitude?_numeral hm
  · rw [eq_largest hm]
    decide +kernel

/-- **The text of every magnitude is in range.** -/
theorem exists_reread? (m : Magnitude) : ∃ m', m.reread? = some m' := by
  refine exists_scale? m.significand_numeral_le fun k hk => ?_
  have hle := m.numerator_numeral_le
  rw [Numeral.decimal, hk] at hle
  simpa only [Decimal.numerator, Decimal.denominator, Nat.mul_one] using hle

/-! ## Magnitudes that are the same when they are read back -/

theorem reread?_of_exact {m : Magnitude} (hs : Exact m.numeral.significand)
    (hp : -22 ≤ m.numeral.power ∧ m.numeral.power ≤ 22) : m.reread? = some m :=
  (scale?_eq_toMagnitude? hs hp).trans m.toMagnitude?_numeral

/-- What is written with few digits, neither too small nor too large, has a
    significand that is a double, and a small power of ten. -/
theorem reread?_of_short {m : Magnitude} (hdigits : (m.shortest .toEven).digits ≤ 10 ^ 15)
    (hlow : -22 ≤ (m.shortest .toEven).exponent) (hhigh : (m.shortest .toEven).leading < 15) :
    m.reread? = some m := by
  suffices h : Exact m.numeral.significand ∧
      -22 ≤ m.numeral.power ∧ m.numeral.power ≤ 22 from reread?_of_exact h.1 h.2
  unfold numeral
  generalize m.shortest .toEven = d at *
  have hlength : 0 < (Nat.toDigits 10 d.digits).length := Nat.length_toDigits_pos
  have hlt := lt_pow_length_toDigits d.digits
  rw [Decimal.leading] at hhigh
  split
  · have hvalue := Decimal.decimal_positionalNumeral d
    obtain ⟨digits, e | e⟩ := d
    · simp only [Numeral.decimal, Decimal.mk.injEq] at hvalue
      rw [hvalue.1, hvalue.2]
      refine ⟨?_, by decide⟩
      have hwhole : digits * 10 ^ e ≤ 10 ^ 15 :=
        calc digits * 10 ^ e ≤ 10 ^ (Nat.toDigits 10 digits).length * 10 ^ e :=
              Nat.mul_le_mul_right _ hlt.le
          _ = 10 ^ ((Nat.toDigits 10 digits).length + e) := (Nat.pow_add ..).symm
          _ ≤ 10 ^ 15 := by
              refine Nat.pow_le_pow_right (by decide) ?_
              simp only [Int.ofNat_eq_natCast] at hhigh
              omega
      have hsplit : digits * 10 ^ (e + 1) = 5 * (digits * 10 ^ e) * 2 ^ 1 := by ring
      rw [hsplit]
      exact exact_mul_two_pow (by omega) (by decide)
    · simp only [Numeral.decimal, Decimal.mk.injEq] at hvalue
      rw [hvalue.1, hvalue.2]
      exact ⟨exact_of_lt (hdigits.trans_lt (by decide)), hlow, by omega⟩
  · have hvalue := Decimal.decimal_scientificNumeral d
    obtain ⟨digits, e⟩ := d
    simp only [Numeral.decimal, Decimal.mk.injEq] at hvalue
    rw [hvalue.1, hvalue.2]
    dsimp only at hhigh hlow
    exact ⟨exact_of_lt (hdigits.trans_lt (by decide)), hlow, by omega⟩

/-! ## Fifteen digits -/

theorem toMagnitude?_mono {d d' : Decimal} {m m' : Magnitude} (hd : d.toMagnitude? = some m)
    (hd' : d'.toMagnitude? = some m')
    (h : d.numerator * d'.denominator ≤ d'.numerator * d.denominator) : m.rank ≤ m'.rank := by
  rw [Decimal.toMagnitude?_eq] at hd hd'
  obtain ⟨m₀, hm₀, hle⟩ := nearest_mono d.denominator_pos d'.denominator_pos h hd'
  cases hd.symm.trans hm₀
  exact hle

/-- The digit of the seventh place stands where it should. -/
theorem leading_seventhPlace {m : Magnitude} (h : Decimal.toMagnitude? ⟨1, -7⟩ = some m) :
    (m.shortest .toEven).leading = -7 := by
  have hlead : (Decimal.toMagnitude? ⟨1, -7⟩).map (fun m => (m.shortest .toEven).leading) =
      some (-7) := by decide +kernel
  rw [h, Option.map_some] at hlead
  exact Option.some.inj hlead

/-- The power of ten of the leading digit bounds a decimal from below. -/
theorem pow_le_of_leading {d : Decimal} (h : d.digits ≠ 0) {k : Nat} (hk : (k : Int) ≤ d.leading) :
    10 ^ k * unitsPerOne * d.denominator ≤ d.numerator := by
  have hlength : 0 < (Nat.toDigits 10 d.digits).length := Nat.length_toDigits_pos
  have hle : 10 ^ ((Nat.toDigits 10 d.digits).length - 1) ≤ d.digits := by
    rcases Nat.eq_zero_or_pos ((Nat.toDigits 10 d.digits).length - 1) with hone | hmore
    · rw [hone]
      exact Nat.pos_of_ne_zero h
    · exact pow_le_of_lt_length_toDigits hmore (by omega)
  rw [Decimal.leading] at hk
  obtain ⟨digits, e | e⟩ := d
  · simp only [Decimal.numerator, Decimal.denominator, Int.ofNat_eq_natCast, Nat.mul_one] at *
    refine Nat.mul_le_mul_right _ ?_
    calc 10 ^ k ≤ 10 ^ ((Nat.toDigits 10 digits).length - 1 + e) :=
          Nat.pow_le_pow_right (by decide) (by omega)
      _ = 10 ^ ((Nat.toDigits 10 digits).length - 1) * 10 ^ e := Nat.pow_add ..
      _ ≤ digits * 10 ^ e := Nat.mul_le_mul_right _ hle
  · simp only [Decimal.numerator, Decimal.denominator] at *
    rw [Nat.mul_right_comm]
    refine Nat.mul_le_mul_right _ ?_
    calc 10 ^ k * 10 ^ (e + 1) = 10 ^ (k + (e + 1)) := (Nat.pow_add ..).symm
      _ ≤ 10 ^ ((Nat.toDigits 10 digits).length - 1) :=
          Nat.pow_le_pow_right (by decide) (by omega)
      _ ≤ digits := hle

/-- The power of ten of the leading digit bounds a decimal from above. -/
theorem le_of_leading_lt {d : Decimal} {k : Nat} (hk : d.leading < -(k : Int)) :
    d.numerator * 10 ^ k ≤ unitsPerOne * d.denominator := by
  have hlength : 0 < (Nat.toDigits 10 d.digits).length := Nat.length_toDigits_pos
  have hlt := lt_pow_length_toDigits d.digits
  rw [Decimal.leading] at hk
  obtain ⟨digits, e | e⟩ := d
  · simp only [Int.ofNat_eq_natCast] at *
    omega
  · simp only [Decimal.numerator, Decimal.denominator] at *
    rw [Nat.mul_comm digits, Nat.mul_assoc]
    refine Nat.mul_le_mul_left _ ?_
    calc digits * 10 ^ k ≤ 10 ^ (Nat.toDigits 10 digits).length * 10 ^ k :=
          Nat.mul_le_mul_right _ hlt.le
      _ = 10 ^ ((Nat.toDigits 10 digits).length + k) := (Nat.pow_add ..).symm
      _ ≤ 10 ^ (e + 1) := Nat.pow_le_pow_right (by decide) (by omega)

theorem numerator_neg (n k : Nat) :
    Decimal.numerator ⟨n, -(k : Int)⟩ = n * unitsPerOne ∧
      Decimal.denominator ⟨n, -(k : Int)⟩ = 10 ^ k := by
  cases k with
  | zero =>
    rw [show -((0 : Nat) : Int) = Int.ofNat 0 from rfl]
    simp only [Decimal.numerator, Decimal.denominator, Nat.pow_zero, Nat.mul_one, and_self]
  | succ k => exact ⟨rfl, rfl⟩

theorem toMagnitude?_whole (n : Nat) : Decimal.toMagnitude? ⟨n, -((0 : Nat) : Int)⟩ = ofNat n := by
  rw [Decimal.toMagnitude?_eq, (numerator_neg n 0).1, (numerator_neg n 0).2, Nat.pow_zero, ofNat]

/-- A number of at most fifteen digits is in range, and no more than its digits
    as a whole number. -/
theorem exists_toMagnitude?_le {n k : Nat} (hn : n < 10 ^ 15) :
    ∃ m whole, Decimal.toMagnitude? ⟨n, -(k : Int)⟩ = some m ∧ ofNat n = some whole ∧
      whole.units = n * unitsPerOne ∧ m.rank ≤ whole.rank := by
  obtain ⟨whole, hwhole, hunits⟩ := exact_of_lt (hn.trans (by decide : 10 ^ 15 < 2 ^ 53))
  have hpow : 0 < 10 ^ k := Nat.pow_pos (by decide)
  have hbelow : n * unitsPerOne * 1 ≤ n * unitsPerOne * 10 ^ k := Nat.mul_le_mul_left _ hpow
  obtain ⟨m, hm, hle⟩ := nearest_mono hpow Nat.one_pos hbelow hwhole
  refine ⟨m, whole, ?_, hwhole, hunits, hle⟩
  rw [Decimal.toMagnitude?_eq, (numerator_neg n k).1, (numerator_neg n k).2, hm]

/-- A number of at most fifteen digits is written with a leading digit below
    `10 ^ 15`. -/
theorem leading_shortest_lt {n k : Nat} {m : Magnitude} (hn : n < 10 ^ 15)
    (h : Decimal.toMagnitude? ⟨n, -(k : Int)⟩ = some m) : (m.shortest .toEven).leading < 15 := by
  by_cases hm : m.rank = 0
  · rw [shortest, if_pos hm]
    decide
  by_contra hlt
  obtain ⟨m', whole, hm', hwhole, hunits, hle⟩ := exists_toMagnitude?_le (k := k) hn
  cases hm'.symm.trans h
  obtain ⟨top, htop, htopUnits⟩ := exact_of_lt (by decide : 10 ^ 15 < 2 ^ 53)
  have hbelow : whole.rank < top.rank := by
    have hless : n * unitsPerOne < 10 ^ 15 * unitsPerOne :=
      Nat.mul_lt_mul_of_pos_right hn unitsPerOne_pos
    rw [← hunits, ← htopUnits] at hless
    by_contra hge
    exact Nat.not_le.2 hless (units_le_units.2 (Nat.not_lt.1 hge))
  -- what is written is no less than `10 ^ 15`
  have habove : top.rank ≤ m.rank := by
    have hread := toMagnitude?_shortest .toEven m
    refine toMagnitude?_mono ((toMagnitude?_whole _).trans htop) hread ?_
    rw [(numerator_neg _ 0).1, (numerator_neg _ 0).2, Nat.pow_zero, Nat.mul_one]
    exact pow_le_of_leading (digits_shortest_ne_zero .toEven hm) (Int.not_lt.1 hlt)
  omega

/-- A number that is not below `10 ^ -7` is written with a leading digit that is
    not below it either. -/
theorem le_leading_shortest {n k : Nat} {m : Magnitude} (hk : 10 ^ k ≤ n * 10 ^ 7)
    (h : Decimal.toMagnitude? ⟨n, -(k : Int)⟩ = some m) :
    -7 ≤ (m.shortest .toEven).leading := by
  by_contra hlt
  obtain ⟨place, hplace⟩ : ∃ place, Decimal.toMagnitude? ⟨1, -7⟩ = some place :=
    Option.isSome_iff_exists.1 (by decide +kernel)
  have hle : m.rank ≤ place.rank := by
    refine toMagnitude?_mono (toMagnitude?_shortest .toEven m) hplace ?_
    obtain ⟨hnum, hden⟩ := numerator_neg 1 7
    rw [show (-7 : Int) = -((7 : Nat) : Int) from rfl, hnum, hden, Nat.one_mul]
    exact le_of_leading_lt (Int.not_le.1 hlt)
  have hge : place.rank ≤ m.rank := by
    refine toMagnitude?_mono hplace h ?_
    obtain ⟨hnum, hden⟩ := numerator_neg 1 7
    obtain ⟨hnum', hden'⟩ := numerator_neg n k
    rw [show (-7 : Int) = -((7 : Nat) : Int) from rfl, hnum, hden, hnum', hden', Nat.one_mul,
      Nat.mul_right_comm, Nat.mul_comm unitsPerOne]
    exact Nat.mul_le_mul_right _ hk
  -- so the number is read as `10 ^ -7` itself, and its digits are known
  obtain rfl : m = place := eq_of_rank_eq (Nat.le_antisymm hle hge)
  rw [leading_seventhPlace hplace] at hlt
  exact hlt (by decide)

/-- **Numbers of at most fifteen digits are the same when they are read back**,
    if they are zero or not below `10 ^ -7`. -/
theorem reread?_of_fifteenDigits {n k : Nat} {m : Magnitude} (hn : n < 10 ^ 15)
    (hk : n = 0 ∨ 10 ^ k ≤ n * 10 ^ 7) (h : Decimal.toMagnitude? ⟨n, -(k : Int)⟩ = some m) :
    m.reread? = some m := by
  have hhigh := leading_shortest_lt hn h
  rcases hk with rfl | hk
  · rw [Decimal.toMagnitude?, if_pos rfl] at h
    cases h
    have hzero : zero.shortest .toEven = ⟨0, 0⟩ := by
      rw [shortest, if_pos (show zero.rank = 0 from rfl)]
    refine reread?_of_short ?_ ?_ ?_ <;> rw [hzero] <;> decide
  · have hlow := le_leading_shortest hk h
    have hk22 : k < 22 := by
      refine (Nat.pow_lt_pow_iff_right (by decide : 1 < 10)).1 (hk.trans_lt ?_)
      calc n * 10 ^ 7 < 10 ^ 15 * 10 ^ 7 := Nat.mul_lt_mul_of_pos_right hn (by decide)
        _ = 10 ^ 22 := by decide
    have hgrid : (Decimal.onGrid n (1074 - k)).toMagnitude? = some m := by
      rw [Decimal.onGrid, ← h]
      congr 2
      omega
    have hdigits : (m.shortest .toEven).digits ≤ 10 ^ 15 :=
      digits_shortest_le_of_readsBack .toEven (by decide) hn.le hgrid
    refine reread?_of_short hdigits ?_ hhigh
    have hlength : (Nat.toDigits 10 (m.shortest .toEven).digits).length ≤ 16 :=
      (Nat.length_toDigits_le_iff (by decide) (by decide)).2 (hdigits.trans_lt (by decide))
    rw [Decimal.leading] at hlow
    omega

/-! ## Texts -/

theorem value?_numeral_eq (negative : Bool) {m m' : Magnitude} (h : m.reread? = some m') :
    m.numeral.value? negative = some (.double (.finite negative m')) := by
  obtain ⟨a, ha, hm'⟩ := Option.bind_eq_some_iff.1 h
  rw [value?_numeral, double?, ha, Option.bind_eq_bind, Option.bind_some, hm']
  rfl

theorem toList_text_finite (negative : Bool) (m : Magnitude) :
    ((Binary64.finite negative m).text .json).toList =
      (if negative then ['-'] else []) ++ m.numeral.chars := by
  rw [Binary64.text, String.toList_append, toList_text_json]
  cases negative <;> rfl

end Magnitude

/-- **The text of a finite double is read** as its sign with the magnitude that
    is read back, in front of any text where a number ends. -/
theorem takeScalar_text (negative : Bool) {m m' : Magnitude} (h : m.reread? = some m') :
    ∃ c cs, ((Binary64.finite negative m).text .json).toList = c :: cs ∧ (c = '-' ∨ c.isDigit) ∧
      ∀ rest, EndsNumber rest →
        takeScalar c (cs ++ rest) = .ok (.number (.double (.finite negative m')), rest) := by
  have hform := m.wellFormed_numeral
  have hnumber (rest : List Char) (hr : EndsNumber rest) :
      takeNumber negative (m.numeral.chars ++ rest) =
        .ok (.double (.finite negative m'), rest) := by
    rw [takeNumber_chars negative hform hr, Magnitude.value?_numeral_eq negative h]
  cases negative with
  | true =>
    refine ⟨'-', m.numeral.chars, Magnitude.toList_text_finite true m, Or.inl rfl,
      fun rest hr => ?_⟩
    rw [takeScalar, if_neg (by decide), if_neg (by decide), if_neg (by decide), if_pos rfl,
      hnumber rest hr]
    rfl
  | false =>
    obtain ⟨c, whole, hwhole⟩ := List.exists_cons_of_ne_nil hform.whole.1
    have hchars : m.numeral.chars = c :: (whole ++ Numeral.fractionChars m.numeral.fraction ++
        Numeral.exponentChars m.numeral.exponent) := by
      rw [Numeral.chars, hwhole]
      rfl
    have hc : c.isDigit := hform.whole.2 c (by rw [hwhole]; exact List.mem_cons_self)
    refine ⟨c, _, (Magnitude.toList_text_finite false m).trans hchars, Or.inr hc, fun rest hr => ?_⟩
    rw [takeScalar_digit hc, ← List.cons_append, ← hchars, hnumber rest hr]
    rfl

end SpriteScene
