/-
  Doubles as JSON numerals.

  * `Decimal.positionalNumeral` and `Decimal.scientificNumeral` are the two
    written forms of a decimal, each with its text and its value;
  * `Magnitude.numeral` is the numeral that a magnitude is written as
    (`toList_text_json`); it is in good form, its digits fit into 64 bits, and
    its exact value is nearest to the magnitude (`toMagnitude?_numeral`);
  * `value?_numeral`: its value is the double that its digits and its power of ten
    stand for.
-/
import SpriteScene.Proofs.Json.Numeral
import SpriteScene.Proofs.Number.Shortest

namespace SpriteScene

open Json

/-- The exact value of a numeral. -/
def Json.Numeral.decimal (n : Numeral) : Decimal := ⟨n.significand, n.power⟩

namespace Decimal

/-! ## Positional form -/

/-- The numeral of a decimal without an exponent. -/
def positionalNumeral (d : Decimal) : Numeral :=
  let digits := Nat.toDigits 10 d.digits
  match d.exponent with
  | .ofNat e => ⟨digits ++ List.replicate e '0', some ['0'], none⟩
  | .negSucc e =>
    if e + 1 < digits.length then
      ⟨digits.take (digits.length - (e + 1)), some (digits.drop (digits.length - (e + 1))), none⟩
    else ⟨['0'], some (List.replicate (e + 1 - digits.length) '0' ++ digits), none⟩

theorem toList_positionalText (d : Decimal) :
    (d.positionalText ".0").toList = d.positionalNumeral.chars := by
  obtain ⟨digits, e | e⟩ := d
  · simp [positionalText, positionalNumeral, digitText, zeros, Numeral.chars,
      Numeral.fractionChars, Numeral.exponentChars]
  · unfold positionalText positionalNumeral
    dsimp only
    split <;>
      simp [digitText, zeros, Numeral.chars, Numeral.fractionChars, Numeral.exponentChars]

/-- A decimal whose digits can stand in front: zero is written with the
    exponent zero. -/
def HasLeading (d : Decimal) : Prop := d.digits = 0 → d.exponent = 0

theorem isDigits_append {ds es : List Char} (h : IsDigits ds) (he : ∀ c ∈ es, c.isDigit) :
    IsDigits (ds ++ es) :=
  ⟨by simp [h.1], by simpa [or_imp, forall_and] using ⟨h.2, he⟩⟩

theorem isDigits_take {ds : List Char} (h : IsDigits ds) {k : Nat} (hk : 0 < k) :
    IsDigits (ds.take k) :=
  ⟨List.take_eq_nil_iff.not.2 (not_or.2 ⟨Nat.ne_of_gt hk, h.1⟩),
    fun c hc => h.2 c (List.mem_of_mem_take hc)⟩

theorem isDigits_drop {ds : List Char} (h : IsDigits ds) {k : Nat} (hk : k < ds.length) :
    IsDigits (ds.drop k) :=
  ⟨List.drop_eq_nil_iff.not.2 (Nat.not_le.2 hk), fun c hc => h.2 c (List.mem_of_mem_drop hc)⟩

theorem wellFormed_positionalNumeral {d : Decimal} (h : d.HasLeading) :
    d.positionalNumeral.WellFormed := by
  obtain ⟨digits, e⟩ := d
  have hdigits := isDigits_toDigits digits
  have hpos : 0 < (Nat.toDigits 10 digits).length := List.length_pos_iff.2 hdigits.1
  have hzeros : ∀ n, ∀ c ∈ List.replicate n '0', c.isDigit := by
    intro n c hc
    rw [List.eq_of_mem_replicate hc]
    decide
  cases e with
  | ofNat e =>
    refine ⟨isDigits_append hdigits (hzeros e), ?_, fun ds hds => ?_, nofun⟩
    · by_cases hd : digits = 0
      · obtain rfl : e = 0 := Int.ofNat.inj (h hd)
        exact Or.inl (by simp [positionalNumeral, hd])
      · refine Or.inr ?_
        rw [positionalNumeral, List.head?_append_of_ne_nil _ hdigits.1]
        exact head?_toDigits hd
    · cases hds
      exact isDigits_zero
  | negSucc e =>
    have hd : digits ≠ 0 := fun hd => nomatch h hd
    unfold positionalNumeral
    dsimp only
    split
    · rename_i hlt
      refine ⟨isDigits_take hdigits (by omega), Or.inr ?_, fun ds hds => ?_, nofun⟩
      · rw [List.head?_take, if_neg (by omega)]
        exact head?_toDigits hd
      · cases hds
        exact isDigits_drop hdigits (by omega)
    · refine ⟨isDigits_zero, Or.inl rfl, fun ds hds => ?_, nofun⟩
      cases hds
      refine ⟨by simp, fun c hc => ?_⟩
      exact (List.mem_append.1 hc).elim (hzeros _ c) (hdigits.2 c)

/-- The value of a decimal in positional form: a whole number has one digit
    behind the point. -/
theorem decimal_positionalNumeral (d : Decimal) :
    d.positionalNumeral.decimal =
      match d.exponent with
      | .ofNat e => ⟨d.digits * 10 ^ (e + 1), -1⟩
      | .negSucc _ => d := by
  obtain ⟨digits, e | e⟩ := d
  · simp [positionalNumeral, Numeral.decimal, Numeral.significand, Numeral.power,
      Numeral.writtenExponent, Nat.ofDigitChars_append, Nat.ofDigitChars_cons]
    ring
  · unfold positionalNumeral
    dsimp only
    split
    · simp [Numeral.decimal, Numeral.significand, Numeral.power, Numeral.writtenExponent]
      omega
    · simp [Numeral.decimal, Numeral.significand, Numeral.power, Numeral.writtenExponent,
        Nat.ofDigitChars_append, Nat.ofDigitChars_cons]
      omega

/-! ## Scientific form -/

/-- The sign and the digits of an exponent. -/
def exponentParts : Int → Bool × List Char
  | .ofNat n => (false, Nat.toDigits 10 n)
  | .negSucc n => (true, Nat.toDigits 10 (n + 1))

/-- The numeral of a decimal with one digit before the point and an exponent. -/
def scientificNumeral (d : Decimal) : Numeral :=
  let digits := Nat.toDigits 10 d.digits
  ⟨digits.take 1, if digits.length ≤ 1 then none else some (digits.drop 1),
    some (exponentParts d.leading)⟩

theorem toList_exponentText (k : Int) :
    (exponentText k).toList = Numeral.exponentChars (some (exponentParts k)) := by
  cases k <;> simp [exponentText, exponentParts, Numeral.exponentChars]

theorem toList_scientificText (d : Decimal) :
    d.scientificText.toList = d.scientificNumeral.chars := by
  unfold scientificText scientificNumeral
  dsimp only
  split <;> simp [Numeral.chars, Numeral.fractionChars, toList_exponentText]

theorem wellFormed_scientificNumeral {d : Decimal} (h : d.digits ≠ 0) :
    d.scientificNumeral.WellFormed := by
  have hdigits := isDigits_toDigits d.digits
  refine ⟨isDigits_take hdigits Nat.one_pos, Or.inr ?_, fun ds hds => ?_,
    fun negative ds hds => ?_⟩
  · rw [scientificNumeral, List.head?_take, if_neg (by decide)]
    exact head?_toDigits h
  · unfold scientificNumeral at hds
    dsimp only at hds
    split at hds
    · cases hds
    · cases hds
      exact isDigits_drop hdigits (by omega)
  · cases hl : d.leading <;>
      rw [scientificNumeral, hl] at hds <;> cases hds <;> exact isDigits_toDigits _

theorem decimal_scientificNumeral (d : Decimal) : d.scientificNumeral.decimal = d := by
  have hpos : 0 < (Nat.toDigits 10 d.digits).length := Nat.length_toDigits_pos
  have hdigits : d.scientificNumeral.significand = d.digits := by
    unfold Numeral.significand scientificNumeral
    dsimp only
    split
    · rw [List.take_of_length_le ‹_›]
      simp
    · rw [Option.getD_some, List.take_append_drop, Nat.ofDigitChars_ten_toDigits]
  have hwritten : d.scientificNumeral.writtenExponent = d.leading := by
    cases hl : d.leading <;>
      simp [Numeral.writtenExponent, scientificNumeral, exponentParts, hl]
    omega
  have hpower : d.scientificNumeral.power = d.exponent := by
    rw [Numeral.power, hwritten, leading]
    unfold scientificNumeral
    dsimp only
    split
    · simp
      omega
    · simp
      omega
  rw [Numeral.decimal, hdigits, hpower]

/-! ## Values of the two forms -/

theorem toMagnitude?_mul_pow (n k : Nat) (e : Int) :
    toMagnitude? ⟨n * 10 ^ k, e⟩ = toMagnitude? ⟨n, e + k⟩ := by
  induction k generalizing n e with
  | zero => simp
  | succ k ih =>
    rw [Nat.pow_succ', ← Nat.mul_assoc, ih, Nat.mul_comm n, ← toMagnitude?_shift, Int.add_assoc,
      Int.natCast_succ, Int.add_comm (k : Int)]

theorem toMagnitude?_positionalNumeral (d : Decimal) :
    d.positionalNumeral.decimal.toMagnitude? = d.toMagnitude? := by
  rw [decimal_positionalNumeral]
  obtain ⟨digits, e | e⟩ := d
  · dsimp only
    rw [toMagnitude?_mul_pow]
    congr 2
    rw [Int.ofNat_eq_natCast]
    omega
  · rfl

/-- A decimal below `10 ^ k` has no more than `k + 1` digits in positional form. -/
theorem significand_positionalNumeral_le {d : Decimal} {k : Nat} (hd : d.digits ≤ 10 ^ (k + 1))
    (h : d.leading < k) : d.positionalNumeral.significand ≤ 10 ^ (k + 1) := by
  have hvalue := congrArg Decimal.digits (decimal_positionalNumeral d)
  rw [Numeral.decimal] at hvalue
  dsimp only at hvalue
  rw [hvalue]
  obtain ⟨digits, e | e⟩ := d
  · have hlength : (Nat.toDigits 10 digits).length + e ≤ k := by
      rw [leading] at h
      simp only [Int.ofNat_eq_natCast] at h
      omega
    calc digits * 10 ^ (e + 1)
        ≤ 10 ^ (Nat.toDigits 10 digits).length * 10 ^ (e + 1) :=
          Nat.mul_le_mul_right _ (lt_pow_length_toDigits digits).le
      _ = 10 ^ ((Nat.toDigits 10 digits).length + (e + 1)) := (Nat.pow_add ..).symm
      _ ≤ 10 ^ (k + 1) := Nat.pow_le_pow_right (by decide) (by omega)
  · exact hd

end Decimal

/-! ## Written magnitudes -/

namespace Magnitude

open Decimal

/-- The numeral that a magnitude is written as in JSON text. -/
def numeral (m : Magnitude) : Numeral :=
  if m.rank = 0 || NumberStyle.json.positional (m.shortest .toEven).leading then
    (m.shortest .toEven).positionalNumeral
  else (m.shortest .toEven).scientificNumeral

theorem toList_text_json (m : Magnitude) : (m.text .json).toList = m.numeral.chars := by
  unfold text numeral
  rw [show NumberStyle.json.tie = .toEven from rfl]
  generalize m.shortest .toEven = d
  dsimp only
  split
  · rw [show NumberStyle.json.wholeMark = ".0" from rfl, toList_positionalText]
  · rw [toList_scientificText]

theorem hasLeading_shortest (tie : TieRule) (m : Magnitude) : (m.shortest tie).HasLeading := by
  intro h
  by_cases hm : m.rank = 0
  · rw [shortest, if_pos hm]
  · exact absurd h (digits_shortest_ne_zero tie hm)

theorem wellFormed_numeral (m : Magnitude) : m.numeral.WellFormed := by
  have hleading := m.hasLeading_shortest .toEven
  have hdigits : m.rank ≠ 0 → (m.shortest .toEven).digits ≠ 0 := digits_shortest_ne_zero .toEven
  unfold numeral
  generalize m.shortest .toEven = d at *
  split
  · exact wellFormed_positionalNumeral hleading
  · rename_i h
    exact wellFormed_scientificNumeral (hdigits fun hm => h (by simp [hm]))

/-- **What is written is nearest to the magnitude**, as an exact value. -/
theorem toMagnitude?_numeral (m : Magnitude) : m.numeral.decimal.toMagnitude? = some m := by
  have hread := toMagnitude?_shortest .toEven m
  unfold numeral
  generalize m.shortest .toEven = d at *
  split
  · rw [toMagnitude?_positionalNumeral, hread]
  · rw [decimal_scientificNumeral, hread]

/-- The digits that are written fit into 64 bits. -/
theorem significand_numeral_le (m : Magnitude) : m.numeral.significand ≤ 10 ^ 17 := by
  have hdigits := digits_shortest_le .toEven m
  have hzero : m.rank = 0 → m.shortest .toEven = ⟨0, 0⟩ := fun hm => by rw [shortest, if_pos hm]
  unfold numeral
  generalize m.shortest .toEven = d at *
  split
  · rename_i h
    refine significand_positionalNumeral_le hdigits ?_
    rcases Bool.or_eq_true _ _ ▸ h with hm | hp
    · rw [hzero (of_decide_eq_true hm)]
      decide
    · have := (Bool.and_eq_true _ _ ▸ hp).2
      exact of_decide_eq_true this
  · have hvalue := congrArg Decimal.digits (decimal_scientificNumeral d)
    exact hvalue.le.trans hdigits

theorem value?_numeral (negative : Bool) (m : Magnitude) :
    m.numeral.value? negative = double? negative m.numeral.significand m.numeral.power := by
  refine Numeral.value?_of_lt negative ?_ (m.significand_numeral_le.trans_lt (by decide))
  unfold numeral
  generalize m.shortest .toEven = d
  split
  · refine Or.inl ?_
    obtain ⟨digits, e | e⟩ := d
    · exact Option.some_ne_none _
    · unfold positionalNumeral
      dsimp only
      split <;> exact Option.some_ne_none _
  · exact Or.inr (Option.some_ne_none _)

end Magnitude

end SpriteScene
