/-
  Coordinates as literals.

  * `SpellsDecimal` are the decimal literals without an exponent and without superfluous
    zeros, `spelledValue` is what they stand for, and `SpellsDecimal.readDecimal`: they
    are read as the double next to it;
  * `Decimal.exists_spellsDecimal`: a decimal in positional form is such a literal and
    keeps its value;
  * `Binary64.readDecimal_literal`: every double is read back from its literal, those
    that are not finite as well;
  * `Binary64.literal_spec`: the literal of a coordinate stands for it.
-/
import SpriteScene.Command
import SpriteScene.Proofs.Json.Double
import SpriteScene.Proofs.Module.Literal
import SpriteScene.Proofs.Number.Nearest

namespace SpriteScene

open Json

/-! ## Decimal literals -/

/-- A sign if there is one to be, digits without a superfluous zero in front, and a point
    with digits that do not end in zero unless there is nothing behind it. -/
structure SpellsDecimal (negative : Bool) (whole fraction : List Char) (text : String) : Prop where
  isDigits : IsDigits whole
  leading : whole = ['0'] ∨ whole.head? ≠ some '0'
  isDigit : ∀ c ∈ fraction, c.isDigit
  trailing : fraction.getLast? ≠ some '0'
  spelled : text.toList = (if negative then ['-'] else []) ++
    (whole ++ if fraction = [] then [] else '.' :: fraction)

/-- The digits of a literal with the power of ten that its point stands for. -/
def spelledDecimal (whole fraction : List Char) : Decimal :=
  ⟨Nat.ofDigitChars 10 (whole ++ fraction) 0, -(fraction.length : Int)⟩

/-- The number that a literal without its sign stands for. -/
def spelledValue (whole fraction : List Char) : ℚ :=
  Nat.ofDigitChars 10 (whole ++ fraction) 0 / 10 ^ fraction.length

theorem value_spelledDecimal (whole fraction : List Char) :
    (spelledDecimal whole fraction).value = spelledValue whole fraction := by
  rw [Decimal.value, spelledDecimal, spelledValue, zpow_neg, zpow_natCast, div_eq_mul_inv]

theorem readUnsignedDecimal_spelled {whole fraction : List Char} (hwhole : IsDigits whole)
    (hfraction : ∀ c ∈ fraction, c.isDigit) :
    readUnsignedDecimal (whole ++ if fraction = [] then [] else '.' :: fraction) =
      some (spelledDecimal whole fraction) := by
  have hends : EndsDigits (if fraction = [] then [] else '.' :: fraction) := by
    intro c hc
    split at hc
    · cases hc
    · cases hc
      rfl
  have hwholeTake := takeWhile_isDigit_append hwhole.2 hends
  have hwholeDrop := dropWhile_isDigit_append hwhole.2 hends
  have htake : fraction.takeWhile Char.isDigit = fraction := List.takeWhile_eq_self_iff.2 hfraction
  have hdrop : fraction.dropWhile Char.isDigit = [] := List.dropWhile_eq_nil_iff.2 hfraction
  rw [readUnsignedDecimal, hwholeTake, hwholeDrop]
  by_cases h : fraction = []
  · simp [h, hwhole.1, readExponent, spelledDecimal]
  · simp [h, htake, hdrop, readExponent, spelledDecimal]

/-- **A literal is read** as the double next to what it stands for. -/
theorem SpellsDecimal.readDecimal {negative : Bool} {whole fraction : List Char} {text : String}
    (h : SpellsDecimal negative whole fraction text) :
    SpriteScene.readDecimal text =
      .ok (.ofMagnitude? negative (spelledDecimal whole fraction).toMagnitude?) := by
  obtain ⟨c, cs, hcs⟩ := List.exists_cons_of_ne_nil h.isDigits.1
  have hdigit : c.isDigit := h.isDigits.2 c (hcs ▸ List.mem_cons_self)
  have hne : text ≠ "" := by
    rintro rfl
    simpa [hcs] using h.spelled
  have hsign : takeSign text.toList =
      (negative, whole ++ if fraction = [] then [] else '.' :: fraction) := by
    rw [h.spelled]
    cases negative with
    | true => rfl
    | false =>
      -- a digit is no sign
      have hminus : c ≠ '-' := by
        rintro rfl
        cases hdigit
      have hplus : c ≠ '+' := by
        rintro rfl
        cases hdigit
      rw [hcs]
      simp [takeSign, hminus, hplus]
  rw [SpriteScene.readDecimal, if_neg (by simpa using hne), hsign]
  dsimp only
  rw [readUnsignedDecimal_spelled h.isDigits h.isDigit]

/-! ## Positional form -/

theorem exists_toDigits_eq_concat (n : Nat) :
    ∃ front, Nat.toDigits 10 n = front ++ [Nat.digitChar (n % 10)] := by
  rcases Nat.lt_or_ge n 10 with h | h
  · exact ⟨[], by rw [Nat.toDigits_of_lt_base h, Nat.mod_eq_of_lt h, List.nil_append]⟩
  · exact ⟨_, Nat.toDigits_of_base_le (by decide) h⟩

namespace Decimal

/-- Behind the point the digits of a decimal come to their end. -/
theorem exists_positionalNumeral_eq (digits e : Nat) : ∃ whole front,
    positionalNumeral ⟨digits, .negSucc e⟩ =
      ⟨whole, some (front ++ [Nat.digitChar (digits % 10)]), none⟩ := by
  obtain ⟨front, hfront⟩ := exists_toDigits_eq_concat digits
  unfold positionalNumeral
  dsimp only
  split
  · set k := (Nat.toDigits 10 digits).length - (e + 1) with hk
    have hle : k ≤ front.length := by
      rw [hk, hfront, List.length_append, List.length_singleton]
      omega
    have hdrop : (front ++ [Nat.digitChar (digits % 10)]).drop k =
        front.drop k ++ [Nat.digitChar (digits % 10)] := List.drop_append_of_le_length hle
    refine ⟨(Nat.toDigits 10 digits).take k, front.drop k, ?_⟩
    rw [← hdrop, ← hfront]
  · refine ⟨['0'], List.replicate (e + 1 - (Nat.toDigits 10 digits).length) '0' ++ front, ?_⟩
    rw [List.append_assoc, ← hfront]

/-- **A decimal in positional form** spells its value. -/
theorem exists_spellsDecimal {d : Decimal} (hleading : d.HasLeading)
    (htrailing : d.digits ≠ 0 → d.digits % 10 ≠ 0) (negative : Bool) : ∃ whole fraction,
      SpellsDecimal negative whole fraction
        ((if negative then "-" else "") ++ d.positionalText "") ∧
        spelledValue whole fraction = d.value := by
  have hgood := wellFormed_positionalNumeral hleading
  have hsign (s : String) : ((if negative then "-" else "") ++ s).toList =
      (if negative then ['-'] else []) ++ s.toList := by
    cases negative <;> simp
  obtain ⟨digits, e | e⟩ := d
  · refine ⟨Nat.toDigits 10 digits ++ List.replicate e '0', [],
      ⟨hgood.whole, hgood.leading, List.forall_mem_nil _, by simp, ?_⟩, ?_⟩
    · rw [hsign]
      simp [positionalText, digitText, zeros]
    · simp [spelledValue, value, Nat.ofDigitChars_append, mul_comm]
  · have hne : digits ≠ 0 := by
      intro hzero
      cases hleading hzero
    have htext := toList_positionalText ⟨digits, .negSucc e⟩
    have hvalue := decimal_positionalNumeral ⟨digits, .negSucc e⟩
    obtain ⟨whole, front, hnumeral⟩ := exists_positionalNumeral_eq digits e
    rw [hnumeral] at hgood htext hvalue
    refine ⟨whole, front ++ [Nat.digitChar (digits % 10)],
      ⟨hgood.whole, hgood.leading, (hgood.fraction _ rfl).2, ?_, ?_⟩, ?_⟩
    · rw [List.getLast?_concat]
      exact fun hzero => htrailing hne (Nat.digitChar_eq_zero.1 (Option.some.inj hzero))
    · have hmark : positionalText "" ⟨digits, .negSucc e⟩ =
          positionalText ".0" ⟨digits, .negSucc e⟩ := rfl
      rw [hsign, hmark, htext]
      simp [Numeral.chars, Numeral.fractionChars, Numeral.exponentChars]
    · rw [← value_spelledDecimal]
      refine congrArg value (Eq.trans ?_ hvalue)
      simp [spelledDecimal, Numeral.decimal, Numeral.significand, Numeral.power,
        Numeral.writtenExponent]

end Decimal

/-! ## Coordinates -/

namespace Binary64

/-- The literal of a finite number is a decimal that is rounded to it. -/
theorem exists_spellsDecimal_literal (negative : Bool) (m : Magnitude) : ∃ whole fraction,
    SpellsDecimal negative whole fraction (finite negative m).literal ∧
      (spelledDecimal whole fraction).toMagnitude? = some m := by
  have htrailing (hdigits : (m.shortest .up).digits ≠ 0) : (m.shortest .up).digits % 10 ≠ 0 := by
    refine Magnitude.digits_shortest_mod_ne_zero .up fun hm => hdigits ?_
    rw [Magnitude.shortest, if_pos hm]
  obtain ⟨whole, fraction, hspells, hvalue⟩ :=
    Decimal.exists_spellsDecimal (m.hasLeading_shortest .up) htrailing negative
  refine ⟨whole, fraction, ?_, ?_⟩
  · rwa [literal, text, Magnitude.text_sourceLiteral]
  · rw [Decimal.toMagnitude?_eq_some_iff, value_spelledDecimal, hvalue,
      ← Decimal.toMagnitude?_eq_some_iff]
    exact Magnitude.toMagnitude?_shortest .up m

/-- **Every number is read back** from its literal. -/
theorem readDecimal_literal (v : Binary64) : readDecimal v.literal = .ok v := by
  cases v with
  | nan => decide
  | infinite negative => cases negative <;> decide
  | finite negative m =>
    obtain ⟨whole, fraction, hspells, hread⟩ := exists_spellsDecimal_literal negative m
    rw [hspells.readDecimal, hread]
    rfl

theorem literal_injective {v w : Binary64} (h : v.literal = w.literal) : v = w := by
  have hv := readDecimal_literal v
  rw [h, readDecimal_literal w] at hv
  exact (Except.ok.inj hv).symm

/-- **The literal of a coordinate stands for it.**  A finite number has a decimal literal
    with its sign and no exponent, of all doubles it is the one that is nearest to what
    the literal spells, and a command is given the number by its literal.  The others
    have their names.  No two numbers have one literal. -/
theorem literal_spec (v : Binary64) :
    (match v with
      | .nan => v.literal = "NaN"
      | .infinite negative => v.literal = if negative then "-Infinity" else "Infinity"
      | .finite negative m =>
        (∃ whole fraction, SpellsDecimal negative whole fraction v.literal ∧
          ∀ rank, RoundsTo (spelledValue whole fraction) rank ↔ rank = m.rank) ∧
        ∀ usage as, takeCoordinate usage (v.literal :: as) = .ok (v, as)) ∧
      readDecimal v.literal = .ok v ∧
      ∀ w : Binary64, w.literal = v.literal ↔ w = v := by
  refine ⟨?_, readDecimal_literal v, fun w => ⟨literal_injective, congrArg literal⟩⟩
  cases v with
  | nan => rfl
  | infinite negative => rfl
  | finite negative m =>
    refine ⟨?_, fun usage as => ?_⟩
    · obtain ⟨whole, fraction, hspells, hread⟩ := exists_spellsDecimal_literal negative m
      rw [Decimal.toMagnitude?_eq_some_iff, value_spelledDecimal] at hread
      refine ⟨whole, fraction, hspells, fun rank => ⟨fun h => h.unique hread, ?_⟩⟩
      rintro rfl
      exact hread
    · simp only [takeCoordinate, takeArgument, bind, Except.bind, readDecimal_literal]
      rfl

end Binary64

end SpriteScene
