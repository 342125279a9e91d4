/-
  JSON numerals read back.

  * `SpellsNumeral` are the spellings of a numeral in good form.  What is taken for a
    numeral is one of them (`exists_spellsNumeral_of_takeNumeral`), and each of them is
    found in front of any text that does not go on with it (`SpellsNumeral.takeNumeral`);
  * `Numeral.chars` writes a numeral, and `takeNumeral_chars`: what it writes is found
    again;
  * `Numeral.value?_of_lt`: a numeral with a point or an exponent whose digits
    fit into 64 bits is the double of these digits with a power of ten;
  * `takeNumber_whole`: whole numbers of 64 bits read back.
-/
import Mathlib.Data.List.TakeWhile
import SpriteScene.Json.Reader
import SpriteScene.Proofs.Steps

namespace SpriteScene.Json

/-! ## Digits -/

/-- One or more digits. -/
def IsDigits (cs : List Char) : Prop := cs ≠ [] ∧ ∀ c ∈ cs, c.isDigit

theorem isDigits_toDigits (n : Nat) : IsDigits (Nat.toDigits 10 n) :=
  ⟨Nat.toDigits_ne_nil, fun _ => Nat.isDigit_of_mem_toDigits (by decide) (by decide)⟩

theorem isDigits_zero : IsDigits ['0'] :=
  ⟨List.cons_ne_nil _ _, List.forall_mem_singleton.2 rfl⟩

/-- The digits of a number do not begin with a zero. -/
theorem head?_toDigits {n : Nat} (h : n ≠ 0) : (Nat.toDigits 10 n).head? ≠ some '0' := by
  induction n using Nat.strongRecOn with
  | _ n ih =>
    rcases Nat.lt_or_ge n 10 with hn | hn
    · rw [Nat.toDigits_of_lt_base hn, List.head?_cons]
      exact fun hzero => h (Nat.digitChar_eq_zero.1 (Option.some.inj hzero))
    · rw [Nat.toDigits_of_base_le (by decide) hn, List.head?_append_of_ne_nil _ Nat.toDigits_ne_nil]
      exact ih (n / 10) (Nat.div_lt_self (by omega) (by decide)) (by omega)

/-- Text in front of which digits end. -/
def EndsDigits (rest : List Char) : Prop := ∀ c ∈ rest.head?, c.isDigit = false

theorem takeWhile_isDigit_append {ds rest : List Char} (h : ∀ c ∈ ds, c.isDigit)
    (hr : EndsDigits rest) : (ds ++ rest).takeWhile Char.isDigit = ds := by
  rw [List.takeWhile_append_of_pos h]
  cases rest with
  | nil => simp
  | cons c rest => simp [hr c rfl]

theorem dropWhile_isDigit_append {ds rest : List Char} (h : ∀ c ∈ ds, c.isDigit)
    (hr : EndsDigits rest) : (ds ++ rest).dropWhile Char.isDigit = rest := by
  rw [List.dropWhile_append_of_pos h]
  cases rest with
  | nil => simp
  | cons c rest => simp [hr c rfl]

theorem takeDigits_append {ds rest : List Char} (h : IsDigits ds) (hr : EndsDigits rest) :
    takeDigits (ds ++ rest) = .ok (ds, rest) := by
  obtain ⟨d, ds', hds⟩ := List.exists_cons_of_ne_nil h.1
  rw [takeDigits, takeWhile_isDigit_append h.2 hr, dropWhile_isDigit_append h.2 hr, hds]

theorem takeDigits_eq_ok {cs ds rest : List Char} (h : takeDigits cs = .ok (ds, rest)) :
    IsDigits ds ∧ cs = ds ++ rest := by
  rw [takeDigits] at h
  cases htake : cs.takeWhile Char.isDigit with
  | nil =>
    rw [htake] at h
    cases hdrop : cs.dropWhile Char.isDigit <;> simp [hdrop] at h
  | cons d ds' =>
    rw [htake] at h
    obtain ⟨rfl, rfl⟩ := Prod.mk.inj (Except.ok.inj h)
    have hdigit : ∀ c ∈ d :: ds', c.isDigit := by
      intro c hc
      rw [← htake] at hc
      exact List.mem_takeWhile_imp hc
    refine ⟨⟨List.cons_ne_nil _ _, hdigit⟩, ?_⟩
    rw [← htake, List.takeWhile_append_dropWhile]

theorem takeWhole_append {ds rest : List Char} (h : IsDigits ds)
    (hzero : ds = ['0'] ∨ ds.head? ≠ some '0') (hr : EndsDigits rest) :
    takeWhole (ds ++ rest) = .ok (ds, rest) := by
  rw [takeWhole, takeDigits_append h hr]
  rcases hzero with rfl | hzero
  · rfl
  · split
    · rename_i heq
      cases heq
      exact absurd rfl hzero
    · rfl

theorem takeWhole_eq_ok {cs ds rest : List Char} (h : takeWhole cs = .ok (ds, rest)) :
    IsDigits ds ∧ (ds = ['0'] ∨ ds.head? ≠ some '0') ∧ cs = ds ++ rest := by
  rw [takeWhole] at h
  split at h
  · cases h
  · rename_i hzero
    obtain ⟨hdigits, hcs⟩ := takeDigits_eq_ok h
    refine ⟨hdigits, ?_, hcs⟩
    by_contra hnot
    rw [not_or, not_not] at hnot
    obtain ⟨ds', rfl⟩ := List.head?_eq_some_iff.1 hnot.2
    cases ds' with
    | nil => exact hnot.1 rfl
    | cons d ds' => exact hzero d ds' rest h

/-! ## Numerals -/

namespace Numeral

/-- A fraction behind its point. -/
def fractionChars : Option (List Char) → List Char
  | none => []
  | some digits => '.' :: digits

/-- An exponent behind its mark, with its sign. -/
def exponentChars : Option (Bool × List Char) → List Char
  | none => []
  | some (negative, digits) => 'e' :: (if negative then '-' else '+') :: digits

/-- A numeral as it is written, without a sign. -/
def chars (n : Numeral) : List Char :=
  n.whole ++ fractionChars n.fraction ++ exponentChars n.exponent

/-- A numeral whose parts are digits, without a superfluous zero in front. -/
structure WellFormed (n : Numeral) : Prop where
  whole : IsDigits n.whole
  leading : n.whole = ['0'] ∨ n.whole.head? ≠ some '0'
  fraction : ∀ digits, n.fraction = some digits → IsDigits digits
  exponent : ∀ negative digits, n.exponent = some (negative, digits) → IsDigits digits

/-- The digits of a numeral as one number. -/
def significand (n : Numeral) : Nat := Nat.ofDigitChars 10 (n.whole ++ n.fraction.getD []) 0

/-- The exponent that is written. -/
def writtenExponent (n : Numeral) : Int :=
  match n.exponent with
  | none => 0
  | some (true, digits) => -(Nat.ofDigitChars 10 digits 0 : Int)
  | some (false, digits) => Nat.ofDigitChars 10 digits 0

/-- The power of ten that belongs to the digits as one number. -/
def power (n : Numeral) : Int := -((n.fraction.getD []).length : Int) + n.writtenExponent

end Numeral

/-- Text in front of which a number ends. -/
def EndsNumber (rest : List Char) : Prop :=
  ∀ c ∈ rest.head?, c.isDigit = false ∧ c ≠ '.' ∧ c ≠ 'e' ∧ c ≠ 'E'

/-- The spellings of an exponent: either mark, and a sign that may be left out where it
    is positive. -/
inductive SpellsExponent : Option (Bool × List Char) → List Char → Prop
  | absent : SpellsExponent none []
  | minus {mark : Char} {digits : List Char} :
      mark = 'e' ∨ mark = 'E' → SpellsExponent (some (true, digits)) (mark :: '-' :: digits)
  | plus {mark : Char} {digits : List Char} :
      mark = 'e' ∨ mark = 'E' → SpellsExponent (some (false, digits)) (mark :: '+' :: digits)
  | unsigned {mark : Char} {digits : List Char} :
      mark = 'e' ∨ mark = 'E' → SpellsExponent (some (false, digits)) (mark :: digits)

/-- The spellings of a numeral in good form. -/
structure SpellsNumeral (n : Numeral) (text : List Char) : Prop where
  wellFormed : n.WellFormed
  spelled : ∃ exponent, SpellsExponent n.exponent exponent ∧
    text = n.whole ++ (Numeral.fractionChars n.fraction ++ exponent)

theorem takeFraction_append {fraction : Option (List Char)} {rest : List Char}
    (h : ∀ digits, fraction = some digits → IsDigits digits) (hr : EndsDigits rest)
    (hpoint : ∀ c ∈ rest.head?, c ≠ '.') :
    takeFraction (Numeral.fractionChars fraction ++ rest) = .ok (fraction, rest) := by
  cases fraction with
  | none =>
    rw [Numeral.fractionChars, List.nil_append]
    unfold takeFraction
    split
    · exact absurd rfl (hpoint '.' rfl)
    · rfl
  | some digits =>
    rw [Numeral.fractionChars, List.cons_append, takeFraction, takeDigits_append (h digits rfl) hr]
    rfl

theorem SpellsExponent.takeExponent {exponent : Option (Bool × List Char)} {text rest : List Char}
    (h : SpellsExponent exponent text)
    (hdigits : ∀ negative digits, exponent = some (negative, digits) → IsDigits digits)
    (hr : EndsNumber rest) : Json.takeExponent (text ++ rest) = .ok (exponent, rest) := by
  have htake {digits : List Char} (hdigits : IsDigits digits) :
      takeDigits (digits ++ rest) = .ok (digits, rest) :=
    takeDigits_append hdigits fun c hc => (hr c hc).1
  cases h with
  | absent =>
    cases rest with
    | nil => rfl
    | cons c rest =>
      obtain ⟨-, -, he, hE⟩ := hr c rfl
      simp [Json.takeExponent, he, hE]
  | @minus mark digits hmark =>
    rw [List.cons_append, List.cons_append, takeExponent.eq_1, if_pos hmark,
      htake (hdigits true digits rfl)]
    rfl
  | @plus mark digits hmark =>
    rw [List.cons_append, List.cons_append, takeExponent.eq_2, if_pos hmark,
      htake (hdigits false digits rfl)]
    rfl
  | @unsigned mark digits hmark =>
    have hdigits := hdigits false digits rfl
    have hhead (sign : Char) (hsign : sign.isDigit = false) (more : List Char) :
        digits ++ rest ≠ sign :: more := by
      obtain ⟨d, ds, rfl⟩ := List.exists_cons_of_ne_nil hdigits.1
      intro he
      rw [← (List.cons.inj he).1, hdigits.2 d List.mem_cons_self] at hsign
      cases hsign
    rw [List.cons_append, takeExponent.eq_3 mark _ (hhead '-' (by decide)) (hhead '+' (by decide)),
      if_pos hmark, htake hdigits]
    rfl

theorem SpellsExponent.endsDigits {exponent : Option (Bool × List Char)} {text rest : List Char}
    (h : SpellsExponent exponent text) (hr : EndsNumber rest) :
    EndsDigits (text ++ rest) ∧ ∀ c ∈ (text ++ rest).head?, c ≠ '.' := by
  have of_mark {mark : Char} (hmark : mark = 'e' ∨ mark = 'E') (more : List Char) :
      EndsDigits (mark :: more) ∧ ∀ c ∈ (mark :: more).head?, c ≠ '.' := by
    have hchar : mark.isDigit = false ∧ mark ≠ '.' := by
      rcases hmark with rfl | rfl <;> decide
    constructor
    · intro c hc
      cases hc
      exact hchar.1
    · intro c hc
      cases hc
      exact hchar.2
  cases h with
  | absent => exact ⟨fun c hc => (hr c hc).1, fun c hc => (hr c hc).2.1⟩
  | minus hmark => exact of_mark hmark _
  | plus hmark => exact of_mark hmark _
  | unsigned hmark => exact of_mark hmark _

/-- Every spelling of a numeral is taken for it, in front of anything that does not go
    on with it. -/
theorem SpellsNumeral.takeNumeral {n : Numeral} {text rest : List Char} (h : SpellsNumeral n text)
    (hr : EndsNumber rest) : Json.takeNumeral (text ++ rest) = .ok (n, rest) := by
  obtain ⟨exponent, hexponent, rfl⟩ := h.spelled
  obtain ⟨hends, hpoint⟩ := hexponent.endsDigits hr
  have hfraction :
      EndsDigits (Numeral.fractionChars n.fraction ++ (exponent ++ rest)) := by
    cases hf : n.fraction with
    | none => exact hends
    | some digits =>
      intro c hc
      obtain rfl : '.' = c := by simpa [Numeral.fractionChars] using hc
      decide
  rw [Json.takeNumeral, List.append_assoc, List.append_assoc,
    takeWhole_append h.wellFormed.whole h.wellFormed.leading hfraction]
  simp only [bind, Except.bind]
  rw [takeFraction_append h.wellFormed.fraction hends hpoint]
  dsimp only
  rw [hexponent.takeExponent h.wellFormed.exponent hr]
  rfl

theorem takeFraction_eq_ok {cs rest : List Char} {fraction : Option (List Char)}
    (h : takeFraction cs = .ok (fraction, rest)) :
    (∀ digits, fraction = some digits → IsDigits digits) ∧
      cs = Numeral.fractionChars fraction ++ rest := by
  unfold takeFraction at h
  split at h
  · obtain ⟨⟨digits, _⟩, hdigits, hfraction⟩ := map_eq_ok_iff.1 h
    obtain ⟨rfl, rfl⟩ := Prod.mk.inj hfraction
    obtain ⟨hgood, rfl⟩ := takeDigits_eq_ok hdigits
    refine ⟨fun digits' he => ?_, rfl⟩
    cases he
    exact hgood
  · obtain ⟨rfl, rfl⟩ := Prod.mk.inj (Except.ok.inj h)
    exact ⟨fun _ he => (by cases he), rfl⟩

theorem takeExponent_eq_ok {cs rest : List Char} {exponent : Option (Bool × List Char)}
    (h : takeExponent cs = .ok (exponent, rest)) :
    (∀ negative digits, exponent = some (negative, digits) → IsDigits digits) ∧
      ∃ text, SpellsExponent exponent text ∧ cs = text ++ rest := by
  have of_digits {negative : Bool} {more : List Char}
      (h : (takeDigits more).map (fun p => (some (negative, p.1), p.2)) = .ok (exponent, rest)) :
      ∃ digits, exponent = some (negative, digits) ∧ IsDigits digits ∧ more = digits ++ rest := by
    obtain ⟨⟨digits, _⟩, hdigits, hexponent⟩ := map_eq_ok_iff.1 h
    obtain ⟨rfl, rfl⟩ := Prod.mk.inj hexponent
    exact ⟨digits, rfl, takeDigits_eq_ok hdigits⟩
  have of_some {negative : Bool} {digits : List Char} (hdigits : IsDigits digits) :
      ∀ negative' digits', some (negative, digits) = some (negative', digits') →
        IsDigits digits' := by
    intro negative' digits' he
    cases he
    exact hdigits
  unfold takeExponent at h
  split at h
  · split at h
    · rename_i c cs hmark
      dsimp only at h
      split at h
      · obtain ⟨digits, rfl, hdigits, rfl⟩ := of_digits h
        exact ⟨of_some hdigits, _, .minus hmark, rfl⟩
      · obtain ⟨digits, rfl, hdigits, rfl⟩ := of_digits h
        exact ⟨of_some hdigits, _, .plus hmark, rfl⟩
      · obtain ⟨digits, rfl, hdigits, rfl⟩ := of_digits h
        exact ⟨of_some hdigits, _, .unsigned hmark, rfl⟩
    · obtain ⟨rfl, rfl⟩ := Prod.mk.inj (Except.ok.inj h)
      exact ⟨fun _ _ he => (by cases he), [], .absent, rfl⟩
  · obtain ⟨rfl, rfl⟩ := Prod.mk.inj (Except.ok.inj h)
    exact ⟨fun _ _ he => (by cases he), [], .absent, rfl⟩

/-- What is taken for a numeral is one. -/
theorem exists_spellsNumeral_of_takeNumeral {cs rest : List Char} {n : Numeral}
    (h : takeNumeral cs = .ok (n, rest)) : ∃ text, SpellsNumeral n text ∧ cs = text ++ rest := by
  have hbind {ε α β : Type} {x : Except ε α} {f : α → Except ε β} {b : β} (h : x >>= f = .ok b) :=
    bind_eq_ok_iff.1 h
  obtain ⟨⟨whole, _⟩, hwhole, h⟩ := hbind h
  obtain ⟨⟨fraction, _⟩, hfraction, h⟩ := hbind h
  obtain ⟨⟨exponent, _⟩, hexponent, h⟩ := hbind h
  obtain ⟨rfl, rfl⟩ := Prod.mk.inj (Except.ok.inj h)
  obtain ⟨hdigits, hleading, rfl⟩ := takeWhole_eq_ok hwhole
  obtain ⟨hplaces, rfl⟩ := takeFraction_eq_ok hfraction
  obtain ⟨hpower, text, htext, rfl⟩ := takeExponent_eq_ok hexponent
  exact ⟨_, ⟨⟨hdigits, hleading, hplaces, hpower⟩, text, htext, rfl⟩, by simp⟩

theorem spellsExponent_exponentChars (exponent : Option (Bool × List Char)) :
    SpellsExponent exponent (Numeral.exponentChars exponent) := by
  cases exponent with
  | none => exact .absent
  | some e =>
    obtain ⟨negative, digits⟩ := e
    cases negative with
    | false => exact .plus (Or.inl rfl)
    | true => exact .minus (Or.inl rfl)

/-- **A numeral reads back** in front of any text that does not go on with it. -/
theorem takeNumeral_chars {n : Numeral} (h : n.WellFormed) {rest : List Char}
    (hr : EndsNumber rest) : takeNumeral (n.chars ++ rest) = .ok (n, rest) := by
  refine SpellsNumeral.takeNumeral ⟨h, _, spellsExponent_exponentChars n.exponent, ?_⟩ hr
  rw [Numeral.chars, List.append_assoc]

/-- A number is read as far as its numeral goes. -/
theorem takeNumber_chars (negative : Bool) {n : Numeral} (h : n.WellFormed) {rest : List Char}
    (hr : EndsNumber rest) :
    takeNumber negative (n.chars ++ rest) =
      match n.value? negative with
      | some v => .ok (v, rest)
      | none => .error .malformed := by
  cases hvalue : n.value? negative <;> simp only [takeNumber, takeNumeral_chars h hr, hvalue]

/-! ## Values -/

theorem le_ofDigitChars (cs : List Char) (s : Nat) : s ≤ Nat.ofDigitChars 10 cs s := by
  rw [Nat.ofDigitChars_eq_ofDigitChars_zero]
  exact Nat.le_trans (Nat.le_mul_of_pos_left s (Nat.pow_pos (by decide))) (Nat.le_add_right _ _)

/-- Digits that fit into 64 bits are all taken. -/
theorem absorb_of_lt {cs : List Char} {s : Nat} (h : Nat.ofDigitChars 10 cs s < UInt64.size) :
    absorb s cs = (Nat.ofDigitChars 10 cs s, []) := by
  induction cs generalizing s with
  | nil => rfl
  | cons c cs ih =>
    rw [Nat.ofDigitChars_cons] at h ⊢
    have hnext := Nat.lt_of_le_of_lt (le_ofDigitChars cs _) h
    simp only [absorb, if_pos hnext, ih h]

/-- The double of a numeral whose digits fit into 64 bits. -/
theorem Numeral.value?_of_lt (negative : Bool) {n : Numeral}
    (hform : n.fraction ≠ none ∨ n.exponent ≠ none) (h : n.significand < UInt64.size) :
    n.value? negative = double? negative n.significand n.power := by
  have hsplit : n.significand =
      Nat.ofDigitChars 10 (n.fraction.getD []) (Nat.ofDigitChars 10 n.whole 0) :=
    Nat.ofDigitChars_append 0
  have hwhole : absorb 0 n.whole = (Nat.ofDigitChars 10 n.whole 0, []) :=
    absorb_of_lt (Nat.lt_of_le_of_lt (le_ofDigitChars _ _) (hsplit ▸ h))
  have hnot : ¬ (n.fraction = none ∧ n.exponent = none) := by
    rintro ⟨hf, he⟩
    exact hform.elim (· hf) (· he)
  unfold value?
  rw [hwhole]
  cases hf : n.fraction with
  | none =>
    have he : n.exponent ≠ none := fun he => hnot ⟨hf, he⟩
    have hs : n.significand = Nat.ofDigitChars 10 n.whole 0 := by
      rw [hsplit, hf]
      rfl
    have hp : n.power = n.writtenExponent := by
      rw [power, hf]
      simp
    dsimp only
    rw [if_neg (by simp [he]), hs, hp, List.length_nil, Int.natCast_zero, Int.sub_self,
      Int.zero_add]
    rfl
  | some digits =>
    have hs : n.significand = Nat.ofDigitChars 10 digits (Nat.ofDigitChars 10 n.whole 0) := by
      rw [hsplit, hf]
      rfl
    have hp : n.power = -(digits.length : Int) + n.writtenExponent := by
      rw [power, hf]
      rfl
    dsimp only
    rw [absorb_of_lt (hs ▸ h), hs, hp, if_neg (by simp), List.length_nil, Int.natCast_zero,
      Int.zero_sub, Nat.sub_zero]
    rfl

/-- **Whole numbers of 64 bits read back.** -/
theorem takeNumber_whole {n : Nat} (h : n < UInt64.size) {rest : List Char} (hr : EndsNumber rest) :
    takeNumber false (Nat.toDigits 10 n ++ rest) = .ok (.whole n, rest) := by
  have hform : Numeral.WellFormed ⟨Nat.toDigits 10 n, none, none⟩ := by
    refine ⟨isDigits_toDigits n, ?_, nofun, nofun⟩
    by_cases hn : n = 0
    · exact Or.inl (by rw [hn, Nat.toDigits_zero])
    · exact Or.inr (head?_toDigits hn)
  have hchars : Nat.toDigits 10 n = Numeral.chars ⟨Nat.toDigits 10 n, none, none⟩ := by
    simp [Numeral.chars, Numeral.fractionChars, Numeral.exponentChars]
  have hvalue : Numeral.value? false ⟨Nat.toDigits 10 n, none, none⟩ = some (.whole n) := by
    have hdigits : Nat.ofDigitChars 10 (Nat.toDigits 10 n) 0 = n := Nat.ofDigitChars_ten_toDigits
    have habsorb : absorb 0 (Nat.toDigits 10 n) = (n, []) := by
      rw [absorb_of_lt (hdigits.symm ▸ h), hdigits]
    simp [Numeral.value?, habsorb]
  rw [hchars, takeNumber_chars false hform hr, hvalue]

theorem ne_of_isDigit {c other : Char} (h : c.isDigit) (ho : other.isDigit = false) :
    c ≠ other := by
  rintro rfl
  rw [h] at ho
  cases ho

/-- A value that begins with a digit is a number without a minus sign. -/
theorem takeScalar_digit {c : Char} (h : c.isDigit) (cs : List Char) :
    takeScalar c cs = (takeNumber false (c :: cs)).map fun (n, cs) => (.number n, cs) := by
  rw [takeScalar, if_neg (ne_of_isDigit h (by decide)), if_neg (ne_of_isDigit h (by decide)),
    if_neg (ne_of_isDigit h (by decide)), if_neg (ne_of_isDigit h (by decide)), if_pos h]

end SpriteScene.Json
