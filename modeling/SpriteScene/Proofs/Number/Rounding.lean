/-
  Rounding to the nearest magnitude.

  * `unitsAt` counts the units of every rank, also beyond the largest
    magnitude; it is strictly increasing;
  * `IsNearest num den rank`: `num / den` units lie between the midpoints on
    either side of a rank, where a midpoint belongs to the even rank;
  * `isNearest_nearestRank`: rounding gives the nearest rank, and
    `IsNearest.le`: a larger quotient has no smaller one, so the nearest rank
    is unique and depends on the quotient alone;
  * `nearest_units`: a magnitude is nearest to itself.
-/
import Mathlib.Order.Monotone.Basic
import Mathlib.Tactic.Linarith
import Mathlib.Tactic.Ring
import SpriteScene.Number.Magnitude

namespace SpriteScene.Magnitude

/-! ## Ranks and units -/

/-- The units of a rank, as if there were no largest magnitude. -/
def unitsAt (rank : Nat) : Nat :=
  (rank - (rank / binade - 1) * binade) * Nat.pow 2 (rank / binade - 1)

theorem eq_of_rank_eq {m m' : Magnitude} (h : m.rank = m'.rank) : m = m' := by
  cases m
  cases m'
  cases h
  rfl

theorem units_eq_unitsAt (m : Magnitude) : m.units = unitsAt m.rank := rfl

theorem binade_eq : binade = 2 ^ 52 := by decide

theorem unitsPerOne_pos : 0 < unitsPerOne := by
  unfold unitsPerOne
  generalize 1074 = n
  exact Nat.two_pow_pos n

/-- A place in a binade: `f` steps of `2 ^ s` units, where only the first binade
    goes down to no step at all. -/
def IsPlace (s f : Nat) : Prop := f < 2 * binade ∧ (s = 0 ∨ binade ≤ f)

theorem unitsAt_place {s f : Nat} (h : IsPlace s f) : unitsAt (s * binade + f) = f * 2 ^ s := by
  obtain ⟨hf, hs⟩ := h
  have hb : 0 < binade := by decide
  have hq : (s * binade + f) / binade - 1 = s := by
    rw [Nat.mul_comm, Nat.mul_add_div hb]
    rcases hs with rfl | hs
    · have := Nat.div_lt_of_lt_mul (Nat.mul_comm 2 binade ▸ hf)
      omega
    · rw [Nat.div_eq_of_lt_le (by omega) (by omega : f < (1 + 1) * binade)]
      omega
  rw [unitsAt, hq, Nat.add_sub_cancel_left, Nat.pow_eq]

/-- The rank behind a place is one step further, also at the end of a binade. -/
theorem unitsAt_place_succ {s f : Nat} (h : IsPlace s f) :
    unitsAt (s * binade + f + 1) = (f + 1) * 2 ^ s := by
  rcases Nat.lt_or_ge (f + 1) (2 * binade) with hf | hf
  · rw [Nat.add_assoc, unitsAt_place ⟨hf, h.2.imp_right fun hb => by omega⟩]
  · have hend : f + 1 = 2 * binade := by have := h.1; omega
    have hnext : s * binade + f + 1 = (s + 1) * binade + binade := by
      rw [Nat.add_assoc, hend, Nat.add_mul, Nat.one_mul]
      omega
    rw [hnext, unitsAt_place ⟨by decide, Or.inr (Nat.le_refl _)⟩, hend, Nat.pow_succ,
      Nat.mul_comm 2, Nat.mul_assoc, Nat.mul_comm 2]

theorem exists_place (r : Nat) : ∃ s f, IsPlace s f ∧ r = s * binade + f := by
  have hb : 0 < binade := by decide
  rcases Nat.lt_or_ge r (2 * binade) with hr | hr
  · exact ⟨0, r, ⟨hr, Or.inl rfl⟩, by omega⟩
  · have hmod := Nat.mod_lt r hb
    have hdiv := Nat.div_add_mod r binade
    obtain ⟨q, hq⟩ : ∃ q, r / binade = q + 1 :=
      Nat.exists_eq_succ_of_ne_zero (Nat.ne_of_gt (Nat.div_pos (by omega) hb))
    refine ⟨q, binade + r % binade, ⟨by omega, Or.inr (by omega)⟩, ?_⟩
    rw [hq] at hdiv
    linarith

theorem unitsAt_lt_succ (r : Nat) : unitsAt r < unitsAt (r + 1) := by
  obtain ⟨s, f, h, rfl⟩ := exists_place r
  rw [unitsAt_place h, unitsAt_place_succ h]
  exact Nat.mul_lt_mul_of_pos_right (Nat.lt_succ_self f) (Nat.two_pow_pos s)

theorem unitsAt_strictMono : StrictMono unitsAt := strictMono_nat_of_lt_succ unitsAt_lt_succ

/-! ## The nearest rank -/

/-- Twice the midpoint between a rank and the next. -/
def midpoint (rank : Nat) : Nat := unitsAt rank + unitsAt (rank + 1)

theorem midpoint_strictMono : StrictMono midpoint := fun _ _ h =>
  Nat.add_lt_add (unitsAt_strictMono h) (unitsAt_strictMono (Nat.succ_lt_succ h))

/-- A rank nearest to `num / den` units, ties going to the even rank. -/
structure IsNearest (num den rank : Nat) : Prop where
  le_above : 2 * num < midpoint rank * den ∨ 2 * num = midpoint rank * den ∧ rank % 2 = 0
  below_le : ∀ r, rank = r + 1 →
    midpoint r * den < 2 * num ∨ midpoint r * den = 2 * num ∧ rank % 2 = 0

/-- A larger quotient has no smaller nearest rank. -/
theorem IsNearest.le {num den rank num' den' rank' : Nat} (h : IsNearest num den rank)
    (h' : IsNearest num' den' rank') (hden : 0 < den) (hden' : 0 < den')
    (hle : num * den' ≤ num' * den) : rank ≤ rank' := by
  by_contra hlt
  obtain ⟨r, rfl⟩ : ∃ r, rank = r + 1 := Nat.exists_eq_succ_of_ne_zero (by omega)
  have hbelow : midpoint r * den ≤ 2 * num := (h.below_le r rfl).elim Nat.le_of_lt fun e => e.1.le
  have habove : 2 * num' ≤ midpoint rank' * den' := h'.le_above.elim Nat.le_of_lt fun e => e.1.le
  have hmid : midpoint rank' ≤ midpoint r := midpoint_strictMono.monotone (by omega)
  -- both quotients are squeezed onto one midpoint, which two ranks would share
  have hround : midpoint r * den * den' ≤ midpoint rank' * den' * den :=
    calc midpoint r * den * den' ≤ 2 * num * den' := Nat.mul_le_mul_right _ hbelow
      _ ≤ 2 * num' * den := by linarith
      _ ≤ midpoint rank' * den' * den := Nat.mul_le_mul_right _ habove
  have hback : midpoint r ≤ midpoint rank' := by
    refine Nat.le_of_mul_le_mul_right (c := den * den') ?_ (Nat.mul_pos hden hden')
    linarith
  obtain rfl : rank' = r := midpoint_strictMono.injective (Nat.le_antisymm hmid hback)
  have heven : (rank' + 1) % 2 = 0 := by
    rcases h.below_le rank' rfl with hs | hs
    · have : midpoint rank' * den * den' < 2 * num * den' := Nat.mul_lt_mul_of_pos_right hs hden'
      nlinarith
    · exact hs.2
  have heven' : rank' % 2 = 0 := by
    rcases h'.le_above with hs | hs
    · have : 2 * num' * den < midpoint rank' * den' * den := Nat.mul_lt_mul_of_pos_right hs hden
      nlinarith
    · exact hs.2
  omega

theorem IsNearest.eq {num den rank num' den' rank' : Nat} (h : IsNearest num den rank)
    (h' : IsNearest num' den' rank') (hden : 0 < den) (hden' : 0 < den')
    (heq : num * den' = num' * den) : rank = rank' :=
  Nat.le_antisymm (h.le h' hden hden' heq.le) (h'.le h hden' hden heq.ge)

/-- The quotient in steps of its binade has a place there. -/
theorem isPlace_quotient (num den : Nat) :
    IsPlace (Nat.log2 (num / den) + 1 - 53)
      (num / (2 ^ (Nat.log2 (num / den) + 1 - 53) * den)) := by
  set whole := num / den with hwhole
  set s := Nat.log2 whole + 1 - 53 with hs
  have hdiv : num / (2 ^ s * den) = whole / 2 ^ s := by
    rw [Nat.mul_comm, ← Nat.div_div_eq_div_mul]
  have hhi : whole < 2 ^ (Nat.log2 whole + 1) := Nat.lt_log2_self
  rw [hdiv, IsPlace, binade_eq]
  rcases Nat.eq_zero_or_pos s with hzero | hpos
  · refine ⟨?_, Or.inl hzero⟩
    rw [hzero, Nat.pow_zero, Nat.div_one]
    exact hhi.trans_le (Nat.pow_le_pow_right (by decide) (by omega : _ ≤ 53))
  · have hlog : Nat.log2 whole + 1 = s + 53 := by omega
    have hne : whole ≠ 0 := by
      intro h
      rw [h, Nat.log2_zero] at hlog
      omega
    refine ⟨?_, Or.inr ?_⟩
    · rw [hlog, Nat.pow_add] at hhi
      exact Nat.div_lt_of_lt_mul hhi
    · have hlo : 2 ^ Nat.log2 whole ≤ whole := Nat.log2_self_le hne
      rw [show Nat.log2 whole = 52 + s by omega, Nat.pow_add] at hlo
      exact (Nat.le_div_iff_mul_le (Nat.two_pow_pos s)).2 hlo

/-- **Rounding gives the nearest rank.** -/
theorem isNearest_nearestRank (num : Nat) {den : Nat} (hden : 0 < den) :
    IsNearest num den (nearestRank num den) := by
  have hplace := isPlace_quotient num den
  unfold nearestRank
  simp only [Nat.pow_eq]
  generalize Nat.log2 (num / den) + 1 - 53 = s at *
  set step := 2 ^ s * den with hstep
  have hunits := unitsAt_place hplace
  have hnext := unitsAt_place_succ hplace
  have hsplit := Nat.div_add_mod num step
  have hrest : num % step < step := Nat.mod_lt _ (Nat.mul_pos (Nat.two_pow_pos s) hden)
  set f := num / step with hf
  set r := s * binade + f with hr
  have hr2 : 2 * num = 2 * (unitsAt r * den) + 2 * (num % step) := by
    rw [hunits, Nat.mul_assoc, ← hstep, Nat.mul_comm f]
    omega
  have hmid : midpoint r * den = 2 * (unitsAt r * den) + step := by
    rw [midpoint, hunits, hnext, hstep]
    ring
  have hbelow : ∀ r', r = r' + 1 → midpoint r' * den < 2 * num := by
    intro r' h
    have : midpoint r' < 2 * unitsAt r := by
      have := unitsAt_lt_succ r'
      rw [midpoint, ← h] at *
      omega
    calc midpoint r' * den < 2 * unitsAt r * den := Nat.mul_lt_mul_of_pos_right this hden
      _ ≤ 2 * num := by rw [hr2, Nat.mul_assoc]; exact Nat.le_add_right _ _
  have habove : 2 * num < midpoint (r + 1) * den := by
    have : 2 * unitsAt (r + 1) < midpoint (r + 1) := by
      have := unitsAt_lt_succ (r + 1)
      rw [midpoint]
      omega
    calc 2 * num < 2 * (unitsAt r * den) + 2 * step := by omega
      _ = 2 * unitsAt (r + 1) * den := by rw [hunits, hnext, hstep]; ring
      _ < midpoint (r + 1) * den := Nat.mul_lt_mul_of_pos_right this hden
  split
  · exact ⟨Or.inl (by omega), fun r' h => Or.inl (hbelow r' h)⟩
  · split
    · refine ⟨Or.inl habove, fun r' h => Or.inl ?_⟩
      obtain rfl : r = r' := Nat.succ.inj h
      omega
    · split
      · exact ⟨Or.inr ⟨by omega, ‹_›⟩, fun r' h => Or.inl (hbelow r' h)⟩
      · refine ⟨Or.inl habove, fun r' h => Or.inr ⟨?_, by omega⟩⟩
        obtain rfl : r = r' := Nat.succ.inj h
        omega

/-! ## The nearest magnitude -/

theorem ofRank?_eq_some_iff {r : Nat} {m : Magnitude} : ofRank? r = some m ↔ r = m.rank := by
  unfold ofRank?
  constructor
  · intro h
    split at h
    · cases h; rfl
    · cases h
  · rintro rfl
    rw [dif_pos m.rank_lt]

theorem nearest_eq_some_iff {num den : Nat} (hden : 0 < den) {m : Magnitude} :
    nearest num den = some m ↔ IsNearest num den m.rank := by
  have h := isNearest_nearestRank num hden
  rw [nearest, ofRank?_eq_some_iff]
  exact ⟨fun e => e ▸ h, fun h' => h.eq h' hden hden rfl⟩

/-- Rounding depends on the quotient alone. -/
theorem nearest_congr {num den num' den' : Nat} (hden : 0 < den) (hden' : 0 < den')
    (h : num * den' = num' * den) : nearest num den = nearest num' den' :=
  congrArg ofRank?
    ((isNearest_nearestRank num hden).eq (isNearest_nearestRank num' hden') hden hden' h)

/-- What is below a quotient in range is in range, and rounded to no more. -/
theorem nearest_mono {num den num' den' : Nat} (hden : 0 < den) (hden' : 0 < den')
    (h : num * den' ≤ num' * den) {m' : Magnitude} (hm' : nearest num' den' = some m') :
    ∃ m, nearest num den = some m ∧ m.rank ≤ m'.rank := by
  have hle := (isNearest_nearestRank num hden).le ((nearest_eq_some_iff hden').1 hm') hden hden' h
  exact ⟨⟨_, hle.trans_lt m'.rank_lt⟩, ofRank?_eq_some_iff.2 rfl, hle⟩

/-- What lies between quotients that are rounded to one magnitude is rounded to
    it too. -/
theorem nearest_between {den a b c : Nat} (hden : 0 < den) {m : Magnitude} (hab : a ≤ b)
    (hbc : b ≤ c) (ha : nearest a den = some m) (hc : nearest c den = some m) :
    nearest b den = some m := by
  obtain ⟨m', hm', hle⟩ := nearest_mono hden hden (Nat.mul_le_mul_right den hbc) hc
  have hge := ((nearest_eq_some_iff hden).1 ha).le ((nearest_eq_some_iff hden).1 hm') hden hden
    (Nat.mul_le_mul_right den hab)
  rw [hm', eq_of_rank_eq (Nat.le_antisymm hle hge)]

/-- **A magnitude is nearest to itself.** -/
theorem nearest_units (m : Magnitude) {k : Nat} (hk : 0 < k) :
    nearest (m.units * k) k = some m := by
  refine (nearest_eq_some_iff hk).2 ⟨Or.inl ?_, fun r hr => Or.inl ?_⟩
  · have := unitsAt_lt_succ m.rank
    rw [units_eq_unitsAt, ← Nat.mul_assoc]
    exact Nat.mul_lt_mul_of_pos_right (by rw [midpoint]; omega) hk
  · have := unitsAt_lt_succ r
    rw [units_eq_unitsAt, hr, ← Nat.mul_assoc]
    exact Nat.mul_lt_mul_of_pos_right (by rw [midpoint]; omega) hk

theorem units_le_units {m m' : Magnitude} : m.units ≤ m'.units ↔ m.rank ≤ m'.rank :=
  unitsAt_strictMono.le_iff_le

end SpriteScene.Magnitude
