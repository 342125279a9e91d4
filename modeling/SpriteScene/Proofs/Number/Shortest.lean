/-
  The decimal that a magnitude is written with.

  * `toMagnitude?_shortest`: it reads back as the magnitude;
  * `seventeenDigits`: on the grid of seventeen digits one of the two
    neighbours of a magnitude reads back, so the search ends there;
  * `digits_shortest_le_of_readsBack`: no decimal of fewer digits reads back.
-/
import SpriteScene.Proofs.Number.Decimal

namespace SpriteScene.Magnitude

open Decimal

/-! ## Neighbours on a grid -/

theorem exactDigits_eq (m : Magnitude) : m.exactDigits = m.units * gridUnit := by
  unfold exactDigits gridUnit
  generalize 1074 = k
  rfl

theorem nearest_exactDigits (m : Magnitude) : nearest m.exactDigits gridUnit = some m := by
  rw [exactDigits_eq, nearest_units m gridUnit_pos]

/-- The number of decimal digits of the exact value. -/
def exactLength (m : Magnitude) : Nat := (Nat.toDigits 10 m.exactDigits).length

theorem exactDigits_lt (m : Magnitude) : m.exactDigits < 10 ^ m.exactLength :=
  lt_pow_length_toDigits m.exactDigits

theorem pow_le_exactDigits {m : Magnitude} {k : Nat} (hk : 0 < k) (h : k < m.exactLength) :
    10 ^ k ≤ m.exactDigits :=
  pow_le_of_lt_length_toDigits hk h

theorem readsBack_iff {m : Magnitude} {d : Decimal} :
    m.readsBack d = true ↔ d.toMagnitude? = some m := by
  simp [readsBack]

/-- What the search for a neighbour on a grid comes to: it gives one of the two
    multiples next to the exact value, one that reads back, as long as there is
    one. -/
theorem neighbour?_spec (tie : TieRule) (m : Magnitude) (places : Nat) :
    (∀ d, m.neighbour? tie places = some d → m.readsBack d = true ∧
      (d = onGrid (m.exactDigits / Nat.pow 10 places) places ∨
        d = onGrid (m.exactDigits / Nat.pow 10 places + 1) places)) ∧
    (m.neighbour? tie places = none →
      m.readsBack (onGrid (m.exactDigits / Nat.pow 10 places) places) = false ∧
        m.readsBack (onGrid (m.exactDigits / Nat.pow 10 places + 1) places) = false) := by
  -- the bare constant is unfolded: opened under its arguments, the match makes
  -- the kernel compute with the powers of the exact value
  obtain ⟨search, hsearch⟩ : ∃ search, search = @neighbour? := ⟨_, rfl⟩
  rw [← hsearch]
  delta neighbour? at hsearch
  subst hsearch
  delta onGrid
  dsimp only
  generalize hbelow : m.readsBack ⟨m.exactDigits / Nat.pow 10 places, places - 1074⟩ = belowReads
  generalize habove : m.readsBack ⟨m.exactDigits / Nat.pow 10 places + 1, places - 1074⟩ =
    aboveReads
  match belowReads, aboveReads with
  | true, true =>
    refine ⟨fun d hd => ?_, nofun⟩
    rcases ite_eq_iff.1 (Option.some.inj hd) with ⟨-, rfl⟩ | ⟨-, rfl⟩
    · exact ⟨habove, Or.inr rfl⟩
    · exact ⟨hbelow, Or.inl rfl⟩
  | true, false => exact ⟨fun d hd => by cases hd; exact ⟨hbelow, Or.inl rfl⟩, nofun⟩
  | false, true => exact ⟨fun d hd => by cases hd; exact ⟨habove, Or.inr rfl⟩, nofun⟩
  | false, false => exact ⟨nofun, fun _ => ⟨rfl, rfl⟩⟩

/-- A neighbour reads back. -/
theorem toMagnitude?_of_neighbour? {tie : TieRule} {m : Magnitude} {places : Nat} {d : Decimal}
    (h : m.neighbour? tie places = some d) : d.toMagnitude? = some m :=
  readsBack_iff.1 ((neighbour?_spec tie m places).1 d h).1

/-- A neighbour that leaves out the places behind `k` digits has at most `k`
    digits, or is the power of ten behind them. -/
theorem digits_le_of_neighbour? {tie : TieRule} {m : Magnitude} {k : Nat} {d : Decimal}
    (h : m.neighbour? tie (m.exactLength - k) = some d) : d.digits ≤ 10 ^ k := by
  have hlt : m.exactDigits < 10 ^ (m.exactLength - k) * 10 ^ k := by
    rw [← Nat.pow_add]
    exact m.exactDigits_lt.trans_le (Nat.pow_le_pow_right (by decide) (by omega))
  have hquot : m.exactDigits / 10 ^ (m.exactLength - k) < 10 ^ k := Nat.div_lt_of_lt_mul hlt
  rcases ((neighbour?_spec tie m _).1 d h).2 with rfl | rfl
  · exact hquot.le
  · exact hquot

/-- Any multiple that reads back makes one of the two neighbours do so, for they
    lie between it and the exact value. -/
theorem exists_neighbour? (tie : TieRule) {m : Magnitude} {places n : Nat}
    (h : nearest (n * 10 ^ places) gridUnit = some m) :
    ∃ d, m.neighbour? tie places = some d := by
  have hexact := m.nearest_exactDigits
  have hnone := (neighbour?_spec tie m places).2
  rw [← Bool.not_eq_true, ← Bool.not_eq_true, readsBack_iff, readsBack_iff, toMagnitude?_onGrid,
    toMagnitude?_onGrid, Nat.pow_eq] at hnone
  generalize m.exactDigits = x at *
  have hbelow : x / 10 ^ places * 10 ^ places ≤ x := Nat.div_mul_le_self _ _
  have habove : x < (x / 10 ^ places + 1) * 10 ^ places := by
    have := Nat.lt_mul_div_succ x (Nat.pow_pos (n := places) (by decide : 0 < 10))
    rwa [Nat.mul_comm] at this
  cases hs : m.neighbour? tie places with
  | some d => exact ⟨d, rfl⟩
  | none =>
    rcases Nat.lt_or_ge (x / 10 ^ places) n with hn | hn
    · exact absurd (nearest_between gridUnit_pos habove.le (Nat.mul_le_mul_right _ hn) hexact h)
        (hnone hs).2
    · exact absurd (nearest_between gridUnit_pos (Nat.mul_le_mul_right _ hn) hbelow h hexact)
        (hnone hs).1

/-! ## Seventeen digits -/

/-- A step between ranks is at least the `2 ^ 53`-th part of the rank it leads
    to. -/
theorem unitsAt_succ_le (r : Nat) :
    unitsAt (r + 1) + 2 ^ 53 * unitsAt r ≤ 2 ^ 53 * unitsAt (r + 1) := by
  obtain ⟨s, f, h, rfl⟩ := exists_place r
  have hf : f + 1 ≤ 2 ^ 53 := h.1
  rw [unitsAt_place h, unitsAt_place_succ h]
  have := Nat.mul_le_mul_right (2 ^ s) hf
  linarith

/-- What is closer to a magnitude than its `2 ^ 54`-th part is rounded to it. -/
theorem nearest_of_close {m : Magnitude} {num den : Nat} (hden : 0 < den)
    (hlo : 2 ^ 54 * (m.units * den) < 2 ^ 54 * num + m.units * den)
    (hhi : 2 ^ 54 * num < 2 ^ 54 * (m.units * den) + m.units * den) :
    nearest num den = some m := by
  rw [units_eq_unitsAt] at hlo hhi
  refine (nearest_eq_some_iff hden).2 ⟨Or.inl ?_, fun r hr => Or.inl ?_⟩
  · have hgap := Nat.mul_le_mul_right den (unitsAt_succ_le m.rank)
    have hle := Nat.mul_le_mul_right den (unitsAt_lt_succ m.rank).le
    rw [midpoint]
    linarith
  · have hgap := Nat.mul_le_mul_right den (unitsAt_succ_le r)
    rw [midpoint, ← hr]
    rw [← hr] at hgap
    linarith

/-- The exact value of a magnitude is long: it is a whole number of units. -/
theorem seventeen_lt_exactLength {m : Magnitude} (hm : m.rank ≠ 0) : 17 < m.exactLength := by
  have hpos : 0 < m.units := by
    have := unitsAt_strictMono (Nat.pos_of_ne_zero hm)
    rw [units_eq_unitsAt]
    exact Nat.zero_lt_of_lt this
  have hlong : 10 ^ 17 ≤ m.exactDigits := by
    rw [exactDigits_eq]
    calc 10 ^ 17 ≤ gridUnit := by decide +kernel
      _ ≤ m.units * gridUnit := Nat.le_mul_of_pos_left _ hpos
  by_contra h
  have := m.exactDigits_lt.trans_le (Nat.pow_le_pow_right (by decide : 0 < 10) (Nat.not_lt.1 h))
  omega

/-- **Seventeen digits suffice**: on their grid, one of the multiples next to
    the exact value reads back. -/
theorem seventeenDigits {m : Magnitude} (hm : m.rank ≠ 0) :
    ∃ n, nearest (n * 10 ^ (m.exactLength - 17)) gridUnit = some m := by
  have hlen := seventeen_lt_exactLength hm
  -- the step of the grid is at most the `10 ^ 16`-th part of the exact value
  have hstep : 10 ^ (m.exactLength - 17) * 10 ^ 16 ≤ m.exactDigits := by
    rw [← Nat.pow_add]
    exact pow_le_exactDigits (by omega) (by omega)
  have hclose (num : Nat)
      (hlo : 2 ^ 54 * m.exactDigits < 2 ^ 54 * num + m.exactDigits)
      (hhi : 2 ^ 54 * num < 2 ^ 54 * m.exactDigits + m.exactDigits) :
      nearest num gridUnit = some m := by
    rw [exactDigits_eq] at hlo hhi
    exact nearest_of_close gridUnit_pos hlo hhi
  have hx : 0 < m.exactDigits := by
    have := Nat.mul_pos (Nat.pow_pos (n := m.exactLength - 17) (by decide : 0 < 10))
      (Nat.pow_pos (n := 16) (by decide : 0 < 10))
    omega
  have hpositive : 0 < 10 ^ (m.exactLength - 17) := Nat.pow_pos (by decide)
  generalize m.exactDigits = x at *
  generalize 10 ^ (m.exactLength - 17) = step at *
  have hsplit := Nat.div_add_mod x step
  have hrest : x % step < step := Nat.mod_lt _ hpositive
  rcases Nat.lt_or_ge step (2 * (x % step)) with h | h
  · refine ⟨x / step + 1, hclose _ ?_ ?_⟩
    · rw [Nat.add_mul, Nat.mul_comm (x / step)]; omega
    · rw [Nat.add_mul, Nat.mul_comm (x / step)]; omega
  · refine ⟨x / step, hclose _ ?_ ?_⟩
    · rw [Nat.mul_comm (x / step)]; omega
    · rw [Nat.mul_comm (x / step)]; omega

/-! ## The shortest decimal -/

theorem findSome?_range_eq_some {f : Nat → Option α} {a : α} {n : Nat}
    (h : (List.range n).findSome? f = some a) : ∃ i < n, f i = some a ∧ ∀ j < i, f j = none := by
  induction n with
  | zero => cases h
  | succ n ih =>
    rw [List.range_succ, List.findSome?_append] at h
    cases hn : (List.range n).findSome? f with
    | some b =>
      rw [hn, Option.some_or] at h
      obtain ⟨i, hi, hf⟩ := ih (hn.trans h)
      exact ⟨i, Nat.lt_succ_of_lt hi, hf⟩
    | none =>
      rw [hn, Option.none_or, List.findSome?_singleton] at h
      exact ⟨n, Nat.lt_succ_self n, h, fun j hj =>
        List.findSome?_eq_none_iff.1 hn j (List.mem_range.2 hj)⟩

/-- The shortest decimal is a neighbour on the first grid that has one, without
    its trailing zeros. -/
theorem shortest_eq_trim (tie : TieRule) {m : Magnitude} (hm : m.rank ≠ 0) :
    ∃ k d, k ≤ 17 ∧ m.neighbour? tie (m.exactLength - k) = some d ∧
      (∀ j, 0 < j → j < k → m.neighbour? tie (m.exactLength - j) = none) ∧
      m.shortest tie = d.trim m.exactLength := by
  have hfound : (List.range 17).findSome? (fun i => m.neighbour? tie (m.exactLength - (i + 1))) ≠
      none := by
    intro hnone
    obtain ⟨n, hn⟩ := seventeenDigits hm
    obtain ⟨d, hd⟩ := exists_neighbour? tie hn
    have hlast := List.findSome?_eq_none_iff.1 hnone 16 (List.mem_range.2 (by decide))
    rw [hd] at hlast
    cases hlast
  obtain ⟨d, hd⟩ := Option.ne_none_iff_exists'.1 hfound
  obtain ⟨i, hi, hneighbour, hfirst⟩ := findSome?_range_eq_some hd
  refine ⟨i + 1, d, hi, hneighbour, fun j hj hji => ?_, ?_⟩
  · obtain ⟨j, rfl⟩ := Nat.exists_eq_succ_of_ne_zero (Nat.ne_of_gt hj)
    exact hfirst j (by omega)
  · rw [exactLength] at hd
    rw [shortest, if_neg hm]
    dsimp only
    rw [hd, Option.getD_some, exactLength]

/-- **The shortest decimal reads back.** -/
theorem toMagnitude?_shortest (tie : TieRule) (m : Magnitude) :
    (m.shortest tie).toMagnitude? = some m := by
  by_cases hm : m.rank = 0
  · rw [shortest, if_pos hm, toMagnitude?, if_pos rfl]
    exact congrArg some (eq_of_rank_eq hm.symm)
  · obtain ⟨k, d, -, hd, -, hs⟩ := shortest_eq_trim tie hm
    rw [hs, toMagnitude?_trim, toMagnitude?_of_neighbour? hd]

/-- Only zero is written with the digit zero. -/
theorem digits_shortest_ne_zero (tie : TieRule) {m : Magnitude} (hm : m.rank ≠ 0) :
    (m.shortest tie).digits ≠ 0 := by
  intro h
  have hread := toMagnitude?_shortest tie m
  rw [toMagnitude?, if_pos h] at hread
  cases hread
  exact hm rfl

/-- What is written does not end in a zero. -/
theorem digits_shortest_mod_ne_zero (tie : TieRule) {m : Magnitude} (hm : m.rank ≠ 0) :
    (m.shortest tie).digits % 10 ≠ 0 := by
  have hne := digits_shortest_ne_zero tie hm
  obtain ⟨k, d, hk, hd, -, hs⟩ := shortest_eq_trim tie hm
  rw [hs] at hne ⊢
  have hpos : d.digits ≠ 0 := fun hzero => hne (Nat.le_zero.1 (hzero ▸ digits_trim_le _ d))
  refine digits_trim_mod_ne_zero hpos ?_
  calc d.digits ≤ 10 ^ k := digits_le_of_neighbour? hd
    _ < 10 ^ m.exactLength :=
      Nat.pow_lt_pow_right (by decide) (hk.trans_lt (seventeen_lt_exactLength hm))

theorem digits_shortest_le (tie : TieRule) (m : Magnitude) :
    (m.shortest tie).digits ≤ 10 ^ 17 := by
  by_cases hm : m.rank = 0
  · rw [shortest, if_pos hm]
    exact Nat.zero_le _
  · obtain ⟨k, d, hk, hd, -, hs⟩ := shortest_eq_trim tie hm
    rw [hs]
    calc (d.trim m.exactLength).digits ≤ d.digits := digits_trim_le _ _
      _ ≤ 10 ^ k := digits_le_of_neighbour? hd
      _ ≤ 10 ^ 17 := Nat.pow_le_pow_right (by decide) hk

/-- A decimal of at most `k` digits that reads back shows one that does so among
    the multiples that leave `k` digits of the exact value. -/
theorem exists_multiple {m : Magnitude} {n places k : Nat} (hk : 0 < k) (hkl : k < m.exactLength)
    (hn : n ≤ 10 ^ k) (h : nearest (n * 10 ^ places) gridUnit = some m) :
    ∃ n', nearest (n' * 10 ^ (m.exactLength - k)) gridUnit = some m := by
  have hexact := m.nearest_exactDigits
  have hlt := m.exactDigits_lt
  have hle : 10 ^ (m.exactLength - 1) ≤ m.exactDigits := pow_le_exactDigits (by omega) (by omega)
  generalize m.exactDigits = x at *
  generalize m.exactLength = length at *
  have hbottom : 10 ^ (k - 1) * 10 ^ (length - k) = 10 ^ (length - 1) := by
    rw [← Nat.pow_add, show k - 1 + (length - k) = length - 1 by omega]
  have htop : 10 ^ k * 10 ^ (length - k) = 10 ^ length := by
    rw [← Nat.pow_add, show k + (length - k) = length by omega]
  rcases Nat.lt_or_ge (10 ^ (length - 1)) (n * 10 ^ places) with hlo | hlo
  · rcases Nat.lt_or_ge (n * 10 ^ places) (10 ^ length) with hhi | hhi
    · -- the decimal has as many places as the exact value, so it stands on the grid
      have hplaces : length - k ≤ places := by
        have hpow : 10 ^ (length - 1) < 10 ^ (k + places) :=
          hlo.trans_le (by rw [Nat.pow_add]; exact Nat.mul_le_mul_right _ hn)
        have := (Nat.pow_lt_pow_iff_right (by decide)).1 hpow
        omega
      refine ⟨n * 10 ^ (places - (length - k)), ?_⟩
      rw [Nat.mul_assoc, ← Nat.pow_add, Nat.sub_add_cancel hplaces, h]
    · refine ⟨10 ^ k, ?_⟩
      rw [htop]
      exact nearest_between gridUnit_pos hlt.le hhi hexact h
  · refine ⟨10 ^ (k - 1), ?_⟩
    rw [hbottom]
    exact nearest_between gridUnit_pos hlo hle h hexact

/-- **No decimal of fewer digits reads back.** -/
theorem digits_shortest_le_of_readsBack (tie : TieRule) {m : Magnitude} {n places k : Nat}
    (hk : 0 < k) (hn : n ≤ 10 ^ k) (h : (onGrid n places).toMagnitude? = some m) :
    (m.shortest tie).digits ≤ 10 ^ k := by
  by_cases hm : m.rank = 0
  · rw [shortest, if_pos hm]
    exact Nat.zero_le _
  · obtain ⟨k', d, hk', hd, hfirst, hs⟩ := shortest_eq_trim tie hm
    have hkk : k' ≤ k := by
      by_contra hlt
      have hkl := seventeen_lt_exactLength hm
      rw [toMagnitude?_onGrid] at h
      obtain ⟨n', hn'⟩ := exists_multiple hk (by omega) hn h
      obtain ⟨d', hd'⟩ := exists_neighbour? tie hn'
      rw [hfirst k hk (Nat.not_le.1 hlt)] at hd'
      cases hd'
    rw [hs]
    calc (d.trim m.exactLength).digits ≤ d.digits := digits_trim_le _ _
      _ ≤ 10 ^ k' := digits_le_of_neighbour? hd
      _ ≤ 10 ^ k := Nat.pow_le_pow_right (by decide) hkk

end SpriteScene.Magnitude
