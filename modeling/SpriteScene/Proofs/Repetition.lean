/-
  Elements that occur again.

  * `pick` takes the elements of a list that satisfy a condition on those before them;
  * `repetitions_eq`: the repetitions of a list are the elements that are among those
    before them, so one that occurs `k` times is repeated `k - 1` times
    (`count_repetitions`);
  * `eraseDups_eq`: without repetitions a list has the elements that are not, in the
    order of their first occurrences (`pairwise_idxOf_eraseDups`), and `eq_eraseDups_iff`:
    this makes it the only such list;
  * `eraseDups_filter`: erasing repetitions commutes with a filter, and
    `eraseDups_map`: so it does with a map that tells the elements apart.
-/
import Mathlib.Data.List.Infix
import Mathlib.Data.List.Nodup
import SpriteScene.Scene.Issue

namespace SpriteScene

variable {α β : Type}

/-! ## Conditions on what stands before -/

/-- The elements of a list that satisfy a condition on those before them. -/
def pick (p : List α → α → Bool) (as : List α) : List α :=
  ((as.inits.zip as).filter fun (earlier, a) => p earlier a).map Prod.snd

theorem pick_cons (p : List α → α → Bool) (a : α) (as : List α) :
    pick p (a :: as) =
      (if p [] a then [a] else []) ++ pick (fun earlier => p (a :: earlier)) as := by
  have hrest : ((as.inits.map (a :: ·)).zip as).filter (fun (earlier, b) => p earlier b) =
      ((as.inits.zip as).filter fun (earlier, b) => p (a :: earlier) b).map
        (Prod.map (a :: ·) id) := by
    rw [List.zip_map_left, List.filter_map]
    rfl
  rw [pick, pick, List.inits_cons, List.zip_cons_cons, List.filter_cons, hrest]
  by_cases h : p [] a <;> simp [h]

theorem pick_congr {p q : List α → α → Bool} (h : ∀ earlier a, p earlier a = q earlier a)
    (as : List α) : pick p as = pick q as := by
  rw [show p = q from funext fun earlier => funext (h earlier)]

theorem pick_map (p : List β → β → Bool) (f : α → β) (as : List α) :
    pick p (as.map f) = (pick (fun earlier a => p (earlier.map f) (f a)) as).map f := by
  induction as generalizing p with
  | nil => rfl
  | cons a as ih =>
    rw [List.map_cons, pick_cons, pick_cons, ih, List.map_append]
    by_cases h : p [] (f a) <;> simp [h]

theorem filter_pick (p : List α → α → Bool) (q : α → Bool) (as : List α) :
    (pick p as).filter q = pick (fun earlier a => p earlier a && q a) as := by
  induction as generalizing p with
  | nil => rfl
  | cons a as ih =>
    rw [pick_cons, pick_cons, List.filter_append, ih]
    by_cases h : p [] a <;> by_cases hq : q a <;> simp [h, hq]

variable [DecidableEq α] [DecidableEq β]

/-! ## Repetitions -/

/-- **The repetitions of a list** are the elements that are among those before them. -/
theorem repetitions_eq (seen as : List α) :
    repetitions seen as = pick (fun earlier a => a ∈ seen ∨ a ∈ earlier) as := by
  induction as generalizing seen with
  | nil => rfl
  | cons a as ih =>
    rw [pick_cons, repetitions]
    by_cases h : a ∈ seen
    · rw [if_pos h, ih, if_pos (by simpa using h), List.singleton_append]
      refine congrArg (a :: ·) (pick_congr (fun earlier b => ?_) as)
      by_cases hb : b = a <;> simp [hb, h]
    · rw [if_neg h, ih, if_neg (by simpa using h), List.nil_append]
      refine pick_congr (fun earlier b => ?_) as
      simp only [List.mem_cons, or_assoc, or_left_comm]

theorem repetitions_eq_nil_iff {seen as : List α} :
    repetitions seen as = [] ↔ as.Nodup ∧ ∀ a ∈ as, a ∉ seen := by
  induction as generalizing seen with
  | nil => simp [repetitions]
  | cons a as ih =>
    by_cases h : a ∈ seen
    · simp [repetitions, h]
    · rw [repetitions, if_neg h, ih, List.nodup_cons, List.forall_mem_cons]
      constructor
      · rintro ⟨hnodup, hfresh⟩
        refine ⟨⟨fun ha => hfresh a ha List.mem_cons_self, hnodup⟩, h, fun b hb => ?_⟩
        exact fun hseen => hfresh b hb (List.mem_cons_of_mem a hseen)
      · rintro ⟨⟨ha, hnodup⟩, -, hfresh⟩
        refine ⟨hnodup, fun b hb hseen => ?_⟩
        rcases List.mem_cons.1 hseen with rfl | hseen
        · exact ha hb
        · exact hfresh b hb hseen

/-- A new element behind others repeats none of them. -/
theorem repetitions_concat {a : α} {as : List α} (ha : a ∉ as) :
    ∀ {seen : List α}, a ∉ seen → repetitions seen (as ++ [a]) = repetitions seen as := by
  induction as with
  | nil =>
    intro seen hseen
    simp [repetitions, hseen]
  | cons b as ih =>
    intro seen hseen
    have hb : a ≠ b := List.ne_of_not_mem_cons ha
    have has : a ∉ as := List.not_mem_of_not_mem_cons ha
    rw [List.cons_append, repetitions, repetitions, ih has hseen,
      ih has (List.not_mem_cons_of_ne_of_not_mem hb hseen)]

/-- The first occurrence of an element is no repetition, and every other one is. -/
theorem count_repetitions (a : α) (seen as : List α) :
    (repetitions seen as).count a = if a ∈ seen then as.count a else as.count a - 1 := by
  induction as generalizing seen with
  | nil => simp [repetitions]
  | cons b as ih =>
    rw [repetitions]
    by_cases hab : b = a
    · subst hab
      by_cases hseen : b ∈ seen <;> simp [hseen, ih]
    · have hba : a ≠ b := Ne.symm hab
      by_cases hseen : b ∈ seen <;> simp [hseen, ih, hab, hba]

/-! ## Lists without repetitions -/

/-- Erasing repetitions commutes with a filter. -/
theorem eraseDups_filter (p : α → Bool) :
    ∀ as : List α, (as.filter p).eraseDups = as.eraseDups.filter p
  | [] => rfl
  | a :: as => by
    have ih := eraseDups_filter p (as.filter fun b => !b == a)
    rw [List.eraseDups_cons]
    by_cases ha : p a
    · rw [List.filter_cons_of_pos ha, List.filter_cons_of_pos ha, List.eraseDups_cons, ← ih,
        List.filter_comm]
    · have hkept : (as.filter fun b => !b == a).filter p = as.filter p := by
        rw [List.filter_filter]
        refine List.filter_congr fun b _ => ?_
        by_cases hb : b = a
        · simp [hb, ha]
        · simp [hb]
      rw [List.filter_cons_of_neg ha, List.filter_cons_of_neg ha, ← ih, hkept]
termination_by as => as.length
decreasing_by
  simp only [List.length_cons]
  exact Nat.lt_succ_of_le (List.length_filter_le _ _)

/-- The first element is kept, and it is the only one of its kind. -/
theorem eraseDups_cons_eq (a : α) (as : List α) :
    (a :: as).eraseDups = a :: as.eraseDups.filter (· ≠ a) := by
  rw [List.eraseDups_cons, eraseDups_filter]
  refine congrArg (a :: ·) (List.filter_congr fun b _ => ?_)
  by_cases hb : b = a <;> simp [hb]

theorem eraseDups_concat (as : List α) (a : α) :
    (as ++ [a]).eraseDups = if a ∈ as then as.eraseDups else as.eraseDups ++ [a] := by
  rw [List.eraseDups_append]
  by_cases ha : a ∈ as <;> simp [List.removeAll, ha, List.eraseDups_cons]

theorem prefix_eraseDups {as bs : List α} (h : as <+: bs) : as.eraseDups <+: bs.eraseDups := by
  obtain ⟨more, rfl⟩ := h
  rw [List.eraseDups_append]
  exact List.prefix_append _ _

theorem nodup_eraseDups (as : List α) : as.eraseDups.Nodup := by
  induction as with
  | nil => exact List.nodup_nil
  | cons a as ih =>
    rw [eraseDups_cons_eq, List.nodup_cons]
    exact ⟨by simp, ih.filter _⟩

/-- Erasing repetitions commutes with a map that tells the elements apart. -/
theorem eraseDups_map (f : α → β) {as : List α} (hf : ∀ a ∈ as, ∀ b ∈ as, f a = f b → a = b) :
    (as.map f).eraseDups = as.eraseDups.map f := by
  induction as with
  | nil => rfl
  | cons a as ih =>
    have hfilter : (as.eraseDups.map f).filter (· ≠ f a) =
        (as.eraseDups.filter (· ≠ a)).map f := by
      rw [List.filter_map]
      congr 1
      refine List.filter_congr fun b hb => ?_
      have hba : f b = f a ↔ b = a :=
        ⟨hf b (List.mem_cons_of_mem _ (List.mem_eraseDups.1 hb)) a List.mem_cons_self, congrArg f⟩
      simp [hba]
    rw [List.map_cons, eraseDups_cons_eq, eraseDups_cons_eq, List.map_cons, ih, hfilter]
    intro b hb c hc
    exact hf b (List.mem_cons_of_mem _ hb) c (List.mem_cons_of_mem _ hc)

/-- **Without repetitions** a list has the elements that are not among those before
    them. -/
theorem eraseDups_eq (as : List α) : as.eraseDups = pick (fun earlier a => a ∉ earlier) as := by
  induction as with
  | nil => rfl
  | cons a as ih =>
    rw [pick_cons, eraseDups_cons_eq, ih, filter_pick, if_pos (by simp), List.singleton_append]
    refine congrArg (a :: ·) (pick_congr (fun earlier b => ?_) as)
    simp [Bool.and_comm]

/-- What is left stands in the order of the first occurrences. -/
theorem pairwise_idxOf_eraseDups (as : List α) :
    as.eraseDups.Pairwise fun a b => as.idxOf a < as.idxOf b := by
  induction as with
  | nil => exact List.Pairwise.nil
  | cons a as ih =>
    have hnext {b : α} (hb : b ∈ as.eraseDups.filter (· ≠ a)) :
        (a :: as).idxOf b = as.idxOf b + 1 := by
      have hne : b ≠ a := of_decide_eq_true (List.mem_filter.1 hb).2
      exact List.idxOf_cons_ne as hne.symm
    rw [eraseDups_cons_eq, List.pairwise_cons]
    constructor
    · intro b hb
      rw [List.idxOf_cons_self, hnext hb]
      exact Nat.succ_pos _
    · refine (ih.filter _).imp_of_mem fun hb hc hlt => ?_
      rw [hnext hb, hnext hc]
      exact Nat.succ_lt_succ hlt

/-- **No other list** has the same elements once and in that order. -/
theorem eq_eraseDups_iff {as bs : List α} :
    bs = as.eraseDups ↔
      bs.Nodup ∧ (∀ a, a ∈ bs ↔ a ∈ as) ∧ bs.Pairwise fun a b => as.idxOf a < as.idxOf b := by
  constructor
  · rintro rfl
    exact ⟨nodup_eraseDups as, fun _ => List.mem_eraseDups, pairwise_idxOf_eraseDups as⟩
  · rintro ⟨hnodup, hmem, hsorted⟩
    have hperm : bs.Perm as.eraseDups :=
      (List.perm_ext_iff_of_nodup hnodup (nodup_eraseDups as)).2 fun a => by
        rw [hmem, List.mem_eraseDups]
    refine hperm.eq_of_pairwise (fun a b _ _ hab hba => ?_) hsorted (pairwise_idxOf_eraseDups as)
    exact absurd (hab.trans hba) (lt_irrefl _)

/-- Elements behind others are listed if they are not among these. -/
theorem eraseDups_append_eq (as bs : List α) :
    (as ++ bs).eraseDups = as.eraseDups ++ bs.eraseDups.filter (· ∉ as) := by
  rw [List.eraseDups_append, List.removeAll, eraseDups_filter]
  simp

end SpriteScene
