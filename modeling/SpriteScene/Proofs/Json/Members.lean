/-
  Members of maps, whatever their order.

  * `FieldStep` says what one member does to a field, and `FillsFrom` what the field holds
    behind members that are gone through from left to right; `Fills` says it without an
    order: the members of the key are none or one (`fillsFrom_none_iff`);
  * `Rearranged`: members in another order, with values that stand for theirs, and with
    more members of other keys anywhere among them.  They fill the fields as before
    (`Rearranged.fills`);
  * a key that occurs twice fills nothing (`HasTwice.not_fills`).
-/
import Mathlib.Data.List.Perm.Basic
import SpriteScene.Proofs.Json.Tree

namespace SpriteScene.Json

/-! ## Filling a field -/

section
variable {κ β α : Type} [DecidableEq κ] {key key' : κ} {P : β → α → Prop} {v : β}
  {ms : List (κ × β)} {held filled : Option α}

/-- What a member does to what a field holds: the value of a member of its key goes into
    it, if nothing is there, and any other member leaves it. -/
def FieldStep (key : κ) (P : β → α → Prop) (held : Option α) (key' : κ) (v : β)
    (next : Option α) : Prop :=
  if key' = key then held = none ∧ ∃ a, P v a ∧ next = some a else next = held

/-- What a field holds behind members, by what it held before them. -/
def FillsFrom (key : κ) (P : β → α → Prop) : Option α → List (κ × β) → Option α → Prop
  | held, [], filled => filled = held
  | held, m :: ms, filled =>
    ∃ next, FieldStep key P held m.1 m.2 next ∧ FillsFrom key P next ms filled

/-- The values of the members of a key. -/
def valuesOf (key : κ) (ms : List (κ × β)) : List β :=
  ms.filterMap fun m => if m.1 = key then some m.2 else none

/-- What members make of a field that holds nothing: the value of the member of its key
    if there is one, and there is no second one. -/
def Fills (key : κ) (P : β → α → Prop) (ms : List (κ × β)) (filled : Option α) : Prop :=
  List.Forall₂ P (valuesOf key ms) filled.toList

/-- **A field is filled member by member**, whatever the keys of the members. -/
theorem fillsFrom_cons : FillsFrom key P held ((key', v) :: ms) filled ↔
    ∃ next, FieldStep key P held key' v next ∧ FillsFrom key P next ms filled := Iff.rfl

theorem fieldStep_self {next : Option α} :
    FieldStep key P held key v next ↔ held = none ∧ ∃ a, P v a ∧ next = some a := by
  rw [FieldStep, if_pos rfl]

theorem fieldStep_of_ne {next : Option α} (h : key' ≠ key) :
    FieldStep key P held key' v next ↔ next = held := by
  rw [FieldStep, if_neg h]

/-- A member of the key of a field finds the field empty. -/
theorem FieldStep.not_isSome {next : Option α} (h : FieldStep key P held key' v next)
    (hkey : key' = key) : ¬ held.isSome := by
  subst hkey
  rw [(fieldStep_self.1 h).1]
  exact Bool.false_ne_true

theorem valuesOf_cons_self : valuesOf key ((key, v) :: ms) = v :: valuesOf key ms := by
  simp [valuesOf]

theorem valuesOf_cons_of_ne (h : key' ≠ key) :
    valuesOf key ((key', v) :: ms) = valuesOf key ms := by
  simp [valuesOf, h]

theorem valuesOf_append (key : κ) (ms ms' : List (κ × β)) :
    valuesOf key (ms ++ ms') = valuesOf key ms ++ valuesOf key ms' := List.filterMap_append

theorem valuesOf_eq_nil (h : ∀ m ∈ ms, m.1 ≠ key) : valuesOf key ms = [] := by
  rw [valuesOf, List.filterMap_eq_nil_iff]
  exact fun m hm => if_neg (h m hm)

theorem fillsFrom_iff : FillsFrom key P held ms filled ↔
    ∃ as, List.Forall₂ P (valuesOf key ms) as ∧ filled.toList = held.toList ++ as := by
  induction ms generalizing held with
  | nil =>
    rw [FillsFrom]
    constructor
    · rintro rfl
      exact ⟨[], .nil, (List.append_nil _).symm⟩
    · rintro ⟨_, ⟨⟩, h⟩
      cases held <;> cases filled <;> simp_all
  | cons m ms ih =>
    obtain ⟨key', v⟩ := m
    by_cases hkey : key' = key
    · subst hkey
      simp only [fillsFrom_cons, fieldStep_self, valuesOf_cons_self, ih]
      constructor
      · rintro ⟨_, ⟨rfl, a, hP, rfl⟩, as, has, h⟩
        exact ⟨a :: as, .cons hP has, h⟩
      · rintro ⟨_, _ | ⟨hP, has⟩, h⟩
        cases held with
        | none => exact ⟨_, ⟨rfl, _, hP, rfl⟩, _, has, h⟩
        | some b => cases filled <;> simp at h
    · simp only [fillsFrom_cons, fieldStep_of_ne hkey, exists_eq_left, valuesOf_cons_of_ne hkey, ih]

/-- **A field is filled the same in any order.** -/
theorem fillsFrom_none_iff : FillsFrom key P none ms filled ↔ Fills key P ms filled := by
  rw [fillsFrom_iff, Fills]
  simp

end

/-- What stands for values is taken for what they are taken for. -/
theorem forall₂_of_forall₂ {α β γ : Type} {R : β → γ → Prop} {P : β → α → Prop} {Q : γ → α → Prop}
    (h : ∀ v w a, R v w → P v a → Q w a) {vs : List β} {ws : List γ} {as : List α}
    (hR : List.Forall₂ R vs ws) (hP : List.Forall₂ P vs as) : List.Forall₂ Q ws as := by
  induction hR generalizing as with
  | nil =>
    cases hP
    exact .nil
  | cons hvw _ ih =>
    cases hP with
    | cons hva hP => exact .cons (h _ _ _ hvw hva) (ih hP)

/-- What is taken for a list is taken for each of its elements. -/
theorem exists_of_mem_forall₂ {α β : Type} {P : β → α → Prop} {vs : List β} {as : List α}
    (h : List.Forall₂ P vs as) {v : β} (hv : v ∈ vs) : ∃ a, P v a := by
  induction h with
  | nil => cases hv
  | cons hP _ ih =>
    rcases List.mem_cons.1 hv with rfl | hv
    · exact ⟨_, hP⟩
    · exact ih hv

/-! ## Members in another order -/

section
variable {β : Type}

/-- Members in another order, with values that stand for theirs, and with members of
    unknown keys put in anywhere. -/
def Rearranged (known : List String) (extra : β → Prop) (value : Option String → β → β → Prop)
    (ms ms' : List (Option String × β)) : Prop :=
  ∃ kept more : List (Option String × β),
    List.Forall₂ (fun m m' => m'.1 = m.1 ∧ value m.1 m.2 m'.2) ms kept ∧
      (∀ m ∈ more, ∃ key, m.1 = some key ∧ key ∉ known ∧ extra m.2) ∧ ms'.Perm (kept ++ more)

/-- A key that occurs twice. -/
def HasTwice (key : String) (ms : List (Option String × β)) : Prop :=
  ∃ v v', [(some key, v), (some key, v')].Sublist ms

variable {known : List String} {extra : β → Prop} {value : Option String → β → β → Prop}
  {ms ms' kept : List (Option String × β)}

theorem forall₂_valuesOf (key : Option String)
    (h : List.Forall₂ (fun m m' => m'.1 = m.1 ∧ value m.1 m.2 m'.2) ms kept) :
    List.Forall₂ (value key) (valuesOf key ms) (valuesOf key kept) := by
  induction h with
  | nil => exact .nil
  | @cons m m' _ _ hm _ ih =>
    obtain ⟨key₁, v⟩ := m
    obtain ⟨key₂, v'⟩ := m'
    obtain ⟨rfl, hvalue⟩ : key₂ = key₁ ∧ value key₁ v v' := hm
    by_cases hkey : key₂ = key
    · subst hkey
      rw [valuesOf_cons_self, valuesOf_cons_self]
      exact .cons hvalue ih
    · rwa [valuesOf_cons_of_ne hkey, valuesOf_cons_of_ne hkey]

/-- **Members in another order fill a field as before.** -/
theorem Rearranged.fills {key : String} {P : β → α → Prop} {filled : Option α}
    (h : Rearranged known extra value ms ms') (hkey : key ∈ known)
    (hvalue : ∀ v v' a, value (some key) v v' → P v a → P v' a)
    (hfills : Fills (some key) P ms filled) : Fills (some key) P ms' filled := by
  obtain ⟨kept, more, hkept, hmore, hperm⟩ := h
  have hvalues : List.Forall₂ P (valuesOf (some key) kept) filled.toList :=
    forall₂_of_forall₂ hvalue (forall₂_valuesOf (some key) hkept) hfills
  have hnone : valuesOf (some key) more = [] := by
    refine valuesOf_eq_nil fun m hm heq => ?_
    obtain ⟨key', hkey', hunknown, -⟩ := hmore m hm
    obtain rfl : key' = key := Option.some.inj (hkey'.symm.trans heq)
    exact hunknown hkey
  have hperm' : (valuesOf (some key) ms').Perm (valuesOf (some key) kept) := by
    have := hperm.filterMap fun m => if m.1 = some key then some m.2 else none
    rwa [← valuesOf, ← valuesOf, valuesOf_append, hnone, List.append_nil] at this
  obtain ⟨as, has, has'⟩ := List.perm_comp_forall₂ hperm' hvalues
  -- there is at most one value, and that leaves no choice of an order
  have heq : as = filled.toList := by
    cases filled with
    | none => exact List.perm_nil.1 has'
    | some a => exact List.perm_singleton.1 has'
  rwa [Fills, ← heq]

/-- What holds of all members and of those that are put in holds of the members in their
    new order. -/
theorem Rearranged.forall {p : Option String × β → Prop}
    (h : Rearranged known extra value ms ms')
    (hvalue : ∀ key v v', value key v v' → p (key, v) → p (key, v'))
    (hextra : ∀ key v, key ∉ known → extra v → p (some key, v)) (hms : ∀ m ∈ ms, p m) :
    ∀ m ∈ ms', p m := by
  obtain ⟨kept, more, hkept, hmore, hperm⟩ := h
  have hpkept : ∀ m ∈ kept, p m := by
    clear hperm
    induction hkept with
    | nil => exact List.forall_mem_nil _
    | @cons m m' _ _ hm _ ih =>
      obtain ⟨key, v⟩ := m
      obtain ⟨key', v'⟩ := m'
      obtain ⟨rfl, hv⟩ : key' = key ∧ value key v v' := hm
      rw [List.forall_mem_cons] at hms ⊢
      exact ⟨hvalue key' v v' hv hms.1, ih hms.2⟩
  intro m hm
  rcases List.mem_append.1 (hperm.mem_iff.1 hm) with hm | hm
  · exact hpkept m hm
  · obtain ⟨key, hkey, hunknown, hv⟩ := hmore m hm
    obtain ⟨_, v⟩ := m
    obtain rfl : _ = some key := hkey
    exact hextra key v hunknown hv

/-- A member of the key of a field is what the field is filled with. -/
theorem Fills.exists_of_mem {key : String} {P : β → α → Prop} {filled : Option α} {v : β}
    (h : Fills (some key) P ms filled) (hv : (some key, v) ∈ ms) : ∃ a, P v a := by
  have hmem : v ∈ valuesOf (some key) ms := List.mem_filterMap.2 ⟨_, hv, if_pos rfl⟩
  exact exists_of_mem_forall₂ h hmem

/-- **A key that occurs twice fills nothing.** -/
theorem HasTwice.not_fills {key : String} {P : β → α → Prop} {filled : Option α}
    (h : HasTwice key ms) : ¬ Fills (some key) P ms filled := by
  intro hfills
  obtain ⟨v, v', hsub⟩ := h
  have hvalues : [v, v'].Sublist (valuesOf (some key) ms) := by
    have hsub' := hsub.filterMap fun m => if m.1 = some key then some m.2 else none
    rwa [← valuesOf, ← valuesOf, valuesOf_cons_self, valuesOf_cons_self] at hsub'
  have hlength := hvalues.length_le
  rw [hfills.length_eq] at hlength
  cases filled <;> simp at hlength

end

end SpriteScene.Json
