/-
  When references can be imported together.

  * `bindScripts_eq_ok_iff`: references are bound iff each is valid and no two
    places of the list have one name, and then to the scripts they stand for;
  * `Importable`: the references of a scene are valid and different ones have
    different names; this is a condition on the set of references only, and
    `bindScripts_eraseDups_eq_ok_iff` reduces binding to it;
  * `Importable.eq_of_modulePathOf_eq`: then different references have
    different module paths.
-/
import SpriteScene.Proofs.Repetition
import SpriteScene.Proofs.Script.Reference
import SpriteScene.Proofs.Steps

namespace SpriteScene

/-! ## Binding -/

theorem scriptOf_eq_ok_iff {r : String} {script : Script} :
    scriptOf r = .ok script ↔ IsReference r ∧ script = Script.named r := by
  rw [← ofReference_eq_ok_iff]
  unfold scriptOf
  cases Script.ofReference r <;> simp

theorem bindFrom_eq_ok_iff {refs : List String} :
    ∀ {bound scripts : List Script}, bindFrom bound refs = .ok scripts ↔
      (∀ r ∈ refs, IsReference r) ∧ (∀ r ∈ refs, ∀ first ∈ bound, first.symbol ≠ symbolOf r) ∧
        (refs.map symbolOf).Nodup ∧ scripts = refs.map Script.named := by
  induction refs with
  | nil => simp [bindFrom, eq_comm]
  | cons r refs ih =>
    intro bound scripts
    rw [bindFrom, bind_eq_ok_iff]
    simp only [scriptOf_eq_ok_iff]
    constructor
    · rintro ⟨_, ⟨hr, rfl⟩, h⟩
      split at h
      · cases h
      rename_i hfind
      simp only [bind_eq_ok_iff, ih, pure, Except.pure, Except.ok.injEq] at h
      obtain ⟨_, ⟨hrefs, hbound, hnodup, rfl⟩, rfl⟩ := h
      have hfree : ∀ first ∈ bound, first.symbol ≠ symbolOf r :=
        fun first hf he => List.find?_eq_none.1 hfind first hf (decide_eq_true he)
      -- the names behind `r` differ from its own because `r` was bound before them
      have hnotMem : symbolOf r ∉ refs.map symbolOf := by
        intro hm
        obtain ⟨r', hr', he⟩ := List.mem_map.1 hm
        exact hbound r' hr' _ List.mem_cons_self he.symm
      refine ⟨List.forall_mem_cons.2 ⟨hr, hrefs⟩, List.forall_mem_cons.2 ⟨hfree, ?_⟩,
        List.nodup_cons.2 ⟨hnotMem, hnodup⟩, rfl⟩
      exact fun r' hr' first hf => hbound r' hr' first (List.mem_cons_of_mem _ hf)
    · rintro ⟨hrefs, hbound, hnodup, rfl⟩
      obtain ⟨hr, hrefs⟩ := List.forall_mem_cons.1 hrefs
      obtain ⟨hfree, hbound⟩ := List.forall_mem_cons.1 hbound
      obtain ⟨hnotMem, hnodup⟩ := List.nodup_cons.1 hnodup
      refine ⟨_, ⟨hr, rfl⟩, ?_⟩
      split
      · rename_i first hfind
        have hsym := List.find?_some hfind
        exact absurd (of_decide_eq_true hsym) (hfree first (List.mem_of_find?_eq_some hfind))
      · simp only [bind_eq_ok_iff, ih, pure, Except.pure, Except.ok.injEq]
        refine ⟨_, ⟨hrefs, fun r' hr' => List.forall_mem_cons.2 ⟨?_, hbound r' hr'⟩, hnodup, rfl⟩,
          rfl⟩
        exact fun he => hnotMem (List.mem_map.2 ⟨r', hr', he.symm⟩)

/-- **References are bound iff each is valid and their names are different.** -/
theorem bindScripts_eq_ok_iff {refs : List String} {scripts : List Script} :
    bindScripts refs = .ok scripts ↔
      (∀ r ∈ refs, IsReference r) ∧ (refs.map symbolOf).Nodup ∧
        scripts = refs.map Script.named := by
  simp [bindScripts, bindFrom_eq_ok_iff]

/-- References that can be imported together: all of them are valid, and
    different ones have different names.  Neither their order nor their
    repetitions matter. -/
structure Importable (refs : List String) : Prop where
  valid : ∀ r ∈ refs, IsReference r
  distinct : ∀ r ∈ refs, ∀ r' ∈ refs, r ≠ r' → symbolOf r ≠ symbolOf r'

theorem Importable.mono {refs refs' : List String} (h : Importable refs)
    (hsub : ∀ r ∈ refs', r ∈ refs) : Importable refs' :=
  ⟨fun r hr => h.valid r (hsub r hr),
    fun r hr r' hr' => h.distinct r (hsub r hr) r' (hsub r' hr')⟩

theorem Importable.eq_of_symbolOf_eq {refs : List String} (h : Importable refs) {r r' : String}
    (hr : r ∈ refs) (hr' : r' ∈ refs) (he : symbolOf r = symbolOf r') : r = r' := by
  by_contra hne
  exact h.distinct r hr r' hr' hne he

/-- One more reference can be imported with others iff it is valid and no other of them
    has its name. -/
theorem Importable.insert_iff {refs refs' : List String} (h : Importable refs) {reference : String}
    (hmem : ∀ r, r ∈ refs' ↔ r ∈ refs ∨ r = reference) :
    Importable refs' ↔ IsReference reference ∧
      ∀ r ∈ refs, r ≠ reference → symbolOf r ≠ symbolOf reference := by
  have hself : reference ∈ refs' := (hmem reference).2 (Or.inr rfl)
  constructor
  · intro h'
    refine ⟨h'.valid reference hself, fun r hr hne => ?_⟩
    exact h'.distinct r ((hmem r).2 (Or.inl hr)) reference hself hne
  · rintro ⟨hvalid, hfree⟩
    constructor
    · intro r hr
      rcases (hmem r).1 hr with hr | rfl
      · exact h.valid r hr
      · exact hvalid
    · intro r hr r' hr' hne
      rcases (hmem r).1 hr with hr | rfl <;> rcases (hmem r').1 hr' with hr' | rfl
      · exact h.distinct r hr r' hr' hne
      · exact hfree r hr hne
      · exact (hfree r' hr' hne.symm).symm
      · exact absurd rfl hne

/-- Importable references of one module path are equal. -/
theorem Importable.eq_of_modulePathOf_eq {refs : List String} (h : Importable refs)
    {r r' : String} (hr : r ∈ refs) (hr' : r' ∈ refs) (he : modulePathOf r = modulePathOf r') :
    r = r' :=
  h.eq_of_symbolOf_eq hr hr' (symbolOf_congr he)

theorem Importable.nodup_symbols {refs : List String} (h : Importable refs) :
    (refs.eraseDups.map symbolOf).Nodup := by
  refine (nodup_eraseDups refs).map_on fun r hr r' hr' he => ?_
  exact h.eq_of_symbolOf_eq (List.mem_eraseDups.1 hr) (List.mem_eraseDups.1 hr') he

/-- **The distinct references of a list are bound iff the list is importable.** -/
theorem bindScripts_eraseDups_eq_ok_iff {refs : List String} {scripts : List Script} :
    bindScripts refs.eraseDups = .ok scripts ↔
      Importable refs ∧ scripts = refs.eraseDups.map Script.named := by
  rw [bindScripts_eq_ok_iff, ← and_assoc]
  refine and_congr_left fun _ => ⟨fun ⟨hvalid, hnodup⟩ => ⟨?_, ?_⟩, fun h => ⟨?_, ?_⟩⟩
  · exact fun r hr => hvalid r (List.mem_eraseDups.2 hr)
  · exact fun r hr r' hr' hne he => hne (List.inj_on_of_nodup_map hnodup
      (List.mem_eraseDups.2 hr) (List.mem_eraseDups.2 hr') he)
  · exact fun r hr => h.valid r (List.mem_eraseDups.1 hr)
  · exact h.nodup_symbols

end SpriteScene
