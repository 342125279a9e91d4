/-
  References that are different.

  * `Scene.distinctReferences_eq_iff` and `Scene.distinctReferences_append`: a scene lists
    its references once, where they occur first, and objects behind those of a scene only
    add to its list;
  * `isReference_modulePathOf`: a module path is itself a reference, with and without the
    suffix, to the module that it is the path of;
  * `modulePathOf_eq_iff`: different references have one module path iff the suffix is all
    they differ by, and then they are not bound together
    (`exists_fault_of_modulePathOf_eq`).
-/
import SpriteScene.Proofs.Script.Bindings
import SpriteScene.Proofs.Script.Grammar

namespace SpriteScene

/-! ## The references of a scene -/

namespace Scene

/-- The references of a scene are listed without repetitions, in the order of their first
    occurrences, and no other list is. -/
theorem distinctReferences_eq_iff {s : Scene} {refs : List String} :
    refs = s.distinctReferences ↔ refs.Nodup ∧ (∀ r, r ∈ refs ↔ ∃ o ∈ s.objects, r ∈ o.scripts) ∧
      refs.Pairwise fun r r' => s.references.idxOf r < s.references.idxOf r' := by
  rw [distinctReferences, eq_eraseDups_iff]
  simp only [references, List.mem_flatMap]

theorem distinctReferences_append (s : Scene) (later : List SceneObject) :
    { s with objects := s.objects ++ later }.distinctReferences = s.distinctReferences ++
      { s with objects := later }.distinctReferences.filter (· ∉ s.references) := by
  rw [distinctReferences, distinctReferences, distinctReferences, references, List.flatMap_append,
    eraseDups_append_eq]
  rfl

/-- **The references of a scene, each once.**  The list has no repetitions, holds the
    references that are attached to some object, and has them in the order in which they
    are first attached, going through the objects and through the scripts of each; this
    makes it the only such list.  For objects behind those of a scene, the list goes on
    with what is new in the list of these objects. -/
theorem distinctReferences_stable (s : Scene) (later : List SceneObject) :
    (∀ refs : List String, refs = s.distinctReferences ↔
      refs.Nodup ∧ (∀ r, r ∈ refs ↔ ∃ o ∈ s.objects, r ∈ o.scripts) ∧
      refs.Pairwise fun r r' => (s.objects.flatMap (·.scripts)).idxOf r <
        (s.objects.flatMap (·.scripts)).idxOf r') ∧
    { s with objects := s.objects ++ later }.distinctReferences = s.distinctReferences ++
      { s with objects := later }.distinctReferences.filter
        (fun r => ∀ o ∈ s.objects, r ∉ o.scripts) := by
  refine ⟨fun refs => distinctReferences_eq_iff, ?_⟩
  rw [distinctReferences_append]
  simp [references]

end Scene

/-! ## Module paths -/

/-- A module path has no suffix that could be taken off. -/
theorem modulePathOf_ne_append {r : String} (h : IsReference r) (front : String) :
    modulePathOf r ≠ front ++ ".ts" := by
  intro heq
  obtain ⟨directories, hpath⟩ := exists_isModulePath h
  have hdrop := hpath.dropScriptSuffix_eq
  rw [heq, String.toList_append] at hdrop
  have hfront : front.toList = front.toList ++ scriptSuffix :=
    (dropScriptSuffix_append front.toList).symm.trans hdrop
  exact absurd (List.self_eq_append_right.1 hfront) (by decide)

/-- A reference that stays one with the suffix behind it is a module path, so both are to one
    module. -/
theorem modulePathOf_eq_of_append {r : String} (h : IsReference (r ++ ".ts")) :
    modulePathOf (r ++ ".ts") = modulePathOf r := by
  have hcut : modulePathOf (r ++ ".ts") = r := by
    rw [← String.toList_inj, modulePathOf, String.toList_ofList, String.toList_append]
    exact dropScriptSuffix_append r.toList
  rcases eq_modulePathOf r with heq | heq
  · exact hcut.trans heq
  · exact absurd (hcut.trans heq) (modulePathOf_ne_append h _)

section
variable {r r' : String} (h : IsReference r)

include h

/-- A module path is a reference to its module, and so it is with the suffix. -/
theorem isReference_modulePathOf (hr' : r' = modulePathOf r ∨ r' = modulePathOf r ++ ".ts") :
    IsReference r' ∧ modulePathOf r' = modulePathOf r ∧ symbolOf r' = symbolOf r := by
  obtain ⟨directories, hpath⟩ := exists_isModulePath h
  exact hpath.isReference hr'

/-- The references to a module. -/
theorem isReference_and_modulePathOf_eq_iff :
    IsReference r' ∧ modulePathOf r' = modulePathOf r ↔
      r' = modulePathOf r ∨ r' = modulePathOf r ++ ".ts" := by
  constructor
  · rintro ⟨-, heq⟩
    rw [← heq]
    exact eq_modulePathOf r'
  · intro hr'
    obtain ⟨hvalid, hpath, -⟩ := isReference_modulePathOf h hr'
    exact ⟨hvalid, hpath⟩

/-- **Different references of one module** differ by the suffix. -/
theorem modulePathOf_eq_iff (h' : IsReference r') (hne : r ≠ r') :
    modulePathOf r' = modulePathOf r ↔ r' = r ++ ".ts" ∨ r = r' ++ ".ts" := by
  constructor
  · intro heq
    have hr := eq_modulePathOf r
    have hr' := eq_modulePathOf r'
    rw [heq] at hr'
    rcases hr with hr | hr <;> rcases hr' with hr' | hr'
    · exact absurd (hr.trans hr'.symm) hne
    · exact Or.inl (hr'.trans (congrArg (· ++ ".ts") hr.symm))
    · exact Or.inr (hr.trans (congrArg (· ++ ".ts") hr'.symm))
    · exact absurd (hr.trans hr'.symm) hne
  · rintro (rfl | rfl)
    · exact modulePathOf_eq_of_append h'
    · exact (modulePathOf_eq_of_append h).symm

end

/-- Different references of one module are not bound together. -/
theorem exists_fault_of_modulePathOf_eq {refs : List String} {r r' : String} (hr : r ∈ refs)
    (hr' : r' ∈ refs) (hne : r ≠ r') (heq : modulePathOf r' = modulePathOf r) :
    ∃ fault, bindScripts refs = .error fault := by
  cases hbind : bindScripts refs with
  | error fault => exact ⟨fault, rfl⟩
  | ok scripts =>
    obtain ⟨-, hnodup, -⟩ := bindScripts_eq_ok_iff.1 hbind
    exact absurd (List.inj_on_of_nodup_map hnodup hr hr' (symbolOf_congr heq.symm)) hne

namespace Script

/-- **Module paths are normal forms.**  The module path of a script has no suffix.  It is
    itself a reference, with and without one, and from both the same is imported; no other
    reference is to that module.  So different references are to one module if and only if
    the suffix is all they differ by, and a list that holds both is refused. -/
theorem modulePath_normal_form {r : String} {script : Script} (h : ofReference r = .ok script) :
    (∀ front, script.modulePath ≠ front ++ ".ts") ∧
    (∀ r' ∈ [script.modulePath, script.modulePath ++ ".ts"], ∃ other,
      ofReference r' = .ok other ∧ other.modulePath = script.modulePath ∧
        other.symbol = script.symbol ∧ other.importLine = script.importLine) ∧
    (∀ r', (∃ other, ofReference r' = .ok other ∧ other.modulePath = script.modulePath) ↔
      r' = script.modulePath ∨ r' = script.modulePath ++ ".ts") ∧
    ∀ r' other, ofReference r' = .ok other → r ≠ r' →
      (other.modulePath = script.modulePath ↔ r' = r ++ ".ts" ∨ r = r' ++ ".ts") ∧
      (other.modulePath = script.modulePath →
        ∀ refs, r ∈ refs → r' ∈ refs → ∃ fault, bindScripts refs = .error fault) := by
  obtain ⟨hr, rfl⟩ := ofReference_eq_ok_iff.1 h
  simp only [named_modulePath, named_symbol]
  refine ⟨modulePathOf_ne_append hr, fun r' hr' => ?_, fun r' => ?_, fun r' other h' hne => ?_⟩
  · obtain ⟨hvalid, hpath, hsymbol⟩ := isReference_modulePathOf hr (by simpa using hr')
    refine ⟨named r', ofReference_eq_ok_iff.2 ⟨hvalid, rfl⟩, hpath, hsymbol, ?_⟩
    rw [importLine, importLine, named_symbol, named_symbol, named_modulePath, named_modulePath,
      hpath, hsymbol]
  · rw [← isReference_and_modulePathOf_eq_iff hr]
    simp only [ofReference_eq_ok_iff]
    constructor
    · rintro ⟨_, ⟨hvalid, rfl⟩, hpath⟩
      exact ⟨hvalid, hpath⟩
    · rintro ⟨hvalid, hpath⟩
      exact ⟨_, ⟨hvalid, rfl⟩, hpath⟩
  · obtain ⟨hr', rfl⟩ := ofReference_eq_ok_iff.1 h'
    refine ⟨modulePathOf_eq_iff hr hr' hne, fun heq refs hmem hmem' => ?_⟩
    exact exists_fault_of_modulePathOf_eq hmem hmem' hne heq

/-- A directory may end in the suffix; only the name may not. -/
theorem modulePath_normal_form_suffixedDirectory :
    let script : Script := ⟨"lib.ts/Walk.ts", "Walk", "lib.ts/Walk"⟩
    ofReference "lib.ts/Walk.ts" = .ok script ∧
      (∀ front, "lib.ts/Walk" ≠ front ++ ".ts") ∧
      ofReference "lib.ts/Walk" = .ok ⟨"lib.ts/Walk", "Walk", "lib.ts/Walk"⟩ ∧
      (∀ r', (∃ other, ofReference r' = .ok other ∧ other.modulePath = "lib.ts/Walk") ↔
        r' = "lib.ts/Walk" ∨ r' = "lib.ts/Walk.ts") ∧
      ∃ fault, bindScripts ["Jump", "lib.ts/Walk.ts", "Walk?", "lib.ts/Walk"] = .error fault := by
  intro script
  have h : ofReference "lib.ts/Walk.ts" = .ok script := by decide
  have h' : ofReference "lib.ts/Walk" = .ok ⟨"lib.ts/Walk", "Walk", "lib.ts/Walk"⟩ := by decide
  obtain ⟨hsuffix, -, hreferences, hdifferent⟩ := modulePath_normal_form h
  refine ⟨h, hsuffix, h', hreferences, ?_⟩
  exact (hdifferent _ _ h' (by decide)).2 rfl _ (by simp) (by simp)

end Script

end SpriteScene
