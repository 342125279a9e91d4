/-
  Objects that are appended to a scene.

  * `bindFrom_append`: references are bound from the first to the last, so more of
    them behind change nothing about those before;
  * `Scene.compile_eq_error_iff`: the fault of a scene is the one of its references;
  * `Scene.compile_append`: objects behind those of a scene neither mend nor change its
    fault, and the imports and blocks of a scene that compiles stay at the front.
-/
import SpriteScene.Proofs.Module.Parts

namespace SpriteScene

/-! ## References -/

/-- **Binding goes from the first reference to the last.** -/
theorem bindFrom_append (bound : List Script) (refs more : List String) :
    bindFrom bound (refs ++ more) = do
      let scripts ← bindFrom bound refs
      let others ← bindFrom (scripts.reverse ++ bound) more
      return scripts ++ others := by
  induction refs generalizing bound with
  | nil =>
    show bindFrom bound more = (bindFrom bound more >>= pure)
    rw [bind_pure]
  | cons r refs ih =>
    rw [List.cons_append, bindFrom, bindFrom]
    cases scriptOf r with
    | error fault => rfl
    | ok script =>
      simp only [bind, Except.bind]
      cases bound.find? (·.symbol = script.symbol) with
      | some first => rfl
      | none =>
        dsimp only
        rw [ih]
        cases bindFrom (script :: bound) refs with
        | error fault => rfl
        | ok scripts =>
          simp only [bind, Except.bind, pure, Except.pure, List.reverse_cons, List.append_assoc,
            List.singleton_append]
          cases bindFrom (scripts.reverse ++ script :: bound) more <;> rfl

/-- A fault is the first one, whatever follows. -/
theorem bindFrom_append_of_error {bound : List Script} {refs : List String} {fault : CompileFault}
    (h : bindFrom bound refs = .error fault) (more : List String) :
    bindFrom bound (refs ++ more) = .error fault := by
  rw [bindFrom_append, h]
  rfl

/-! ## Objects -/

namespace Scene

variable {s : Scene} {fault : CompileFault}

/-- **A scene has the fault of its references**: once they are bound, no block fails. -/
theorem compile_eq_error_iff :
    s.compile = .error fault ↔ bindScripts s.distinctReferences = .error fault := by
  rw [compile]
  cases hbind : bindScripts s.distinctReferences with
  | error fault' => simp [bind, Except.bind]
  | ok scripts =>
    obtain ⟨himp, -⟩ := bindScripts_eraseDups_eq_ok_iff.1 hbind
    have hblocks : blocksFrom 0 s.objects = .ok ((blockLinesFrom 0 s.objects).map unlines) :=
      blocksFrom_eq_ok_iff.2 ⟨isReference_of_mem_scripts himp, rfl⟩
    simp [hblocks, bind, Except.bind, pure, Except.pure]

/-- **What appended objects do to a module.**  If a scene has a fault, it has the same one
    with more objects behind.  If it compiles with them, it does so without them; its
    script imports are the first of the longer module, and the blocks of its objects,
    which are the ones that were put in, are the first inside `create`. -/
theorem compile_append (s : Scene) (later : List SceneObject) :
    let extended := { s with objects := s.objects ++ later }
    (∀ fault, s.compile = .error fault → extended.compile = .error fault) ∧
    ∀ code', extended.compile = .ok code' → ∃ code, s.compile = .ok code ∧
      scriptImportLines code <+: scriptImportLines code' ∧
      objectBlocks code <+: objectBlocks code' ∧
      blocksFrom 0 s.objects = .ok ((objectBlocks code).map unlines) := by
  intro extended
  have hreferences : s.references <+: extended.references := by
    rw [references, references, List.flatMap_append]
    exact List.prefix_append _ _
  have hdistinct : s.distinctReferences <+: extended.distinctReferences :=
    prefix_eraseDups hreferences
  constructor
  · intro fault hfault
    rw [compile_eq_error_iff] at hfault ⊢
    obtain ⟨more, hmore⟩ := hdistinct
    rw [← hmore]
    exact bindFrom_append_of_error hfault more
  · intro code' hcode'
    have himp : Importable s.references := by
      refine (exists_compile_iff_importable.1 ⟨code', hcode'⟩).mono fun r hr => ?_
      exact hreferences.mem hr
    obtain ⟨code, hcode⟩ := exists_compile_iff_importable.2 himp
    refine ⟨code, hcode, ?_, ?_, ?_⟩
    · rw [scriptImportLines_compile hcode, scriptImportLines_compile hcode']
      exact hdistinct.map _
    · rw [objectBlocks_compile hcode, objectBlocks_compile hcode', blockLinesFrom_append]
      exact List.prefix_append _ _
    · rw [objectBlocks_compile hcode, blocksFrom_eq_ok_iff]
      exact ⟨isReference_of_mem_scripts himp, rfl⟩

-- the other way round nothing is promised: an appended object may bring a fault
example : ({ hostileScene with
    objects := hostileScene.objects ++ [⟨2, "", .origin, ["Walk"]⟩] } : Scene).compile =
    .error (.symbolCollision "Walk" "ai/Walk.ts" "Walk") := by decide

end Scene

end SpriteScene
