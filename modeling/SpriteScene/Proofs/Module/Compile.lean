/-
  When a scene compiles, and to what.

  * `Scene.moduleLines` are the lines of the module of a scene, and
    `Scene.compile_eq_ok_iff`: a scene compiles iff its references are
    importable, and then to these lines;
  * `Scene.exists_compile_iff` says this without the lines: which sets of
    references compile, and that no block of an object fails once the
    references are bound.
-/
import SpriteScene.Module.Compile
import SpriteScene.Proofs.Script.Bindings

namespace SpriteScene

/-! ## Blocks -/

/-- The statements of an object at a place of the scene. -/
def SceneObject.codeLines (index : Nat) (o : SceneObject) : List String :=
  o.blockLines index (o.scripts.map Script.named)

theorem SceneObject.codeLines_ne_nil (index : Nat) (o : SceneObject) : o.codeLines index ≠ [] := by
  simp [codeLines, blockLines]

theorem SceneObject.codeLines_eq_of_empty {index : Nat} {o : SceneObject} (h : o.scripts = []) :
    o.codeLines index = [o.creationLine index, o.nameLine index] := by
  simp [codeLines, blockLines, h]

theorem SceneObject.codeLines_eq_of_nonempty {index : Nat} {o : SceneObject} (h : o.scripts ≠ []) :
    o.codeLines index = [o.creationLine index, o.nameLine index,
      scriptsLine index (o.scripts.map Script.named)] := by
  simp [codeLines, blockLines, h]

/-- An object has a block iff its references are valid. -/
theorem SceneObject.block_eq_ok_iff {index : Nat} {o : SceneObject} {text : String} :
    o.block index = .ok text ↔
      (∀ r ∈ o.scripts, IsReference r) ∧ text = unlines (o.codeLines index) := by
  unfold block
  simp only [bind_eq_ok_iff, mapM_eq_ok_iff fun _ _ => scriptOf_eq_ok_iff, pure, Except.pure,
    Except.ok.injEq]
  constructor
  · rintro ⟨_, ⟨hvalid, rfl⟩, rfl⟩
    exact ⟨hvalid, rfl⟩
  · rintro ⟨hvalid, rfl⟩
    exact ⟨_, ⟨hvalid, rfl⟩, rfl⟩

/-- The statements of objects, block by block; the first object has the place
    `index`. -/
def blockLinesFrom (index : Nat) (os : List SceneObject) : List (List String) :=
  (os.zipIdx index).map fun (o, i) => o.codeLines i

theorem blockLinesFrom_cons (index : Nat) (o : SceneObject) (os : List SceneObject) :
    blockLinesFrom index (o :: os) = o.codeLines index :: blockLinesFrom (index + 1) os := rfl

theorem blockLinesFrom_append (index : Nat) (os later : List SceneObject) :
    blockLinesFrom index (os ++ later) =
      blockLinesFrom index os ++ blockLinesFrom (index + os.length) later := by
  rw [blockLinesFrom, List.zipIdx_append, List.map_append]
  rfl

theorem getElem?_blockLinesFrom (index : Nat) (os : List SceneObject) (i : Nat) :
    (blockLinesFrom index os)[i]? = os[i]?.map (SceneObject.codeLines (index + i)) := by
  rw [blockLinesFrom, List.getElem?_map, List.getElem?_zipIdx, Option.map_map]
  rfl

theorem ne_nil_of_mem_blockLinesFrom {index : Nat} {os : List SceneObject} {b : List String}
    (h : b ∈ blockLinesFrom index os) : b ≠ [] := by
  obtain ⟨⟨o, i⟩, -, rfl⟩ := List.mem_map.1 h
  exact o.codeLines_ne_nil i

theorem blocksFrom_eq_ok_iff {os : List SceneObject} :
    ∀ {index : Nat} {blocks : List String}, blocksFrom index os = .ok blocks ↔
      (∀ o ∈ os, ∀ r ∈ o.scripts, IsReference r) ∧
        blocks = (blockLinesFrom index os).map unlines := by
  induction os with
  | nil => simp [blocksFrom, blockLinesFrom, eq_comm]
  | cons o os ih =>
    intro index blocks
    simp only [blocksFrom, bind_eq_ok_iff, SceneObject.block_eq_ok_iff, ih, pure, Except.pure,
      Except.ok.injEq, List.forall_mem_cons, blockLinesFrom_cons, List.map_cons]
    constructor
    · rintro ⟨_, ⟨ho, rfl⟩, _, ⟨hos, rfl⟩, rfl⟩
      exact ⟨⟨ho, hos⟩, rfl⟩
    · rintro ⟨⟨ho, hos⟩, rfl⟩
      exact ⟨_, ⟨ho, rfl⟩, _, ⟨hos, rfl⟩, rfl⟩

/-! ## The module -/

namespace Frame

theorem orBlank_nil : orBlank [] = [""] := rfl

theorem orBlank_of_ne_nil {parts : List String} (h : parts ≠ []) : orBlank parts = parts := by
  rw [orBlank, if_neg (by simpa using h)]

theorem orBlank_ne_nil (parts : List String) : orBlank parts ≠ [] := by
  rcases eq_or_ne parts [] with rfl | h
  · rw [orBlank_nil]
    exact List.cons_ne_nil _ _
  · rwa [orBlank_of_ne_nil h]

/-- A frame filled with blocks is filled with their lines. -/
theorem fill_map_unlines (imports : List String) {blocks : List (List String)}
    (h : ∀ b ∈ blocks, b ≠ []) :
    fill imports (blocks.map unlines) =
      unlines (opening ++ orBlank imports ++ head ++ orBlank blocks.flatten ++ tail) := by
  have hbody : unlines (orBlank (blocks.map unlines)) = unlines (orBlank blocks.flatten) := by
    rcases blocks with _ | ⟨b, blocks⟩
    · rfl
    · have hne : (b :: blocks).flatten ≠ [] := by simp [h b List.mem_cons_self]
      rw [orBlank_of_ne_nil hne, orBlank_of_ne_nil (by simp), unlines_map_unlines h]
  have hfront : opening ++ orBlank imports ++ head ≠ [] := by simp [head]
  have htail : tail ≠ [] := by simp [tail]
  simp only [fill]
  rw [unlines_append (by simp [head]) htail, unlines_append hfront (orBlank_ne_nil _), hbody,
    ← unlines_append hfront (orBlank_ne_nil _), ← unlines_append (by simp [head]) htail]

end Frame

namespace Scene

/-- The statements that import the scripts of a scene. -/
def importLines (s : Scene) : List String :=
  s.distinctReferences.map fun r => (Script.named r).importLine

/-- The statements of the objects of a scene. -/
def bodyLines (s : Scene) : List String := (blockLinesFrom 0 s.objects).flatten

/-- The lines of the module of a scene. -/
def moduleLines (s : Scene) : List String :=
  Frame.opening ++ Frame.orBlank s.importLines ++ Frame.head ++ Frame.orBlank s.bodyLines ++
    Frame.tail

theorem mem_references {s : Scene} {r : String} :
    r ∈ s.references ↔ ∃ o ∈ s.objects, r ∈ o.scripts := by
  simp [references]

/-- If the references of a scene are importable, those of each object are valid. -/
theorem isReference_of_mem_scripts {s : Scene} (h : Importable s.references) :
    ∀ o ∈ s.objects, ∀ r ∈ o.scripts, IsReference r :=
  fun o ho r hr => h.valid r (mem_references.2 ⟨o, ho, hr⟩)

/-- **A scene compiles iff its references are importable**, and then to the
    lines of its module. -/
theorem compile_eq_ok_iff {s : Scene} {code : String} :
    s.compile = .ok code ↔ Importable s.references ∧ code = unlines s.moduleLines := by
  have hfill : Frame.fill s.importLines ((blockLinesFrom 0 s.objects).map unlines) =
      unlines s.moduleLines :=
    Frame.fill_map_unlines _ fun _ => ne_nil_of_mem_blockLinesFrom
  have himports : (s.references.eraseDups.map Script.named).map Script.importLine =
      s.importLines := by
    simp [importLines, distinctReferences]
  simp only [compile, distinctReferences, bind_eq_ok_iff, bindScripts_eraseDups_eq_ok_iff,
    blocksFrom_eq_ok_iff, pure, Except.pure, Except.ok.injEq]
  constructor
  · rintro ⟨_, ⟨himp, rfl⟩, _, ⟨-, rfl⟩, rfl⟩
    exact ⟨himp, by rw [himports, hfill]⟩
  · rintro ⟨himp, rfl⟩
    exact ⟨_, ⟨himp, rfl⟩, _, ⟨isReference_of_mem_scripts himp, rfl⟩, by rw [himports, hfill]⟩

theorem exists_compile_iff_importable {s : Scene} :
    (∃ code, s.compile = .ok code) ↔ Importable s.references := by
  simp [compile_eq_ok_iff]

/-- **When a scene compiles.**  A scene compiles iff a script can be derived
    from every reference in it and different references have scripts of
    different names.  So a scene with some of the references of another
    compiles if that one does, and scenes of the same references compile alike;
    and once the distinct references are bound, no object fails to have a
    block at any place. -/
theorem exists_compile_iff (s : Scene) :
    ((∃ code, s.compile = .ok code) ↔
      (∀ o ∈ s.objects, ∀ r ∈ o.scripts, ∃ script, Script.ofReference r = .ok script) ∧
      (∀ o ∈ s.objects, ∀ r ∈ o.scripts, ∀ o' ∈ s.objects, ∀ r' ∈ o'.scripts, r ≠ r' →
        ∀ script script', Script.ofReference r = .ok script →
          Script.ofReference r' = .ok script' → script.symbol ≠ script'.symbol)) ∧
    (∀ t : Scene, (∀ r ∈ t.references, r ∈ s.references) →
      (∃ code, s.compile = .ok code) → ∃ code, t.compile = .ok code) ∧
    (∀ t : Scene, (∀ r, r ∈ t.references ↔ r ∈ s.references) →
      ((∃ code, t.compile = .ok code) ↔ ∃ code, s.compile = .ok code)) ∧
    (∀ scripts, bindScripts s.distinctReferences = .ok scripts →
      ∀ o ∈ s.objects, ∀ index, ∃ text, o.block index = .ok text) := by
  simp only [exists_compile_iff_importable]
  refine ⟨⟨fun h => ⟨?_, ?_⟩, fun ⟨hvalid, hdistinct⟩ => ⟨?_, ?_⟩⟩, ?_, ?_, ?_⟩
  · exact fun o ho r hr => h.valid r (mem_references.2 ⟨o, ho, hr⟩)
  · intro o ho r hr o' ho' r' hr' hne script script' hs hs'
    rw [(ofReference_eq_ok_iff.1 hs).2, (ofReference_eq_ok_iff.1 hs').2]
    exact h.distinct r (mem_references.2 ⟨o, ho, hr⟩) r' (mem_references.2 ⟨o', ho', hr'⟩) hne
  · intro r hr
    obtain ⟨o, ho, hr⟩ := mem_references.1 hr
    exact hvalid o ho r hr
  · intro r hr r' hr' hne
    obtain ⟨o, ho, hr⟩ := mem_references.1 hr
    obtain ⟨o', ho', hr'⟩ := mem_references.1 hr'
    exact hdistinct o ho r hr o' ho' r' hr' hne _ _
      (ofReference_eq_ok_iff.2 ⟨hvalid o ho r hr, rfl⟩)
      (ofReference_eq_ok_iff.2 ⟨hvalid o' ho' r' hr', rfl⟩)
  · exact fun t hsub h => h.mono hsub
  · exact fun t hmem => ⟨fun h => h.mono fun r => (hmem r).2, fun h => h.mono fun r => (hmem r).1⟩
  · intro scripts hbind o ho index
    obtain ⟨himp, -⟩ := bindScripts_eraseDups_eq_ok_iff.1 hbind
    exact ⟨_, SceneObject.block_eq_ok_iff.2
      ⟨fun r hr => himp.valid r (mem_references.2 ⟨o, ho, hr⟩), rfl⟩⟩

end Scene

end SpriteScene
