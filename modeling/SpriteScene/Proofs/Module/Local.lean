/-
  What an edit changes in the module of a scene.

  * `Scene.compile_eq_of_objects_eq`: nothing, if it leaves the objects alone;
  * `Scene.compile_moveObject`: the line that creates the sprite, if it moves an object;
  * `Scene.exists_compile_attachScript_iff` and `Scene.parts_of_attachScript`: with one
    more script the scene compiles unless the script or its name is refused, and then
    the block of the object and the set of imports grow by that script;
  * `Scene.compile_edit` puts these together.
-/
import SpriteScene.Proofs.Module.Parts
import SpriteScene.Proofs.Scene.Tidy

namespace SpriteScene

/-! ## One object -/

/-- The blocks of objects before, at and behind a place. -/
theorem blockLinesFrom_place (before after : List SceneObject) (o : SceneObject) :
    blockLinesFrom 0 (before ++ o :: after) = blockLinesFrom 0 before ++
      o.codeLines before.length :: blockLinesFrom (before.length + 1) after := by
  rw [blockLinesFrom_append, blockLinesFrom_cons, Nat.zero_add]

/-- The statement that attaches scripts, with one more of them. -/
theorem SceneObject.scriptsLine_concat (index : Nat) {scripts : List Script} (h : scripts ≠ [])
    (script : Script) : ∃ list, scriptsLine index scripts = list ++ "];" ∧
      scriptsLine index (scripts ++ [script]) = list ++ ", new " ++ script.symbol ++ "()];" := by
  refine ⟨_, rfl, ?_⟩
  rw [scriptsLine, List.map_append, String.intercalate_append_of_ne_nil (by simpa using h) (by simp)]
  simp only [List.map_cons, List.map_nil, String.intercalate_singleton, Script.construction,
    String.append_assoc]
  rfl

namespace Scene

variable {s s' : Scene} {code code' : String} {id : UInt64}

/-! ## The object of an id -/

/-- The place of the first object of an id. -/
def place? (s : Scene) (id : UInt64) : Option Nat := s.objects.findIdx? (·.id = id)

/-- An edit by id changes the object at the place of the id, and leaves those before it
    and behind it. -/
theorem exists_place_of_modifyObject {f : SceneObject → SceneObject}
    (h : s.modifyObject id f = (.ok (), s')) : ∃ before o after, s.place? id = some before.length ∧
      s.objects = before ++ o :: after ∧ s' = { s with objects := before ++ f o :: after } := by
  obtain ⟨before, o, after, hobjects, hbefore, ho, hs'⟩ := modifyObject_eq_ok_iff.1 h
  refine ⟨before, o, after, ?_, hobjects, hs'⟩
  have hnone : before.findIdx? (·.id = id) = none := by simpa using hbefore
  rw [place?, hobjects, List.findIdx?_append, hnone, List.findIdx?_cons, if_pos (by simpa using ho)]
  simp

/-- The lines of a module before, at and behind the block at a place. -/
theorem moduleLines_place {before after : List SceneObject} {o : SceneObject}
    (hobjects : s.objects = before ++ o :: after) : s.moduleLines =
      (Frame.opening ++ Frame.orBlank s.importLines ++ Frame.head ++
        (blockLinesFrom 0 before).flatten) ++ o.codeLines before.length ++
      ((blockLinesFrom (before.length + 1) after).flatten ++ Frame.tail) := by
  have hbody : s.bodyLines = (blockLinesFrom 0 before).flatten ++ o.codeLines before.length ++
      (blockLinesFrom (before.length + 1) after).flatten := by
    rw [bodyLines, hobjects, blockLinesFrom_place]
    simp
  have hne : s.bodyLines ≠ [] := by
    rw [hbody]
    simp [o.codeLines_ne_nil]
  rw [moduleLines, Frame.orBlank_of_ne_nil hne, hbody]
  simp only [List.append_assoc]

/-! ## Moving -/

/-- Only the objects of a scene are compiled. -/
theorem compile_eq_of_objects_eq (h : s'.objects = s.objects) : s'.compile = s.compile := by
  rw [compile, compile, distinctReferences, distinctReferences, references, references, h]

/-- **A move changes the line that creates the sprite**, and no other. -/
theorem compile_moveObject (h : s.compile = .ok code) {p : Position}
    (hmove : s.moveObject id p = (.ok (), s')) : ∃ i o code' front rest,
      s.place? id = some i ∧ s.objects[i]? = some o ∧ s'.compile = .ok code' ∧
      rawLines code = front ++ o.creationLine i :: rest ∧
      rawLines code' = front ++ { o with position := p }.creationLine i :: rest := by
  obtain ⟨before, o, after, hplace, hobjects, hs'⟩ := exists_place_of_modifyObject hmove
  have hobjects' : s'.objects = before ++ { o with position := p } :: after := by rw [hs']
  have hreferences : s'.references = s.references := by
    simp [references, hobjects, hobjects']
  have himports : s'.importLines = s.importLines := by
    rw [importLines, distinctReferences, hreferences]
    rfl
  obtain ⟨code', hcode'⟩ : ∃ code', s'.compile = .ok code' := by
    rw [exists_compile_iff_importable, hreferences]
    exact exists_compile_iff_importable.1 ⟨code, h⟩
  -- the statements of the moved object are those of before but for the first
  let front := Frame.opening ++ Frame.orBlank s.importLines ++ Frame.head ++
    (blockLinesFrom 0 before).flatten
  let rest := (o.codeLines before.length).tail ++
    ((blockLinesFrom (before.length + 1) after).flatten ++ Frame.tail)
  refine ⟨before.length, o, code', front, rest, hplace, by simp [hobjects], hcode', ?_, ?_⟩
  · rw [rawLines_compile h, moduleLines_place hobjects, List.append_assoc]
    rfl
  · rw [rawLines_compile hcode', moduleLines_place hobjects', List.append_assoc, himports]
    rfl

/-! ## Attaching -/

theorem mem_importLines {l : String} :
    l ∈ s.importLines ↔ ∃ r ∈ s.references, (Script.named r).importLine = l := by
  simp [importLines, distinctReferences]

theorem mem_importLines_attachScript {reference : String}
    (hattach : s.attachScript id reference = (.ok (), s')) (l : String) :
    l ∈ s'.importLines ↔ l ∈ s.importLines ∨ l = (Script.named reference).importLine := by
  have hmem := mem_references_attachScript hattach
  rw [mem_importLines, mem_importLines]
  constructor
  · rintro ⟨r, hr, rfl⟩
    rcases (hmem r).1 hr with hr | rfl
    · exact Or.inl ⟨r, hr, rfl⟩
    · exact Or.inr rfl
  · rintro (⟨r, hr, rfl⟩ | rfl)
    · exact ⟨r, (hmem r).2 (Or.inl hr), rfl⟩
    · exact ⟨reference, (hmem reference).2 (Or.inr rfl), rfl⟩

/-- **When a scene with one more script compiles**: iff the reference has a script, under
    a name that no other reference has. -/
theorem exists_compile_attachScript_iff (h : s.compile = .ok code) {reference : String}
    (hattach : s.attachScript id reference = (.ok (), s')) :
    (∃ code', s'.compile = .ok code') ↔ ∃ script, Script.ofReference reference = .ok script ∧
      ∀ r ∈ s.references, r ≠ reference →
        ∀ script', Script.ofReference r = .ok script' → script'.symbol ≠ script.symbol := by
  have himp := (compile_eq_ok_iff.1 h).1
  rw [exists_compile_iff_importable, himp.insert_iff (mem_references_attachScript hattach)]
  constructor
  · rintro ⟨hvalid, hfree⟩
    refine ⟨Script.named reference, ofReference_eq_ok_iff.2 ⟨hvalid, rfl⟩, ?_⟩
    intro r hr hne script' hscript'
    rw [(ofReference_eq_ok_iff.1 hscript').2]
    exact hfree r hr hne
  · rintro ⟨script, hscript, hfree⟩
    obtain ⟨hvalid, rfl⟩ := ofReference_eq_ok_iff.1 hscript
    refine ⟨hvalid, fun r hr hne => ?_⟩
    exact hfree r hr hne _ (ofReference_eq_ok_iff.2 ⟨himp.valid r hr, rfl⟩)

/-- **What one more script changes**: the block of the object and the set of imports
    grow by the script.  The order of the imports may change, since the script may be
    one that only objects further behind had. -/
theorem parts_of_attachScript (h : s.compile = .ok code) {reference : String}
    (hattach : s.attachScript id reference = (.ok (), s')) (h' : s'.compile = .ok code') :
    ∃ script i o before block block' after, Script.ofReference reference = .ok script ∧
      s.place? id = some i ∧ s.objects[i]? = some o ∧
      (∀ l, l ∈ scriptImportLines code' ↔ l ∈ scriptImportLines code ∨ l = script.importLine) ∧
      before.length = i ∧ o.block i = .ok (unlines block) ∧
      objectBlocks code = before ++ block :: after ∧
      objectBlocks code' = before ++ block' :: after ∧
      (o.scripts = [] → block' = block ++ [SceneObject.scriptsLine i [script]]) ∧
      (o.scripts ≠ [] → ∃ list, block = [o.creationLine i, o.nameLine i, list ++ "];"] ∧
        block' =
          [o.creationLine i, o.nameLine i, list ++ ", new " ++ script.symbol ++ "()];"]) := by
  have href : IsReference reference :=
    (compile_eq_ok_iff.1 h').1.valid reference
      ((mem_references_attachScript hattach reference).2 (Or.inr rfl))
  obtain ⟨before, o, after, hplace, hobjects, hs'⟩ := exists_place_of_modifyObject hattach
  refine ⟨Script.named reference, before.length, o, blockLinesFrom 0 before,
    o.codeLines before.length,
    { o with scripts := o.scripts ++ [reference] }.codeLines before.length,
    blockLinesFrom (before.length + 1) after, ofReference_eq_ok_iff.2 ⟨href, rfl⟩, hplace, ?_⟩
  refine ⟨by simp [hobjects], fun l => ?_, ?_, ?_, ?_, ?_, fun hnil => ?_, fun hne => ?_⟩
  · rw [scriptImportLines_compile h, scriptImportLines_compile h']
    exact mem_importLines_attachScript hattach l
  · simp [blockLinesFrom]
  · have hvalid := isReference_of_mem_scripts (compile_eq_ok_iff.1 h).1
    exact SceneObject.block_eq_ok_iff.2 ⟨hvalid o (by simp [hobjects]), rfl⟩
  · rw [objectBlocks_compile h, hobjects, blockLinesFrom_place]
  · rw [objectBlocks_compile h', hs', blockLinesFrom_place]
  · rw [SceneObject.codeLines_eq_of_empty hnil, SceneObject.codeLines_eq_of_nonempty (by simp), hnil]
    rfl
  · have hscripts : o.scripts.map Script.named ≠ [] := by simpa using hne
    have hmap : (o.scripts ++ [reference]).map Script.named =
        o.scripts.map Script.named ++ [Script.named reference] := List.map_append
    obtain ⟨list, hlist, hlist'⟩ :=
      SceneObject.scriptsLine_concat before.length hscripts (Script.named reference)
    refine ⟨list, ?_, ?_⟩
    · rw [SceneObject.codeLines_eq_of_nonempty hne, hlist]
    · rw [SceneObject.codeLines_eq_of_nonempty (by simp), hmap, hlist']
      rfl

/-! ## All edits -/

/-- **What an edit changes in a module.**  Selecting an object and listing a script change
    nothing.  A move changes the line that creates the sprite of the first object of the
    id, and no other.  With one more script the scene compiles iff the reference has a
    script and no other reference of the scene has one of the same name; then the first
    object of the id makes one more instance at the end, all other blocks are as they
    were, and the imports are those of before and the one of the script. -/
theorem compile_edit (h : s.compile = .ok code) (id : UInt64) :
    (∀ s', s.select id = (.ok (), s') → s'.compile = .ok code) ∧
    (∀ reference, (s.addScript reference).compile = .ok code) ∧
    (∀ p s', s.moveObject id p = (.ok (), s') → ∃ i o code' front rest,
      s.place? id = some i ∧ s.objects[i]? = some o ∧ s'.compile = .ok code' ∧
      rawLines code = front ++ o.creationLine i :: rest ∧
      rawLines code' = front ++ { o with position := p }.creationLine i :: rest) ∧
    ∀ reference s', s.attachScript id reference = (.ok (), s') →
      ((∃ code', s'.compile = .ok code') ↔
        ∃ script, Script.ofReference reference = .ok script ∧
          ∀ r ∈ s.references, r ≠ reference →
            ∀ script', Script.ofReference r = .ok script' → script'.symbol ≠ script.symbol) ∧
      ∀ code', s'.compile = .ok code' → ∃ script i o before block block' after,
        Script.ofReference reference = .ok script ∧
        s.place? id = some i ∧ s.objects[i]? = some o ∧
        (∀ l, l ∈ scriptImportLines code' ↔
          l ∈ scriptImportLines code ∨ l = script.importLine) ∧
        before.length = i ∧ o.block i = .ok (unlines block) ∧
        objectBlocks code = before ++ block :: after ∧
        objectBlocks code' = before ++ block' :: after ∧
        (o.scripts = [] → block' = block ++ [SceneObject.scriptsLine i [script]]) ∧
        (o.scripts ≠ [] → ∃ list, block = [o.creationLine i, o.nameLine i, list ++ "];"] ∧
          block' =
            [o.creationLine i, o.nameLine i, list ++ ", new " ++ script.symbol ++ "()];"]) := by
  refine ⟨?_, ?_, fun p s' hmove => compile_moveObject h hmove, fun reference s' hattach => ?_⟩
  · intro s' hselect
    rw [(select_eq_ok_iff.1 hselect).2, ← h]
    exact compile_eq_of_objects_eq rfl
  · intro reference
    rw [← h]
    refine compile_eq_of_objects_eq ?_
    rw [addScript]
    split <;> rfl
  · exact ⟨exists_compile_attachScript_iff h hattach,
      fun code' h' => parts_of_attachScript h hattach h'⟩

end Scene

/-- In the hostile scene the second object of id 1 stays as it is, a second `Walk` is
    refused, and `Run` is imported although nothing lists it. -/
theorem compile_edit_hostileScene : ∃ code, hostileScene.compile = .ok code ∧
    (∀ s', hostileScene.moveObject 1 .origin = (.ok (), s') →
      ∃ code', s'.compile = .ok code' ∧ (rawLines code').length = (rawLines code).length) ∧
    (∀ s', hostileScene.attachScript 1 "Walk" = (.ok (), s') → ¬ ∃ code', s'.compile = .ok code') ∧
    ∃ s' code', hostileScene.attachScript 1 "Run.ts" = (.ok (), s') ∧ s'.compile = .ok code' ∧
      "import Run from './Run';" ∈ scriptImportLines code' := by
  obtain ⟨code, h⟩ : ∃ code, hostileScene.compile = .ok code := ⟨_, rfl⟩
  obtain ⟨-, -, hmove, hattach⟩ := Scene.compile_edit h 1
  refine ⟨code, h, fun s' hs' => ?_, fun s' hs' hcompiles => ?_, ?_⟩
  · obtain ⟨i, o, code', front, rest, -, -, hcode', hlines, hlines'⟩ := hmove _ s' hs'
    exact ⟨code', hcode', by simp [hlines, hlines']⟩
  · have hwalk : Script.ofReference "Walk" = .ok ⟨"Walk", "Walk", "Walk"⟩ := by decide
    have hother : Script.ofReference "ai/Walk.ts" = .ok ⟨"ai/Walk.ts", "Walk", "ai/Walk"⟩ := by
      decide
    obtain ⟨script, hscript, hfree⟩ := (hattach _ s' hs').1.1 hcompiles
    cases hwalk.symm.trans hscript
    exact hfree "ai/Walk.ts" (by decide) (by decide) _ hother rfl
  · obtain ⟨s', hs', code', hcode'⟩ : ∃ s', hostileScene.attachScript 1 "Run.ts" = (.ok (), s') ∧
        ∃ code', s'.compile = .ok code' := ⟨_, rfl, _, rfl⟩
    have hrun : Script.ofReference "Run.ts" = .ok ⟨"Run.ts", "Run", "Run"⟩ := by decide
    obtain ⟨script, -, -, -, -, -, -, hscript, -, -, himports, -⟩ :=
      (hattach _ s' hs').2 code' hcode'
    cases hrun.symm.trans hscript
    exact ⟨s', code', hs', hcode', (himports _).2 (Or.inr rfl)⟩

end SpriteScene
