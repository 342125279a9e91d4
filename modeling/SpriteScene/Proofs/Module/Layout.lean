/-
  The lines of a module, whatever the user writes.

  * `Scene.rawLines_compile`: no text of a scene adds a line to the module or
    ends one, since every line is free of control characters;
  * `Scene.lines_of_compile`: so the lines of a compiled module are the two
    imports of the frame and one import for each distinct reference, the
    statements of the objects in order, and the frame.
-/
import SpriteScene.Preview
import SpriteScene.Proofs.Module.Compile
import SpriteScene.Proofs.Module.Literal

namespace SpriteScene

/-! ## Plain lines -/

theorem isPlain_importLine {r : String} (h : IsReference r) :
    IsPlain (Script.named r).importLine := by
  simp only [Script.importLine, isPlain_append, and_assoc]
  exact ⟨by decide, (isName_symbolOf h).isPlain, by decide, isPlain_modulePathOf h, by decide⟩

namespace SceneObject

theorem isPlain_creationLine (index : Nat) (o : SceneObject) : IsPlain (o.creationLine index) := by
  simp only [creationLine, isPlain_append, and_assoc]
  refine ⟨?_, ?_, isPlain_spriteName index, ?_, isPlain_literal _, ?_, isPlain_literal _,
    ?_, ?_, ?_, ?_, ?_⟩
  all_goals decide

theorem isPlain_nameLine (index : Nat) (o : SceneObject) : IsPlain (o.nameLine index) := by
  simp only [nameLine, isPlain_append, and_assoc]
  exact ⟨by decide, isPlain_spriteName index, by decide, isPlain_nameLiteral o.name, by decide⟩

theorem isPlain_scriptsLine (index : Nat) {refs : List String} (h : ∀ r ∈ refs, IsReference r) :
    IsPlain (scriptsLine index (refs.map Script.named)) := by
  have hlist : IsPlain (", ".intercalate ((refs.map Script.named).map Script.construction)) := by
    refine IsPlain.intercalate (by decide) fun part hp => ?_
    obtain ⟨_, hs, rfl⟩ := List.mem_map.1 hp
    obtain ⟨r, hr, rfl⟩ := List.mem_map.1 hs
    simp only [Script.construction, isPlain_append, and_assoc]
    exact ⟨by decide, (isName_symbolOf (h r hr)).isPlain, by decide⟩
  simp only [scriptsLine, isPlain_append, and_assoc]
  exact ⟨by decide, isPlain_spriteName index, by decide, hlist, by decide⟩

theorem mem_codeLines {index : Nat} {o : SceneObject} {l : String} (h : l ∈ o.codeLines index) :
    l = o.creationLine index ∨ l = o.nameLine index ∨
      l = scriptsLine index (o.scripts.map Script.named) := by
  simp only [codeLines, blockLines, List.mem_append, List.mem_cons, List.not_mem_nil, or_false] at h
  rcases h with (h | h) | h
  · exact Or.inl h
  · exact Or.inr (Or.inl h)
  · split at h
    · cases h
    · exact Or.inr (Or.inr (List.mem_singleton.1 h))

theorem isPlain_of_mem_codeLines {index : Nat} {o : SceneObject}
    (hvalid : ∀ r ∈ o.scripts, IsReference r) {l : String} (h : l ∈ o.codeLines index) :
    IsPlain l := by
  rcases mem_codeLines h with rfl | rfl | rfl
  · exact isPlain_creationLine index o
  · exact isPlain_nameLine index o
  · exact isPlain_scriptsLine index hvalid

/-- Statements are indented. -/
theorem indented_of_mem_codeLines {index : Nat} {o : SceneObject} {l : String}
    (h : l ∈ o.codeLines index) : ∃ rest, l = bodyIndent ++ rest := by
  rcases mem_codeLines h with rfl | rfl | rfl
  · exact ⟨_, by simp only [creationLine, String.append_assoc]; rfl⟩
  · exact ⟨_, by simp only [nameLine, String.append_assoc]; rfl⟩
  · exact ⟨_, by simp only [scriptsLine, String.append_assoc]; rfl⟩

end SceneObject

theorem mem_blockLinesFrom {index : Nat} {os : List SceneObject} {l : String}
    (h : l ∈ (blockLinesFrom index os).flatten) : ∃ o ∈ os, ∃ i, l ∈ o.codeLines i := by
  obtain ⟨b, hb, hl⟩ := List.mem_flatten.1 h
  obtain ⟨⟨o, i⟩, ho, rfl⟩ := List.mem_map.1 hb
  exact ⟨o, List.fst_mem_of_mem_zipIdx ho, i, hl⟩

namespace Frame

theorem mem_orBlank {parts : List String} {l : String} (h : l ∈ orBlank parts) :
    l = "" ∨ l ∈ parts := by
  rcases eq_or_ne parts [] with rfl | hne
  · exact Or.inl (List.mem_singleton.1 h)
  · exact Or.inr (orBlank_of_ne_nil hne ▸ h)

theorem isPlain_orBlank {parts : List String} (h : ∀ l ∈ parts, IsPlain l) :
    ∀ l ∈ orBlank parts, IsPlain l := by
  intro l hl
  rcases mem_orBlank hl with rfl | hl
  · decide
  · exact h l hl

/-- A condition that the empty line fails does not see it. -/
theorem filter_orBlank {p : String → Bool} (h : p "" = false) (parts : List String) :
    (orBlank parts).filter p = parts.filter p := by
  rcases eq_or_ne parts [] with rfl | hne
  · rw [orBlank_nil, List.filter_cons_of_neg (by simp [h])]
  · rw [orBlank_of_ne_nil hne]

end Frame

namespace Scene

theorem isPlain_of_mem_importLines {s : Scene} (h : Importable s.references) :
    ∀ l ∈ s.importLines, IsPlain l := by
  intro l hl
  obtain ⟨r, hr, rfl⟩ := List.mem_map.1 hl
  exact isPlain_importLine (h.valid r (List.mem_eraseDups.1 hr))

theorem isPlain_of_mem_bodyLines {s : Scene} (h : Importable s.references) :
    ∀ l ∈ s.bodyLines, IsPlain l := by
  intro l hl
  obtain ⟨o, ho, i, hl⟩ := mem_blockLinesFrom hl
  exact o.isPlain_of_mem_codeLines (isReference_of_mem_scripts h o ho) hl

theorem isPlain_of_mem_moduleLines {s : Scene} (h : Importable s.references) :
    ∀ l ∈ s.moduleLines, IsPlain l := by
  have hopening : ∀ l ∈ Frame.opening, IsPlain l := by decide +kernel
  have hhead : ∀ l ∈ Frame.head, IsPlain l := by decide +kernel
  have htail : ∀ l ∈ Frame.tail, IsPlain l := by decide +kernel
  intro l hl
  simp only [moduleLines, List.mem_append] at hl
  rcases hl with (((hl | hl) | hl) | hl) | hl
  · exact hopening l hl
  · exact Frame.isPlain_orBlank (isPlain_of_mem_importLines h) l hl
  · exact hhead l hl
  · exact Frame.isPlain_orBlank (isPlain_of_mem_bodyLines h) l hl
  · exact htail l hl

/-- **The lines of a compiled module** are those it was put together from. -/
theorem rawLines_compile {s : Scene} {code : String} (h : s.compile = .ok code) :
    rawLines code = s.moduleLines := by
  obtain ⟨himp, rfl⟩ := compile_eq_ok_iff.1 h
  exact rawLines_unlines (by simp [moduleLines, Frame.tail]) (isPlain_of_mem_moduleLines himp)

end Scene

/-! ## Finding the parts -/

theorem isImport_importLine (script : Script) : isImport script.importLine := by
  simp only [isImport, Script.importLine, String.append_assoc, String.toList_append,
    List.isPrefixOf_iff_prefix]
  exact List.prefix_append _ _

/-- An indented line is none of the lines that mark the parts of a module. -/
theorem indented_ne_mark {l : String} (h : ∃ rest, l = bodyIndent ++ rest) :
    isImport l = false ∧ l ≠ "" ∧ l ≠ Frame.createLine ∧ l ≠ "  \x7d" := by
  obtain ⟨rest, rfl⟩ := h
  have hindent : (bodyIndent ++ rest).toList = ' ' :: ' ' :: ' ' :: ' ' :: rest.toList := by
    rw [String.toList_append]; rfl
  refine ⟨by rw [isImport, hindent]; rfl, ?_, ?_, ?_⟩
  all_goals
    intro he
    rw [he] at hindent
    revert hindent
    simp [Frame.createLine]

namespace Scene

theorem indented_of_mem_bodyLines {s : Scene} {l : String} (h : l ∈ s.bodyLines) :
    ∃ rest, l = bodyIndent ++ rest := by
  obtain ⟨o, -, i, hl⟩ := mem_blockLinesFrom h
  exact SceneObject.indented_of_mem_codeLines hl

theorem isImport_of_mem_importLines {s : Scene} {l : String} (h : l ∈ s.importLines) :
    isImport l := by
  obtain ⟨r, -, rfl⟩ := List.mem_map.1 h
  exact isImport_importLine _

/-- The imports of a module are those of the frame and of the scripts. -/
theorem filter_isImport_moduleLines (s : Scene) :
    s.moduleLines.filter isImport =
      ["import Phaser from 'phaser';", "import React from 'react';"] ++ s.importLines := by
  have hopening : Frame.opening.filter isImport =
      ["import Phaser from 'phaser';", "import React from 'react';"] := by decide +kernel
  have hhead : Frame.head.filter isImport = [] := by decide +kernel
  have htail : Frame.tail.filter isImport = [] := by decide +kernel
  have himports : s.importLines.filter isImport = s.importLines :=
    List.filter_eq_self.2 fun l => isImport_of_mem_importLines
  have hbody : s.bodyLines.filter isImport = [] := by
    refine List.filter_eq_nil_iff.2 fun l hl => ?_
    simp [(indented_ne_mark (indented_of_mem_bodyLines hl)).1]
  simp only [moduleLines, List.filter_append, Frame.filter_orBlank (p := isImport) (by decide),
    hopening, hhead, htail, himports, hbody, List.append_nil]

/-- The statements of the objects stand between the first line that opens
    `create` and the next line that closes it. -/
theorem linesBetween_moduleLines (s : Scene) :
    linesBetween Frame.createLine "  \x7d" s.moduleLines = Frame.orBlank s.bodyLines := by
  have hhead : Frame.head = Frame.head.dropLast ++ [Frame.createLine] := rfl
  have htail : Frame.tail = ["  \x7d"] ++ Frame.tail.drop 1 := rfl
  have hsplit : s.moduleLines = (Frame.opening ++ Frame.orBlank s.importLines ++
      Frame.head.dropLast) ++ [Frame.createLine] ++ Frame.orBlank s.bodyLines ++ ["  \x7d"] ++
      Frame.tail.drop 1 := by
    rw [moduleLines, hhead, htail]
    simp only [List.append_assoc, List.dropLast_concat]
    rfl
  rw [hsplit]
  refine linesBetween_append ?_ ?_
  · have hopening : Frame.createLine ∉ Frame.opening := by decide
    have hhead : Frame.createLine ∉ Frame.head.dropLast := by decide
    have himports : Frame.createLine ∉ Frame.orBlank s.importLines := by
      intro h
      rcases Frame.mem_orBlank h with h | h
      · revert h; decide
      · exact absurd (isImport_of_mem_importLines h) (by decide)
    simp [hopening, hhead, himports]
  · intro h
    rcases Frame.mem_orBlank h with h | h
    · revert h; decide
    · exact (indented_ne_mark (indented_of_mem_bodyLines h)).2.2.2 rfl

/-- The statements of the objects, spelled out. -/
theorem bodyLines_eq (s : Scene) :
    s.bodyLines = s.objects.zipIdx.flatMap fun (o, i) =>
      [o.creationLine i, o.nameLine i] ++ if o.scripts = [] then [] else
        [bodyIndent ++ spriteName i ++ ".scripts = [" ++
          ", ".intercalate (o.scripts.map fun r => "new " ++ symbolOf r ++ "()") ++ "];"] := by
  rw [bodyLines, blockLinesFrom, ← List.flatMap_def]
  refine List.flatMap_congr ?_
  rintro ⟨o, i⟩ -
  simp only [SceneObject.codeLines, SceneObject.blockLines, SceneObject.scriptsLine,
    List.isEmpty_iff, List.map_eq_nil_iff, List.map_map]
  rfl

/-- **The lines of a module, whatever the user writes.**  The imports are those
    of the frame and, in the order of their first occurrence, one for each
    distinct reference; the statements stand inside `create`, object by object,
    with one instance for each reference of an object; all else is the frame,
    and no control character or end of a line occurs but the line feed. -/
theorem lines_of_compile {s : Scene} {code : String} (h : s.compile = .ok code) :
    let imports := s.distinctReferences.map fun r =>
      "import " ++ symbolOf r ++ " from './" ++ modulePathOf r ++ "';"
    let statements := s.objects.zipIdx.flatMap fun (o, i) =>
      [o.creationLine i, o.nameLine i] ++ if o.scripts = [] then [] else
        [bodyIndent ++ spriteName i ++ ".scripts = [" ++
          ", ".intercalate (o.scripts.map fun r => "new " ++ symbolOf r ++ "()") ++ "];"]
    (∀ r ∈ s.references, Script.ofReference r = .ok ⟨r, symbolOf r, modulePathOf r⟩) ∧
    (rawLines code).filter isImport =
      ["import Phaser from 'phaser';", "import React from 'react';"] ++ imports ∧
    linesBetween "  create() \x7b" "  \x7d" (rawLines code) = Frame.orBlank statements ∧
    rawLines code = Frame.opening ++ Frame.orBlank imports ++ Frame.head ++
      Frame.orBlank statements ++ Frame.tail ∧
    ∀ c ∈ code.toList, isControl c ∨ endsLine c → c = '\n' := by
  intro imports statements
  have himp := (compile_eq_ok_iff.1 h).1
  have hcode := (compile_eq_ok_iff.1 h).2
  have hstatements : statements = s.bodyLines := (bodyLines_eq s).symm
  rw [rawLines_compile h, hstatements]
  refine ⟨fun r hr => ?_, s.filter_isImport_moduleLines, s.linesBetween_moduleLines, rfl, ?_⟩
  · exact ofReference_eq_ok_iff.2 ⟨himp.valid r hr, rfl⟩
  · rw [hcode]
    exact fun c => eq_lineFeed_of_mem_unlines (isPlain_of_mem_moduleLines himp)

end Scene

/-- A scene that is not valid but compiles: its objects share an id, nothing has
    the id that is selected, a name tries to end its line and `create`, and one
    object holds a script twice. -/
def hostileScene : Scene where
  project := some "Demo"
  objects :=
    [⟨1, "a';\n  \x7d\nimport B from './B';\u2028", ⟨.nan, .zero⟩,
      ["ai/Walk.ts", "Jump", "ai/Walk.ts"]⟩,
     ⟨1, "", ⟨.infinite true, .finite true .zero⟩, []⟩]
  selected := some 7
  catalog := ["Unused.ts"]

theorem lines_of_compile_hostileScene : ∃ code, hostileScene.compile = .ok code ∧
    (rawLines code).filter isImport =
      ["import Phaser from 'phaser';", "import React from 'react';",
       "import Walk from './ai/Walk';", "import Jump from './Jump';"] ∧
    linesBetween "  create() \x7b" "  \x7d" (rawLines code) =
      ["    const sprite0 = this.add.sprite(NaN, 0, 'player'); // Replace 'player' with actual asset key",
       "    sprite0.name = 'a\\';\\n  \x7d\\nimport B from \\'./B\\';\\u2028';",
       "    sprite0.scripts = [new Walk(), new Jump(), new Walk()];",
       "    const sprite1 = this.add.sprite(-Infinity, -0, 'player'); // Replace 'player' with actual asset key",
       "    sprite1.name = '';"] := by
  obtain ⟨code, h⟩ : ∃ code, hostileScene.compile = .ok code := ⟨_, rfl⟩
  obtain ⟨-, himports, hstatements, -, -⟩ := Scene.lines_of_compile h
  exact ⟨code, h, himports.trans (by decide), hstatements.trans (by decide)⟩

end SpriteScene
