/-
  Modules as they are shown.

  * `gutter_eq` and `length_gutter`: the number of a line stands in as many columns as the
    largest number needs;
  * `lineCells` is a line as it is shown, and `shownLines_sourcePreview`: of lines without
    control characters these are shown, one for each;
  * `linesOf_unlines`: such lines are the lines of the text that they make;
  * `Scene.exists_linesOf_compile`: the lines of a compiled module are free of control
    characters, and its imports are the lines from the second on;
  * `Scene.sourcePreview_faithful`: so a preview shows a compiled module as it is.
-/
import Mathlib.Data.String.Lemmas
import SpriteScene.Proofs.Module.Layout
import SpriteScene.Proofs.Preview.Styles

namespace SpriteScene

/-! ## Numbers of lines -/

theorem isPlain_toString (n : Nat) : IsPlain (toString n) := by
  intro c hc
  rw [Nat.toString_eq_ofList_toDigits, String.toList_ofList] at hc
  exact isPlainChar_of_isAlphanum (by simp [Char.isAlphanum, isDigit_of_mem_toDigits hc])

/-- A smaller number has no more digits. -/
theorem length_toString_le {k n : Nat} (h : k ≤ n) : (toString k).length ≤ (toString n).length := by
  have hpos : 0 < (Nat.toDigits 10 n).length := Nat.length_toDigits_pos
  rw [Nat.toString_eq_ofList_toDigits, Nat.toString_eq_ofList_toDigits, String.length_ofList,
    String.length_ofList, Nat.length_toDigits_le_iff (by decide) hpos]
  exact h.trans_lt ((Nat.length_toDigits_le_iff (by decide) hpos).1 le_rfl)

theorem gutter_eq (width number : Nat) :
    gutter width number = String.leftpad width ' ' (toString number) ++ " │ " := by
  rw [gutter, String.leftpad, List.leftpad, String.ofList_append, String.ofList_toList,
    String.length_toList]

theorem length_gutter {width number : Nat} (h : (toString number).length ≤ width) :
    (gutter width number).toList.length = width + 3 := by
  rw [gutter_eq, String.length_toList, String.length_append, String.length_leftpad, max_eq_left h]
  rfl

theorem isPlain_gutter (width number : Nat) : IsPlain (gutter width number) := by
  have hblanks (n : Nat) : IsPlain (String.ofList (List.replicate n ' ')) := by
    intro c hc
    rw [String.toList_ofList] at hc
    rw [List.eq_of_mem_replicate hc]
    decide
  rw [gutter, isPlain_append, isPlain_append]
  exact ⟨⟨hblanks _, isPlain_toString number⟩, by decide⟩

/-! ## Lines that are shown -/

/-- A line as it is shown: its number is dimmed, and an import is accented. -/
def lineCells (width number : Nat) (line : String) : List Cell :=
  (gutter width number).toList.map (Cell.mk [TextStyle.dim.parameters]) ++
    line.toList.map (Cell.mk (if isImport line then [TextStyle.accent.parameters] else []))

theorem map_char_lineCells (width number : Nat) (line : String) :
    String.ofList ((lineCells width number line).map (·.char)) = gutter width number ++ line := by
  have hchar (styles : List String) (cs : List Char) :
      (cs.map (Cell.mk styles)).map (·.char) = cs := by
    rw [List.map_map]
    exact List.map_id cs
  rw [lineCells, List.map_append, hchar, hchar, String.ofList_append, String.ofList_toList,
    String.ofList_toList]

theorem cells_sourceLine {line : String} (h : IsPlain line) (width number : Nat)
    (rest : List Char) : cells [] ((sourceLine width number line).toList ++ rest) =
      lineCells width number line ++ ⟨[], '\n'⟩ :: cells [] rest := by
  have hgutter : '\x1b' ∉ (gutter width number).toList :=
    (isPlain_gutter width number).notMem (by decide)
  have hline : '\x1b' ∉ line.toList := h.notMem (by decide)
  have hfeed : cells [] ("\n".toList ++ rest) = ⟨[], '\n'⟩ :: cells [] rest :=
    cells_cons (by decide) rest
  rw [sourceLine, lineCells, String.toList_append, String.toList_append, List.append_assoc,
    List.append_assoc, List.append_assoc, TextStyle.dim.cells_apply hgutter]
  split
  · rw [TextStyle.accent.cells_apply hline, hfeed]
  · rw [cells_plain hline, hfeed]

theorem char_ne_of_mem_lineCells {line : String} (h : IsPlain line) {width number : Nat}
    {cell : Cell} (hcell : cell ∈ lineCells width number line) : cell.char ≠ '\n' := by
  have hmem : cell.char ∈ (gutter width number ++ line).toList := by
    rw [← map_char_lineCells, String.toList_ofList]
    exact List.mem_map_of_mem hcell
  have hplain : IsPlain (gutter width number ++ line) :=
    isPlain_append.2 ⟨isPlain_gutter width number, h⟩
  exact ne_of_mem_of_not_mem hmem hplain.lineFeed_notMem

/-- Lines without control characters are shown one by one. -/
theorem splitOnP_cells_sourceLines {lines : List String} (h : ∀ line ∈ lines, IsPlain line)
    (width start : Nat) :
    (cells [] (((lines.zipIdx start).map fun (line, index) =>
        sourceLine width (index + 1) line).flatMap String.toList)).splitOnP (·.char = '\n') =
      (lines.zipIdx start).map (fun (line, index) => lineCells width (index + 1) line) ++ [[]] := by
  induction lines generalizing start with
  | nil => simp [List.splitOnP_nil]
  | cons line lines ih =>
    obtain ⟨hline, hlines⟩ := List.forall_mem_cons.1 h
    have hcells : ∀ cell ∈ lineCells width (start + 1) line, decide (cell.char = '\n') = false :=
      fun cell hcell => decide_eq_false (char_ne_of_mem_lineCells hline hcell)
    rw [List.zipIdx_cons, List.map_cons, List.map_cons, List.flatMap_cons, cells_sourceLine hline,
      List.splitOnP_append_cons_of_forall_mem hcells _ rfl, ih hlines, List.cons_append]

/-- **What is shown of a module** without control characters in its lines. -/
theorem shownLines_sourcePreview {code : String} (h : ∀ line ∈ linesOf code, IsPlain line) :
    shownLines (sourcePreview code) = (linesOf code).zipIdx.map (fun (line, index) =>
      lineCells (toString (linesOf code).length).length (index + 1) line) ++ [[]] := by
  rw [shownLines, sourcePreview, String.toList_join]
  exact splitOnP_cells_sourceLines h _ 0

/-! ## Lines of a module -/

/-- Lines without control characters are the lines of the text in which each of them is
    ended. -/
theorem linesOf_unlines {lines : List String} (h : ∀ line ∈ lines, IsPlain line) :
    linesOf (unlines (lines ++ [""])) = lines := by
  have hplain : ∀ line ∈ lines ++ [""], IsPlain line :=
    List.forall_mem_append.2 ⟨h, by decide⟩
  have hparts : segments '\n' (unlines (lines ++ [""])).toList =
      lines.map String.toList ++ [[]] := by
    have hraw := congrArg (List.map String.toList) (rawLines_unlines (by simp) hplain)
    simpa [rawLines, Function.comp_def] using hraw
  have hreturn : ∀ line ∈ lines, dropReturn line.toList = line.toList := by
    intro line hline
    have hlast : line.toList.getLast? ≠ some '\r' := fun heq =>
      (h line hline).notMem (by decide) (List.mem_of_getLast? heq)
    rw [dropReturn, if_neg hlast]
  rw [linesOf, hparts]
  simp only [List.dropLast_concat, List.getLastD_concat, List.isEmpty_nil, if_true, List.append_nil,
    List.map_map]
  exact (List.map_congr_left fun line hline => by simp [hreturn line hline]).trans (List.map_id _)

/-! ## Lines of a preview -/

/-- A line as it is shown has an accent iff it is an import. -/
theorem exists_accent_lineCells_iff {width number : Nat} {line : String} :
    (∃ cell ∈ lineCells width number line, TextStyle.accent.parameters ∈ cell.styles) ↔
      isImport line := by
  rw [lineCells]
  constructor
  · rintro ⟨cell, hcell, haccent⟩
    rcases List.mem_append.1 hcell with hmem | hmem
    · obtain ⟨c, -, rfl⟩ := List.mem_map.1 hmem
      have hdim : TextStyle.accent.parameters ∉ [TextStyle.dim.parameters] := by decide
      exact absurd haccent hdim
    · obtain ⟨c, -, rfl⟩ := List.mem_map.1 hmem
      by_contra himport
      rw [if_neg himport] at haccent
      exact absurd haccent List.not_mem_nil
  · intro himport
    have hne : line.toList ≠ [] := by
      intro heq
      rw [isImport, heq] at himport
      cases himport
    obtain ⟨c, cs, hcs⟩ := List.exists_cons_of_ne_nil hne
    rw [if_pos himport, hcs]
    exact ⟨_, List.mem_append_right _ List.mem_cons_self, List.mem_singleton_self _⟩

section
variable {code : String} (hplain : ∀ line ∈ linesOf code, IsPlain line)

include hplain

theorem rawLines_unstyled_sourcePreview : rawLines (unstyled (sourcePreview code)) =
    (linesOf code).zipIdx.map (fun (line, index) =>
      gutter (toString (linesOf code).length).length (index + 1) ++ line) ++ [""] := by
  rw [rawLines_unstyled, shownLines_sourcePreview hplain, List.map_append, List.map_map]
  refine congrArg (· ++ [""]) (List.map_congr_left ?_)
  rintro ⟨line, index⟩ -
  exact map_char_lineCells _ _ _

theorem getElem?_shownLines {k : Nat} {line : String} (hk : (linesOf code)[k]? = some line) :
    (shownLines (sourcePreview code))[k]? =
      some (lineCells (toString (linesOf code).length).length (k + 1) line) := by
  have hlt : k < (linesOf code).length := (List.getElem?_eq_some_iff.1 hk).1
  rw [shownLines_sourcePreview hplain, List.getElem?_append_left (by simpa using hlt),
    List.getElem?_map, List.getElem?_zipIdx, hk]
  simp

theorem getElem?_rawLines_unstyled {k : Nat} {line : String} (hk : (linesOf code)[k]? = some line) :
    (rawLines (unstyled (sourcePreview code)))[k]? =
      some (gutter (toString (linesOf code).length).length (k + 1) ++ line) := by
  rw [rawLines_unstyled, List.getElem?_map, getElem?_shownLines hplain hk, Option.map_some,
    map_char_lineCells]

/-- Which lines have an accent. -/
theorem exists_accent_iff {k : Nat} :
    (∃ line, (shownLines (sourcePreview code))[k]? = some line ∧
      ∃ cell ∈ line, TextStyle.accent.parameters ∈ cell.styles) ↔
    ∃ line, (linesOf code)[k]? = some line ∧ isImport line := by
  constructor
  · rintro ⟨shown, hshown, cell, hcell, haccent⟩
    rcases lt_or_ge k (linesOf code).length with hlt | hge
    · have hk := List.getElem?_eq_getElem hlt
      rw [getElem?_shownLines hplain hk, Option.some_inj] at hshown
      rw [← hshown] at hcell
      exact ⟨_, hk, exists_accent_lineCells_iff.1 ⟨cell, hcell, haccent⟩⟩
    · -- only the empty line behind the last line feed is left
      rw [shownLines_sourcePreview hplain,
        List.getElem?_append_right (by simpa using hge)] at hshown
      rw [List.mem_singleton.1 (List.mem_of_getElem? hshown)] at hcell
      exact absurd hcell List.not_mem_nil
  · rintro ⟨line, hk, himport⟩
    exact ⟨_, getElem?_shownLines hplain hk, exists_accent_lineCells_iff.2 himport⟩

/-- Behind the numbers there are the lines. -/
theorem map_drop_rawLines_unstyled :
    (rawLines (unstyled (sourcePreview code))).map (fun line =>
      String.ofList (line.toList.drop ((toString (linesOf code).length).length + 3))) =
        linesOf code ++ [""] := by
  have hlast (width : Nat) : String.ofList ("".toList.drop width) = "" := by simp
  rw [rawLines_unstyled_sourcePreview hplain, List.map_append, List.map_map, List.map_singleton,
    hlast]
  refine congrArg (· ++ [""]) ((List.map_congr_left ?_).trans (List.zipIdx_map_fst 0 _))
  rintro ⟨line, index⟩ hmem
  have hlt : index < (linesOf code).length := List.snd_lt_of_mem_zipIdx hmem
  have hlength := length_gutter (length_toString_le (Nat.succ_le_of_lt hlt))
  rw [Function.comp_apply, String.toList_append, List.drop_left' hlength, String.ofList_toList]

end

/-! ## Compiled modules -/

/-- A condition that holds in a block and nowhere else. -/
theorem holds_iff_of_getElem? {p : α → Bool} {before block after : List α}
    (hbefore : ∀ a ∈ before, p a = false) (hblock : ∀ a ∈ block, p a)
    (hafter : ∀ a ∈ after, p a = false) {k : Nat} {a : α}
    (h : (before ++ block ++ after)[k]? = some a) :
    p a ↔ before.length ≤ k ∧ k < before.length + block.length := by
  rw [List.append_assoc, List.getElem?_append] at h
  split at h
  · simp only [hbefore a (List.mem_of_getElem? h), Bool.false_eq_true, false_iff]
    omega
  rw [List.getElem?_append] at h
  split at h
  · simp only [hblock a (List.mem_of_getElem? h), true_iff]
    omega
  · simp only [hafter a (List.mem_of_getElem? h), Bool.false_eq_true, false_iff]
    omega

namespace Scene

/-- The imports of a module: those of the frame and of the scripts. -/
def imports (s : Scene) : List String :=
  ["import Phaser from 'phaser';", "import React from 'react';"] ++ s.importLines

theorem isImport_of_mem_imports {s : Scene} : ∀ l ∈ s.imports, isImport l := by
  intro l hl
  rcases List.mem_append.1 hl with hmem | hmem
  · have hframe : ∀ l ∈ ["import Phaser from 'phaser';", "import React from 'react';"],
        isImport l := by decide
    exact hframe l hmem
  · exact isImport_of_mem_importLines hmem

/-- The imports of a module stand behind its first line, which is empty, and nowhere else. -/
theorem exists_moduleLines (s : Scene) :
    ∃ rest, s.moduleLines = [""] ++ s.imports ++ rest ++ [""] ∧ ∀ l ∈ rest, isImport l = false := by
  have hblank (parts : List String) :
      Frame.orBlank parts = parts ++ if parts.isEmpty then [""] else [] := by
    cases parts <;> simp [Frame.orBlank]
  have hhead : ∀ l ∈ Frame.head, isImport l = false := by decide +kernel
  have htail : ∀ l ∈ Frame.tail.dropLast, isImport l = false := by decide +kernel
  have hempty : ∀ l ∈ (if s.importLines.isEmpty then [""] else []), isImport l = false := by
    split
    · decide
    · exact fun l hl => absurd hl List.not_mem_nil
  refine ⟨(if s.importLines.isEmpty then [""] else []) ++ Frame.head ++
    Frame.orBlank s.bodyLines ++ Frame.tail.dropLast, ?_, fun l hl => ?_⟩
  · rw [moduleLines, show Frame.tail = Frame.tail.dropLast ++ [""] from rfl,
      hblank s.importLines, imports, Frame.opening]
    simp
  · simp only [List.mem_append] at hl
    rcases hl with ((hl | hl) | hl) | hl
    · exact hempty l hl
    · exact hhead l hl
    · rcases Frame.mem_orBlank hl with rfl | hl
      · decide
      · exact (indented_ne_mark (indented_of_mem_bodyLines hl)).1
    · exact htail l hl

/-- The lines of a compiled module, each of which is ended. -/
theorem exists_linesOf_compile {s : Scene} {code : String} (h : s.compile = .ok code) :
    ∃ rest, linesOf code = [""] ++ s.imports ++ rest ∧ (∀ l ∈ rest, isImport l = false) ∧
      (∀ l ∈ linesOf code, IsPlain l) ∧ code = unlines (linesOf code ++ [""]) := by
  obtain ⟨himp, hcode⟩ := compile_eq_ok_iff.1 h
  obtain ⟨rest, hlines, hrest⟩ := s.exists_moduleLines
  have hplain : ∀ l ∈ [""] ++ s.imports ++ rest, IsPlain l := fun l hl =>
    isPlain_of_mem_moduleLines himp l (hlines ▸ List.mem_append_left _ hl)
  rw [hlines] at hcode
  have hlinesOf : linesOf code = [""] ++ s.imports ++ rest := by
    rw [hcode, linesOf_unlines hplain]
  rw [hlinesOf]
  exact ⟨rest, rfl, hrest, hplain, hcode⟩

/-- **A preview shows a compiled module as it is**, whatever the user writes.  Without the
    style sequences, and without what stands before each line, it is the module.  Before a
    line stands its number, right-aligned in as many columns as the number of lines has
    digits, and a rule.  The lines with an accent are the imports of the module: the second
    line and those behind it, two for the frame and one for each distinct reference. -/
theorem sourcePreview_faithful {s : Scene} {code : String} (h : s.compile = .ok code) :
    let count := (linesOf code).length
    let width := (toString count).length
    let n := s.distinctReferences.length
    let numbered := rawLines (unstyled (sourcePreview code))
    let imports := ["import Phaser from 'phaser';", "import React from 'react';"] ++
      s.distinctReferences.map fun r =>
        "import " ++ symbolOf r ++ " from './" ++ modulePathOf r ++ "';"
    unlines (numbered.map fun line => String.ofList (line.toList.drop (width + 3))) = code ∧
    rawLines code = linesOf code ++ [""] ∧ numbered.length = count + 1 ∧
    (∀ k < count, numbered[k]?.map (fun line => String.ofList (line.toList.take (width + 3))) =
      some (String.leftpad width ' ' (toString (k + 1)) ++ " │ ")) ∧
    (∀ k, (∃ line, (shownLines (sourcePreview code))[k]? = some line ∧
        ∃ cell ∈ line, TextStyle.accent.parameters ∈ cell.styles) ↔
      2 ≤ k + 1 ∧ k + 1 ≤ n + 3) ∧
    (∀ k line, (linesOf code)[k]? = some line → (shownLines (sourcePreview code))[k]? =
      some ((String.leftpad width ' ' (toString (k + 1)) ++ " │ ").toList.map
          (Cell.mk [TextStyle.dim.parameters]) ++
        line.toList.map (Cell.mk
          (if 2 ≤ k + 1 ∧ k + 1 ≤ n + 3 then [TextStyle.accent.parameters] else [])))) ∧
    ((linesOf code).drop 1).take (n + 2) = imports ∧ (linesOf code).filter isImport = imports := by
  intro count width n numbered imports
  obtain ⟨rest, hlines, hrest, hplain, hcode⟩ := exists_linesOf_compile h
  have hraw : rawLines code = linesOf code ++ [""] := by
    conv_lhs => rw [hcode]
    exact rawLines_unlines (by simp) (List.forall_mem_append.2 ⟨hplain, by decide⟩)
  have himports : s.imports = imports := rfl
  have hn : s.imports.length = n + 2 := by
    simp [Scene.imports, importLines, n]
  have hblank : ∀ l ∈ [""], isImport l = false := by decide
  have himport {k : Nat} {line : String} (hk : (linesOf code)[k]? = some line) :
      isImport line ↔ 2 ≤ k + 1 ∧ k + 1 ≤ n + 3 := by
    rw [hlines] at hk
    rw [holds_iff_of_getElem? hblank isImport_of_mem_imports hrest hk, hn, List.length_singleton]
    omega
  refine ⟨?_, hraw, ?_, fun k hk => ?_, fun k => ?_, fun k line hk => ?_, ?_, ?_⟩
  · rw [map_drop_rawLines_unstyled hplain, ← hcode]
  · simp [numbered, rawLines_unstyled_sourcePreview hplain, count]
  · have hline := List.getElem?_eq_getElem hk
    have hlength := length_gutter (length_toString_le (Nat.succ_le_of_lt hk))
    rw [getElem?_rawLines_unstyled hplain hline, Option.map_some, String.toList_append,
      List.take_left' hlength, String.ofList_toList, gutter_eq]
  · rw [exists_accent_iff hplain]
    constructor
    · rintro ⟨line, hk, hline⟩
      exact (himport hk).1 hline
    · intro hrange
      have hlt : k < (linesOf code).length := by
        rw [hlines, List.length_append, List.length_append, hn, List.length_singleton]
        omega
      have hline := List.getElem?_eq_getElem hlt
      exact ⟨_, hline, (himport hline).2 hrange⟩
  · rw [getElem?_shownLines hplain hk, lineCells, gutter_eq]
    simp only [himport hk]
    rfl
  · rw [hlines, List.append_assoc, List.singleton_append, List.drop_succ_cons, List.drop_zero,
      List.take_left' hn, himports]
  · have hlast : [""].filter isImport = [] := by decide
    have hfilter := s.filter_isImport_moduleLines
    rw [← rawLines_compile h, hraw, List.filter_append, hlast, List.append_nil] at hfilter
    exact hfilter

/-- The name of an object holds an import, but no line of the module is one. -/
theorem sourcePreview_faithful_hostileScene : ∃ code, hostileScene.compile = .ok code ∧
    (linesOf code).length = 48 ∧
    unlines ((rawLines (unstyled (sourcePreview code))).map fun line =>
      String.ofList (line.toList.drop 5)) = code ∧
    ∀ k, (∃ line, (shownLines (sourcePreview code))[k]? = some line ∧
      ∃ cell ∈ line, TextStyle.accent.parameters ∈ cell.styles) ↔ k ∈ [1, 2, 3, 4] := by
  obtain ⟨code, h⟩ : ∃ code, hostileScene.compile = .ok code := ⟨_, rfl⟩
  obtain ⟨hdrop, hraw, -, -, haccent, -⟩ := sourcePreview_faithful h
  have hcount : (linesOf code).length = 48 := by
    have hlength := congrArg List.length (hraw.symm.trans (rawLines_compile h))
    rw [List.length_append, show hostileScene.moduleLines.length = 49 by decide] at hlength
    exact Nat.succ.inj hlength
  rw [hcount] at hdrop
  have hn : hostileScene.distinctReferences.length = 2 := by decide
  rw [hn] at haccent
  refine ⟨code, h, hcount, hdrop, fun k => (haccent k).trans ?_⟩
  simp only [List.mem_cons, List.not_mem_nil, or_false]
  omega

end Scene

end SpriteScene
