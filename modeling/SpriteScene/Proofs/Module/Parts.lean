/-
  What is read off a module.

  * `boundImports` reads the import lines of a module, `scriptImportLines` finds those
    of the scripts, and `boundConstants` reads the constants that the statements inside
    `create` declare;
  * `objectBlocks` cuts these statements into blocks, one for each constant, and
    `constructedNames` reads off a block what it makes instances of;
  * `Scene.boundImports_compile`, `Scene.boundConstants_compile`,
    `Scene.scriptImportLines_compile` and `Scene.objectBlocks_compile`: in a compiled
    module these are the imports of its references, the constants of its objects and
    their blocks.
-/
import Mathlib.Data.List.SplitBy
import SpriteScene.Proofs.Module.Layout

namespace SpriteScene

/-! ## Reading lines -/

/-- What follows a fixed text at the front of a line, if it stands there. -/
def behind? (front : String) (cs : List Char) : Option (List Char) :=
  if front.toList.isPrefixOf cs then some (cs.drop front.toList.length) else none

theorem behind?_append (front : String) (cs : List Char) :
    behind? front (front.toList ++ cs) = some cs := by
  have hp : front.toList.isPrefixOf (front.toList ++ cs) :=
    List.isPrefixOf_iff_prefix.2 (List.prefix_append _ _)
  rw [behind?, if_pos hp, List.drop_left]

/-- The name that an import line binds, and where it is imported from. -/
def readImport? (line : String) : Option (String × String) := do
  let rest ← behind? "import " line.toList
  let quoted ← behind? " from '" (rest.dropWhile (· ≠ ' '))
  if quoted.dropWhile (· ≠ '\'') = ['\'', ';'] then
    return (String.ofList (rest.takeWhile (· ≠ ' ')), String.ofList (quoted.takeWhile (· ≠ '\'')))
  else none

theorem readImport?_import {name path : String} (hname : ' ' ∉ name.toList)
    (hpath : '\'' ∉ path.toList) :
    readImport? ("import " ++ name ++ " from '" ++ path ++ "';") = some (name, path) := by
  have hrest : ("import " ++ name ++ " from '" ++ path ++ "';").toList =
      "import ".toList ++ (name.toList ++ ' ' :: ("from '".toList ++
        (path.toList ++ '\'' :: [';']))) := by
    simp only [String.toList_append, List.append_assoc]
    rfl
  have hquoted : behind? " from '" (' ' :: ("from '".toList ++ (path.toList ++ '\'' :: [';']))) =
      some (path.toList ++ '\'' :: [';']) :=
    behind?_append " from '" _
  simp only [readImport?, hrest, behind?_append, takeWhile_ne_append hname,
    dropWhile_ne_append hname, hquoted, takeWhile_ne_append hpath, dropWhile_ne_append hpath,
    String.ofList_toList, Option.bind_eq_bind, Option.bind_some, if_true]
  rfl

theorem readImport?_eq_none {line : String} (h : isImport line = false) :
    readImport? line = none := by
  have hb : behind? "import " line.toList = none := by
    unfold isImport at h
    rw [behind?, h]; rfl
  rw [readImport?, hb]
  rfl

/-- The names that the imports of a module bind, in order, and where they are
    imported from. -/
def boundImports (code : String) : List (String × String) :=
  (rawLines code).filterMap readImport?

/-- The constant that a statement declares. -/
def readConstant? (line : String) : Option String := do
  let rest ← behind? (bodyIndent ++ "const ") line.toList
  return String.ofList (rest.takeWhile (· ≠ ' '))

/-- The constants that the statements inside `create` declare, in order. -/
def boundConstants (code : String) : List String :=
  (linesBetween Frame.createLine "  \x7d" (rawLines code)).filterMap readConstant?

/-! ## The imports -/

theorem quote_notMem_modulePathOf {r : String} (h : IsReference r) :
    '\'' ∉ (modulePathOf r).toList := by
  intro hq
  exact absurd (isPathChar_of_mem_modulePathOf h hq) (by decide)

/-- An import line binds the name of its reference to its module path. -/
theorem readImport?_importLine {r : String} (h : IsReference r) :
    readImport? (Script.named r).importLine = some (symbolOf r, "./" ++ modulePathOf r) := by
  have hline : (Script.named r).importLine =
      "import " ++ symbolOf r ++ " from '" ++ ("./" ++ modulePathOf r) ++ "';" := by
    simp only [Script.importLine, Script.named_symbol, Script.named_modulePath, String.append_assoc]
    rfl
  rw [hline]
  refine readImport?_import ((isName_symbolOf h).notMem (by decide)) ?_
  rw [String.toList_append, List.mem_append]
  rintro (hq | hq)
  · revert hq; decide
  · exact quote_notMem_modulePathOf h hq

/-- What the script imports of a scene bind. -/
def Scene.scriptImports (s : Scene) : List (String × String) :=
  s.distinctReferences.map fun r => (symbolOf r, "./" ++ modulePathOf r)

theorem Scene.boundImports_compile {s : Scene} {code : String} (h : s.compile = .ok code) :
    boundImports code = [("Phaser", "phaser"), ("React", "react")] ++ s.scriptImports := by
  have himp := (compile_eq_ok_iff.1 h).1
  have hfilter : ∀ lines : List String,
      lines.filterMap readImport? = (lines.filter isImport).filterMap readImport? := by
    intro lines
    rw [List.filterMap_filter]
    refine List.filterMap_congr fun l _ => ?_
    cases hl : isImport l
    · rw [readImport?_eq_none hl]; rfl
    · rfl
  have hscripts : s.importLines.filterMap readImport? = s.scriptImports := by
    rw [importLines, List.filterMap_map, scriptImports, ← List.filterMap_eq_map]
    refine List.filterMap_congr fun r hr => ?_
    exact readImport?_importLine (himp.valid r (List.mem_eraseDups.1 hr))
  rw [boundImports, rawLines_compile h, hfilter, filter_isImport_moduleLines,
    List.filterMap_append, hscripts]
  rfl

/-! ## The constants -/

theorem space_notMem_spriteName (index : Nat) : ' ' ∉ (spriteName index).toList :=
  fun h => absurd (isAlphanum_of_mem_spriteName h) (by decide)

theorem readConstant?_creationLine (index : Nat) (o : SceneObject) :
    readConstant? (o.creationLine index) = some (spriteName index) := by
  have hline : ∃ rest, (o.creationLine index).toList =
      (bodyIndent ++ "const ").toList ++ ((spriteName index).toList ++ ' ' :: rest) := by
    simp only [SceneObject.creationLine, String.toList_append, List.append_assoc]
    exact ⟨_, rfl⟩
  obtain ⟨rest, hline⟩ := hline
  simp only [readConstant?, hline, behind?_append, Option.bind_eq_bind, Option.bind_some,
    takeWhile_ne_append (space_notMem_spriteName index), String.ofList_toList]
  rfl

/-- A statement that begins with the constant of an object declares nothing. -/
theorem readConstant?_eq_none {index : Nat} {line rest : String}
    (h : line = bodyIndent ++ (spriteName index ++ rest)) : readConstant? line = none := by
  have hline : line.toList =
      (bodyIndent ++ spriteStem).toList ++ (Nat.toDigits 10 index ++ rest.toList) := by
    rw [h, String.toList_append, String.toList_append, toList_spriteName, String.toList_append]
    simp only [List.append_assoc]
  have hfront : (bodyIndent ++ "const ").toList.isPrefixOf line.toList = false := by
    rw [hline]; rfl
  rw [readConstant?, behind?, hfront]; rfl

theorem readConstant?_nameLine (index : Nat) (o : SceneObject) :
    readConstant? (o.nameLine index) = none := by
  rw [SceneObject.nameLine, String.append_assoc, String.append_assoc, String.append_assoc]
  exact readConstant?_eq_none rfl

theorem readConstant?_scriptsLine (index : Nat) (scripts : List Script) :
    readConstant? (SceneObject.scriptsLine index scripts) = none := by
  rw [SceneObject.scriptsLine, String.append_assoc, String.append_assoc, String.append_assoc]
  exact readConstant?_eq_none rfl

theorem filterMap_readConstant?_codeLines (index : Nat) (o : SceneObject) :
    (o.codeLines index).filterMap readConstant? = [spriteName index] := by
  simp only [SceneObject.codeLines, SceneObject.blockLines]
  split
  · simp [readConstant?_creationLine, readConstant?_nameLine]
  · simp [readConstant?_creationLine, readConstant?_nameLine, readConstant?_scriptsLine]

theorem filterMap_readConstant?_blockLinesFrom (os : List SceneObject) :
    ∀ index, (blockLinesFrom index os).flatten.filterMap readConstant? =
      (List.range' index os.length).map spriteName := by
  induction os with
  | nil => intro index; rfl
  | cons o os ih =>
    intro index
    rw [blockLinesFrom_cons, List.flatten_cons, List.filterMap_append,
      filterMap_readConstant?_codeLines, ih, List.length_cons, List.range'_succ, List.map_cons]
    rfl

theorem Scene.boundConstants_compile {s : Scene} {code : String} (h : s.compile = .ok code) :
    boundConstants code = (List.range s.objects.length).map spriteName := by
  have hbody : (Frame.orBlank s.bodyLines).filterMap readConstant? =
      s.bodyLines.filterMap readConstant? := by
    rcases eq_or_ne s.bodyLines [] with hnil | hne
    · rw [hnil, Frame.orBlank_nil]; rfl
    · rw [Frame.orBlank_of_ne_nil hne]
  rw [boundConstants, rawLines_compile h, linesBetween_moduleLines, hbody, bodyLines,
    filterMap_readConstant?_blockLinesFrom, ← List.range_eq_range']

/-! ## Imports and blocks -/

/-- The import lines of a module behind the two of the frame. -/
def scriptImportLines (code : String) : List String := ((rawLines code).filter isImport).drop 2

/-- The statements inside `create`, cut before every one that declares a constant. -/
def objectBlocks (code : String) : List (List String) :=
  ((linesBetween Frame.createLine "  \x7d" (rawLines code)).filter (· ≠ "")).splitBy
    fun _ line => (readConstant? line).isNone

theorem Scene.scriptImportLines_compile {s : Scene} {code : String} (h : s.compile = .ok code) :
    scriptImportLines code = s.importLines := by
  rw [scriptImportLines, rawLines_compile h, filter_isImport_moduleLines]
  rfl

/-! ## Cutting the statements -/

/-- Of the statements of an object the first declares a constant, and no other does. -/
theorem SceneObject.codeLines_eq_cons (index : Nat) (o : SceneObject) : ∃ rest,
    o.codeLines index = o.creationLine index :: rest ∧ ∀ l ∈ rest, readConstant? l = none := by
  refine ⟨_, rfl, fun l hl => ?_⟩
  rcases List.mem_cons.1 hl with rfl | hl
  · exact readConstant?_nameLine index o
  · split at hl
    · cases hl
    · rw [List.mem_singleton.1 hl]
      exact readConstant?_scriptsLine index _

/-- **Blocks are found again** in their statements. -/
theorem splitBy_flatten_blockLinesFrom (index : Nat) (os : List SceneObject) :
    (blockLinesFrom index os).flatten.splitBy (fun _ line => (readConstant? line).isNone) =
      blockLinesFrom index os := by
  have hblock {b : List String} (hb : b ∈ blockLinesFrom index os) : ∃ line rest,
      b = line :: rest ∧ (readConstant? line).isNone = false ∧
        ∀ l ∈ rest, (readConstant? l).isNone := by
    obtain ⟨⟨o, i⟩, -, rfl⟩ := List.mem_map.1 hb
    obtain ⟨rest, hlines, hrest⟩ := o.codeLines_eq_cons i
    refine ⟨_, rest, hlines, ?_, fun l hl => ?_⟩
    · rw [readConstant?_creationLine]
      rfl
    · rw [hrest l hl]
      rfl
  refine List.splitBy_flatten ?_ ?_ ?_
  · exact fun hnil => ne_nil_of_mem_blockLinesFrom hnil rfl
  · intro b hb
    obtain ⟨line, rest, rfl, -, hrest⟩ := hblock hb
    refine (List.pairwise_cons.2 ⟨fun l => hrest l, ?_⟩).isChain
    exact List.pairwise_of_forall_mem_list fun _ _ l => hrest l
  · refine (List.pairwise_of_forall_mem_list fun a ha b hb => ?_).isChain
    obtain ⟨line, rest, rfl, hline, -⟩ := hblock hb
    exact ⟨ne_nil_of_mem_blockLinesFrom ha, List.cons_ne_nil _ _, hline⟩

theorem Scene.objectBlocks_compile {s : Scene} {code : String} (h : s.compile = .ok code) :
    objectBlocks code = blockLinesFrom 0 s.objects := by
  have hbody : (Frame.orBlank s.bodyLines).filter (· ≠ "") = s.bodyLines := by
    rw [Frame.filter_orBlank (by simp), List.filter_eq_self]
    intro l hl
    simpa using (indented_ne_mark (indented_of_mem_bodyLines hl)).2.1
  rw [objectBlocks, rawLines_compile h, linesBetween_moduleLines, hbody]
  exact splitBy_flatten_blockLinesFrom 0 s.objects

/-! ## The instances of a block -/

/-- The class that an element of a list is a new instance of. -/
def readInstance? (cs : List Char) : Option String := do
  let rest ← behind? "new " (cs.dropWhile (· = ' '))
  if rest.dropWhile (· ≠ '(') = ['(', ')'] then return String.ofList (rest.takeWhile (· ≠ '('))
  else none

/-- The classes that a statement attaches new instances of, in order. -/
def readAttachment? (line : String) : Option (List String) := do
  let rest ← behind? bodyIndent line.toList
  let listed ← behind? ".scripts = [" (rest.dropWhile (· ≠ '.'))
  return (segments ',' (listed.takeWhile (· ≠ ']'))).filterMap readInstance?

/-- The classes that the statements of a block make instances of, in order. -/
def constructedNames (block : List String) : List String :=
  (block.filterMap readAttachment?).flatten

/-- A class is instantiated in the characters of its name, of a call and of a keyword. -/
theorem notMem_construction {r : String} (h : IsReference r) {d : Char}
    (hname : ¬ (d.isAlphanum ∨ d = '_' ∨ d = '$')) (hcall : d ∉ "new ()".toList) :
    d ∉ (Script.named r).construction.toList := by
  simp only [Script.construction, Script.named_symbol, String.toList_append, List.mem_append]
  rintro ((hd | hd) | hd)
  · exact hcall (List.mem_of_mem_take (i := 4) hd)
  · exact (isName_symbolOf h).notMem hname hd
  · exact hcall (List.mem_of_mem_drop (i := 4) hd)

theorem readInstance?_construction {r : String} (h : IsReference r) (space : List Char)
    (hspace : space = [] ∨ space = [' ']) :
    readInstance? (space ++ (Script.named r).construction.toList) = some (symbolOf r) := by
  have hcs : (space ++ (Script.named r).construction.toList).dropWhile (· = ' ') =
      "new ".toList ++ ((symbolOf r).toList ++ '(' :: [')']) := by
    simp only [Script.construction, Script.named_symbol, String.toList_append, List.append_assoc]
    rcases hspace with rfl | rfl <;> rfl
  have hparen : '(' ∉ (symbolOf r).toList := (isName_symbolOf h).notMem (by decide)
  simp only [readInstance?, hcs, behind?_append, Option.bind_eq_bind, Option.bind_some,
    takeWhile_ne_append hparen, dropWhile_ne_append hparen, String.ofList_toList, if_true]
  rfl

/-- The instances of a list are read back, whatever their number. -/
theorem filterMap_readInstance?_intercalate {refs : List String}
    (h : ∀ r ∈ refs, IsReference r) :
    (segments ',' (", ".intercalate
      ((refs.map Script.named).map Script.construction)).toList).filterMap readInstance? =
        refs.map symbolOf := by
  cases refs with
  | nil => decide
  | cons r refs =>
    obtain ⟨hr, hrefs⟩ := List.forall_mem_cons.1 h
    have hjoin :
        (", ".intercalate (((r :: refs).map Script.named).map Script.construction)).toList =
          [',', ' '].intercalate
            ((r :: refs).map fun r => (Script.named r).construction.toList) := by
      rw [String.toList_intercalate, List.map_map, List.map_map,
        show ", ".toList = [',', ' '] from rfl]
      rfl
    have hcomma : ∀ part ∈ (r :: refs).map fun r => (Script.named r).construction.toList,
        ',' ∉ part := by
      intro part hpart
      obtain ⟨r', hr', rfl⟩ := List.mem_map.1 hpart
      exact notMem_construction (h r' hr') (by decide) (by decide)
    have hfirst : readInstance? (Script.named r).construction.toList = some (symbolOf r) := by
      rw [← List.nil_append (Script.named r).construction.toList]
      exact readInstance?_construction hr [] (.inl rfl)
    have hnext : ∀ r' ∈ refs, readInstance? ([' '] ++ (Script.named r').construction.toList) =
        some (symbolOf r') :=
      fun r' hr' => readInstance?_construction (hrefs r' hr') [' '] (.inr rfl)
    rw [hjoin, List.map_cons, segments_intercalate_cons (by decide) hcomma,
      List.filterMap_cons_some hfirst, List.filterMap_map, List.filterMap_map, List.map_cons,
      ← List.filterMap_eq_map]
    exact congrArg (symbolOf r :: ·) (List.filterMap_congr hnext)

theorem dot_notMem_spriteName (index : Nat) : '.' ∉ (spriteName index).toList :=
  fun h => absurd (isAlphanum_of_mem_spriteName h) (by decide)

/-- A statement that attaches scripts makes an instance of each. -/
theorem readAttachment?_scriptsLine (index : Nat) {refs : List String}
    (h : ∀ r ∈ refs, IsReference r) :
    readAttachment? (SceneObject.scriptsLine index (refs.map Script.named)) =
      some (refs.map symbolOf) := by
  have hbracket : ']' ∉ (", ".intercalate
      ((refs.map Script.named).map Script.construction)).toList := by
    rw [String.toList_intercalate]
    intro hmem
    rcases mem_of_mem_intercalate hmem with hmem | ⟨part, hpart, hmem⟩
    · revert hmem; decide
    · simp only [List.map_map, List.mem_map] at hpart
      obtain ⟨r, hr, rfl⟩ := hpart
      exact notMem_construction (h r hr) (by decide) (by decide) hmem
  have hline : (SceneObject.scriptsLine index (refs.map Script.named)).toList =
      bodyIndent.toList ++ ((spriteName index).toList ++ '.' :: ("scripts = [".toList ++
        ((", ".intercalate ((refs.map Script.named).map Script.construction)).toList ++
          ']' :: [';']))) := by
    simp only [SceneObject.scriptsLine, String.toList_append, List.append_assoc]
    rfl
  have hlisted (cs : List Char) : behind? ".scripts = [" ('.' :: ("scripts = [".toList ++ cs)) =
      some cs := behind?_append ".scripts = [" cs
  simp only [readAttachment?, hline, behind?_append, Option.bind_eq_bind, Option.bind_some,
    dropWhile_ne_append (dot_notMem_spriteName index), hlisted, takeWhile_ne_append hbracket,
    filterMap_readInstance?_intercalate h]
  rfl

/-- A statement attaches nothing if something else stands behind its first dot. -/
theorem readAttachment?_eq_none {line : String} {front rest : List Char} (hfront : '.' ∉ front)
    (hrest : behind? ".scripts = [" ('.' :: rest) = none)
    (hline : line.toList = bodyIndent.toList ++ (front ++ '.' :: rest)) :
    readAttachment? line = none := by
  simp only [readAttachment?, hline, behind?_append, Option.bind_eq_bind, Option.bind_some,
    dropWhile_ne_append hfront, hrest, Option.bind_none]

/-- **The instances of a block** are those of its references, in their order. -/
theorem constructedNames_codeLines (index : Nat) {o : SceneObject}
    (h : ∀ r ∈ o.scripts, IsReference r) :
    constructedNames (o.codeLines index) = o.scripts.map symbolOf := by
  have hcreation : readAttachment? (o.creationLine index) = none := by
    have hfront : '.' ∉ "const ".toList ++ ((spriteName index).toList ++ " = this".toList) := by
      simp only [List.mem_append, not_or]
      exact ⟨by decide, dot_notMem_spriteName index, by decide⟩
    obtain ⟨rest, hline⟩ : ∃ rest, (o.creationLine index).toList = bodyIndent.toList ++
        (("const ".toList ++ ((spriteName index).toList ++ " = this".toList)) ++
          '.' :: 'a' :: rest) := by
      simp only [SceneObject.creationLine, String.toList_append, List.append_assoc]
      exact ⟨_, rfl⟩
    exact readAttachment?_eq_none hfront rfl hline
  have hname : readAttachment? (o.nameLine index) = none := by
    obtain ⟨rest, hline⟩ : ∃ rest, (o.nameLine index).toList = bodyIndent.toList ++
        ((spriteName index).toList ++ '.' :: 'n' :: rest) := by
      simp only [SceneObject.nameLine, String.toList_append, List.append_assoc]
      exact ⟨_, rfl⟩
    exact readAttachment?_eq_none (dot_notMem_spriteName index) rfl hline
  by_cases hempty : o.scripts = []
  · simp [constructedNames, SceneObject.codeLines_eq_of_empty hempty, hcreation, hname, hempty]
  · simp [constructedNames, SceneObject.codeLines_eq_of_nonempty hempty, hcreation, hname,
      readAttachment?_scriptsLine index h]

end SpriteScene
