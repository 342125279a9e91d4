/-
  The grammar of script references.

  A reference is a module path, as it is or with the suffix `.ts`; a module path
  goes through directories to a name.

  * `IsSegment`, `IsFreeName` and `IsModulePath` are the grammar;
  * `segmentFault?_eq_none_iff`, `pathFault?_eq_none_iff` and
    `symbolFault?_eq_none_iff`: what each check lets pass.  The path is checked
    with its suffix and the name without, and `exists_segments_append` relates
    the parts of the one to those of the other;
  * `Script.ofReference_spec`: the references that a script can be derived from
    are those of the grammar, and the script is made of their parts.  Seen from
    any directory, its path leads below it, and quoted it stays as it is.
-/
import SpriteScene.Proofs.Files.Location
import SpriteScene.Proofs.Module.Literal
import SpriteScene.Proofs.Script.Reference

namespace SpriteScene

/-! ## The grammar -/

/-- A part that a path may go through. -/
structure IsSegment (part : String) : Prop where
  ne_empty : part ≠ ""
  ne_here : part ≠ "."
  ne_above : part ≠ ".."
  chars : ∀ c ∈ part.toList, c.isAlphanum ∨ c = '_' ∨ c = '$' ∨ c = '.' ∨ c = '-'

/-- An identifier that neither the language nor the module keeps for itself. -/
structure IsFreeName (name : String) : Prop where
  identifier : ∃ c cs, name.toList = c :: cs ∧ (c.isAlpha ∨ c = '_' ∨ c = '$') ∧
    ∀ d ∈ cs, d.isAlphanum ∨ d = '_' ∨ d = '$'
  notReserved : name ∉ reservedWords
  notFrame : name ∉ ["Phaser", "React", "Level1", "GameComponent"]
  notSprite : ¬ ∃ digits, digits ≠ "" ∧ (∀ c ∈ digits.toList, c.isDigit) ∧ name = "sprite" ++ digits

/-- A path through directories to a name. -/
structure IsModulePath (path : String) (directories : List String) (name : String) : Prop where
  joined : path = "/".intercalate (directories ++ [name])
  through : ∀ directory ∈ directories, IsSegment directory
  free : IsFreeName name

/-! ## What the checks let pass -/

theorem isSpriteName_iff {name : String} :
    isSpriteName name.toList ↔
      ∃ digits, digits ≠ "" ∧ (∀ c ∈ digits.toList, c.isDigit) ∧ name = "sprite" ++ digits := by
  simp only [isSpriteName, spriteStem, Bool.and_eq_true, List.isPrefixOf_iff_prefix,
    Bool.not_eq_true', List.isEmpty_eq_false_iff, List.all_eq_true]
  constructor
  · rintro ⟨⟨⟨digits, hname⟩, hne⟩, hall⟩
    rw [← hname, List.drop_left] at hne hall
    refine ⟨String.ofList digits, ?_, by simpa using hall, ?_⟩
    · simpa using hne
    · rw [← String.ofList_toList (s := name), ← hname, String.ofList_append, String.ofList_toList]
  · rintro ⟨digits, hne, hall, rfl⟩
    rw [String.toList_append, List.drop_left]
    exact ⟨⟨List.prefix_append _ _, by simpa using hne⟩, hall⟩

/-- The names that are free to bind. -/
theorem isFreeName_iff {name : String} : IsFreeName name ↔ IsName name := by
  have hsprite : isSpriteName name.toList = false ↔ ¬ ∃ digits, digits ≠ "" ∧
      (∀ c ∈ digits.toList, c.isDigit) ∧ name = "sprite" ++ digits := by
    rw [← isSpriteName_iff, Bool.not_eq_true]
  constructor
  · intro h
    exact ⟨h.identifier, h.notReserved, h.notFrame, hsprite.2 h.notSprite⟩
  · intro h
    exact ⟨h.identifier, h.notReserved, h.notFrame, hsprite.1 h.notSprite⟩

theorem symbolFault?_eq_none_iff {name : String} : symbolFault? name = none ↔ IsFreeName name := by
  rw [isFreeName_iff]
  refine ⟨isName_of_symbolFault?, fun h => ?_⟩
  have hidentifier : isIdentifier name.toList := by
    obtain ⟨c, cs, hcs, hc, hall⟩ := h.identifier
    simpa only [hcs, isIdentifier, isNameStart, isNameChar, Bool.and_eq_true, Bool.or_eq_true,
      decide_eq_true_eq, List.all_eq_true, or_assoc] using ⟨hc, hall⟩
  simp [symbolFault?, isModuleName, hidentifier, h.notReserved, h.notFrame, h.notSprite]

theorem isSegmentChar_iff {c : Char} :
    isSegmentChar c ↔ c.isAlphanum ∨ c = '_' ∨ c = '$' ∨ c = '.' ∨ c = '-' := by
  simp only [isSegmentChar, Bool.or_eq_true, decide_eq_true_eq]
  tauto

theorem toList_eq_dots_iff {part : String} :
    part.toList = ['.'] ∨ part.toList = ['.', '.'] ↔ part = "." ∨ part = ".." := by
  rw [← String.toList_inj, ← String.toList_inj]
  exact Iff.rfl

theorem segmentFault?_eq_none_iff {part : String} :
    segmentFault? part.toList = none ↔ IsSegment part := by
  constructor
  · intro h
    have hchars (c : Char) (hc : c ∈ part.toList) :=
      isSegmentChar_iff.1 (isSegmentChar_of_segmentFault? h hc)
    unfold segmentFault? at h
    split at h
    · cases h
    split at h
    · cases h
    rename_i hempty hnot
    rw [toList_eq_dots_iff, not_or] at hnot
    exact ⟨fun he => hempty (by simp [he]), hnot.1, hnot.2, hchars⟩
  · intro h
    have hempty : part.toList ≠ [] := by simpa using h.ne_empty
    have hnot : ¬ (part.toList = ['.'] ∨ part.toList = ['.', '.']) := by
      rw [toList_eq_dots_iff, not_or]
      exact ⟨h.ne_here, h.ne_above⟩
    have hfind : part.toList.find? (fun c => !isSegmentChar c) = none :=
      List.find?_eq_none.2 fun c hc => by simp [isSegmentChar_iff.2 (h.chars c hc)]
    rw [segmentFault?, if_neg hempty, if_neg hnot, hfind]
    rfl

/-- A leading slash leaves an empty part, and a backslash stands in one. -/
theorem pathFault?_eq_none_iff {cs : List Char} :
    pathFault? cs = none ↔ ∀ part ∈ segments '/' cs, segmentFault? part = none := by
  unfold pathFault?
  constructor
  · intro h
    split at h
    · cases h
    split at h
    · cases h
    split at h
    · cases h
    exact List.findSome?_eq_none_iff.1 h
  · intro h
    have hempty : cs ≠ [] := by
      rintro rfl
      exact absurd (h [] List.mem_cons_self) (by decide)
    have hslash : cs.head? ≠ some '/' := by
      intro hhead
      obtain ⟨cs, rfl⟩ := List.head?_eq_some_iff.1 hhead
      rw [segments_cons, if_pos rfl] at h
      exact absurd (h [] List.mem_cons_self) (by decide)
    have hbackslash : '\\' ∉ cs := by
      intro hmem
      have hparts : '\\' = '/' ∨ ∃ part ∈ segments '/' cs, '\\' ∈ part := mem_segments_of_mem hmem
      rcases hparts with heq | ⟨part, hpart, hmem⟩
      · exact absurd heq (by decide)
      · exact absurd (isSegmentChar_of_segmentFault? (h part hpart) hmem) (by decide)
    rw [if_neg hempty, if_neg hslash, if_neg hbackslash]
    exact List.findSome?_eq_none_iff.2 h

/-! ## The suffix -/

/-- What stands behind a text without being cut stands behind its last part. -/
theorem exists_segments_append {sep : Char} (cs : List Char) {more : List Char}
    (hmore : sep ∉ more) : ∃ parts last, segments sep cs = parts ++ [last] ∧
      segments sep (cs ++ more) = parts ++ [last ++ more] := by
  have hone : segments sep ([sep].intercalate [more]) = [more] :=
    segments_intercalate (List.cons_ne_nil _ _) (by simpa using hmore)
  obtain ⟨parts, last, first, rest, hcs, hfirst, happend⟩ := @segments_append sep cs more
  rw [List.intercalate_singleton, hfirst] at hone
  obtain ⟨rfl, rfl⟩ := List.cons.inj hone
  exact ⟨parts, last, hcs, happend⟩

theorem dropScriptSuffix_append (cs : List Char) : dropScriptSuffix (cs ++ scriptSuffix) = cs := by
  simp [dropScriptSuffix]

theorem eq_dropScriptSuffix (cs : List Char) :
    cs = dropScriptSuffix cs ∨ cs = dropScriptSuffix cs ++ scriptSuffix := by
  by_cases h : scriptSuffix <:+ cs
  · obtain ⟨front, rfl⟩ := h
    rw [dropScriptSuffix_append]
    exact Or.inr rfl
  · rw [dropScriptSuffix, if_neg (by simpa using h)]
    exact Or.inl rfl

/-- A reference is its module path, with or without the suffix. -/
theorem eq_modulePathOf (r : String) : r = modulePathOf r ∨ r = modulePathOf r ++ ".ts" := by
  rcases eq_dropScriptSuffix r.toList with h | h
  · exact Or.inl (String.toList_inj.1 (by rwa [modulePathOf, String.toList_ofList]))
  · refine Or.inr (String.toList_inj.1 ?_)
    rwa [modulePathOf, String.toList_append, String.toList_ofList]

/-! ## Parts of a module path -/

theorem IsFreeName.notMem {name : String} (h : IsFreeName name) {d : Char}
    (hd : ¬ (d.isAlphanum ∨ d = '_' ∨ d = '$')) : d ∉ name.toList :=
  (isFreeName_iff.1 h).notMem hd

/-- The last part of a reference is fit to be gone through. -/
theorem IsFreeName.isSegment_append {name more : String} (h : IsFreeName name)
    (hmore : more = "" ∨ more = ".ts") : IsSegment (name ++ more) := by
  obtain ⟨c, cs, hcs, hc, -⟩ := h.identifier
  have hfirst : (name ++ more).toList = c :: (cs ++ more.toList) := by
    rw [String.toList_append, hcs, List.cons_append]
  have hdot : c ≠ '.' := by
    rintro rfl
    exact absurd hc (by decide)
  refine ⟨?_, ?_, ?_, fun d hd => ?_⟩
  · intro he
    simp [he] at hfirst
  · intro he
    rw [he] at hfirst
    exact hdot (List.cons.inj hfirst).1.symm
  · intro he
    rw [he] at hfirst
    exact hdot (List.cons.inj hfirst).1.symm
  · rw [String.toList_append, List.mem_append] at hd
    rcases hd with hd | hd
    · rcases (isFreeName_iff.1 h).isAlphanum_of_mem hd with hd | hd | hd
      · exact Or.inl hd
      · exact Or.inr (Or.inl hd)
      · exact Or.inr (Or.inr (Or.inl hd))
    · have hsuffix : ∀ d ∈ ".ts".toList, d.isAlphanum ∨ d = '_' ∨ d = '$' ∨ d = '.' ∨ d = '-' := by
        simp
      rcases hmore with rfl | rfl
      · cases hd
      · exact hsuffix d hd

theorem IsFreeName.isSegment {name : String} (h : IsFreeName name) : IsSegment name := by
  rw [← String.append_empty (s := name)]
  exact h.isSegment_append (Or.inl rfl)

theorem IsSegment.notMem {part : String} (h : IsSegment part) : '/' ∉ part.toList :=
  fun hmem => absurd (h.chars _ hmem) (by decide)

namespace IsModulePath

variable {path name : String} {directories : List String}

/-- The parts of a module path are its directories and its name. -/
theorem segments_eq (h : IsModulePath path directories name) :
    segments '/' path.toList = directories.map String.toList ++ [name.toList] := by
  have hparts : ∀ part ∈ (directories ++ [name]).map String.toList, '/' ∉ part := by
    intro part hpart
    rw [List.map_append, List.mem_append, List.mem_map] at hpart
    rcases hpart with ⟨directory, hmem, rfl⟩ | hname
    · exact (h.through directory hmem).notMem
    · rw [List.mem_singleton.1 hname]
      exact h.free.notMem (by decide)
  rw [h.joined, String.toList_intercalate]
  exact (segments_intercalate (by simp) hparts).trans (List.map_append ..)

/-- Behind a name without dots there is no suffix left. -/
theorem dropScriptSuffix_eq (h : IsModulePath path directories name) :
    dropScriptSuffix path.toList = path.toList := by
  rcases eq_dropScriptSuffix path.toList with he | he
  · exact he.symm
  · exfalso
    have hcut : '/' ∉ scriptSuffix := by decide
    obtain ⟨parts, last, -, hparts⟩ := exists_segments_append (dropScriptSuffix path.toList) hcut
    rw [← he, h.segments_eq] at hparts
    have hname : name.toList = last ++ scriptSuffix := (List.append_singleton_inj.1 hparts).2
    refine h.free.notMem (d := '.') (by decide) ?_
    rw [hname]
    exact List.mem_append_right last (by decide)

/-- **Every text of the grammar is a reference**, and its parts are those it was
    made of. -/
theorem isReference {r : String} (h : IsModulePath path directories name)
    (hr : r = path ∨ r = path ++ ".ts") :
    IsReference r ∧ modulePathOf r = path ∧ symbolOf r = name := by
  have hdrop : dropScriptSuffix r.toList = path.toList := by
    rcases hr with rfl | rfl
    · exact h.dropScriptSuffix_eq
    · rw [String.toList_append]
      exact dropScriptSuffix_append _
  have hname : symbolOf r = name := by
    rw [symbolOf, hdrop, lastSegment, h.segments_eq, List.getLastD_concat, String.ofList_toList]
  obtain ⟨more, hmore, hr⟩ : ∃ more, (more = "" ∨ more = ".ts") ∧ r = path ++ more := by
    rcases hr with rfl | rfl
    · exact ⟨"", Or.inl rfl, (String.append_empty).symm⟩
    · exact ⟨".ts", Or.inr rfl, rfl⟩
  have hcut : '/' ∉ more.toList := by
    rcases hmore with rfl | rfl <;> decide
  refine ⟨isReference_iff.2 ⟨pathFault?_eq_none_iff.2 fun part hpart => ?_, ?_⟩, ?_, hname⟩
  · obtain ⟨parts, last, hparts, happend⟩ := exists_segments_append path.toList hcut
    rw [h.segments_eq] at hparts
    obtain ⟨rfl, rfl⟩ := List.append_singleton_inj.1 hparts
    rw [hr, String.toList_append, happend, List.mem_append, List.mem_map,
      List.mem_singleton] at hpart
    rcases hpart with ⟨directory, hmem, rfl⟩ | rfl
    · exact segmentFault?_eq_none_iff.2 (h.through directory hmem)
    · rw [← String.toList_append]
      exact segmentFault?_eq_none_iff.2 (h.free.isSegment_append hmore)
  · rw [hname]
    exact symbolFault?_eq_none_iff.2 h.free
  · rw [modulePathOf, hdrop, String.ofList_toList]

/-- The steps of the path that is imported from. -/
theorem steps_eq (h : IsModulePath path directories name) :
    Path.steps ("./" ++ path) = "." :: (directories ++ [name]) := by
  have hsegments : segments '/' ("./" ++ path).toList = ['.'] :: segments '/' path.toList := by
    have happend : ("./" ++ path).toList = '.' :: '/' :: path.toList := String.toList_append
    rw [happend, segments_cons, segments_cons, if_neg (by decide), if_pos rfl]
    rfl
  have hparts : Path.parts ("./" ++ path) = "." :: (directories ++ [name]) := by
    rw [Path.parts, hsegments, h.segments_eq]
    simp [Function.comp_def]
  have hne : ∀ part ∈ "." :: (directories ++ [name]), part ≠ "" := by
    intro part hpart
    rw [List.mem_cons, List.mem_append, List.mem_singleton] at hpart
    rcases hpart with rfl | hmem | rfl
    · decide
    · exact (h.through part hmem).ne_empty
    · exact h.free.isSegment.ne_empty
  rw [Path.steps, hparts]
  exact List.filter_eq_self.2 fun part hpart => decide_eq_true (hne part hpart)

/-- **A module path leads below the directory it is seen from.** -/
theorem destination_eq (h : IsModulePath path directories name) (here : Location) :
    FileTree.destination here (Path.steps ("./" ++ path)) = here ++ directories ++ [name] := by
  have hplain : ∀ part ∈ directories ++ [name], part ≠ "." ∧ part ≠ ".." := by
    intro part hpart
    rw [List.mem_append, List.mem_singleton] at hpart
    rcases hpart with hmem | rfl
    · exact ⟨(h.through part hmem).ne_here, (h.through part hmem).ne_above⟩
    · have hsegment := h.free.isSegment
      exact ⟨hsegment.ne_here, hsegment.ne_above⟩
  rw [h.steps_eq, List.append_assoc, ← FileTree.destination_of_plain here hplain]
  rfl

end IsModulePath

/-! ## References -/

/-- The parts of a module path, the last of which is the name. -/
theorem modulePathOf_eq_intercalate {r : String} {parts : List (List Char)} {last : List Char}
    (h : segments '/' (dropScriptSuffix r.toList) = parts ++ [last]) :
    symbolOf r = String.ofList last ∧
      modulePathOf r = "/".intercalate (parts.map String.ofList ++ [symbolOf r]) := by
  have hlast : symbolOf r = String.ofList last := by
    rw [symbolOf, lastSegment, h, List.getLastD_concat]
  refine ⟨hlast, ?_⟩
  rw [← String.toList_inj, modulePathOf, String.toList_ofList, String.toList_intercalate, hlast,
    ← intercalate_segments '/' (dropScriptSuffix r.toList), h]
  simp [Function.comp_def]

/-- A reference goes through directories to its name. -/
theorem exists_isModulePath {r : String} (h : IsReference r) :
    ∃ directories, IsModulePath (modulePathOf r) directories (symbolOf r) := by
  obtain ⟨hpath, hname⟩ := isReference_iff.1 h
  obtain ⟨more, hcut, hr⟩ : ∃ more, '/' ∉ more ∧ r.toList = dropScriptSuffix r.toList ++ more := by
    rcases eq_dropScriptSuffix r.toList with he | he
    · exact ⟨[], List.not_mem_nil, by rwa [List.append_nil]⟩
    · exact ⟨scriptSuffix, by decide, he⟩
  obtain ⟨parts, last, hparts, happend⟩ :=
    exists_segments_append (dropScriptSuffix r.toList) hcut
  refine ⟨parts.map String.ofList, (modulePathOf_eq_intercalate hparts).2, fun directory hmem => ?_,
    symbolFault?_eq_none_iff.1 hname⟩
  obtain ⟨part, hpart, rfl⟩ := List.mem_map.1 hmem
  rw [← segmentFault?_eq_none_iff, String.toList_ofList]
  refine pathFault?_eq_none_iff.1 hpath part ?_
  rw [hr, happend]
  exact List.mem_append_left _ hpart

theorem literalChar_eq_self {c : Char} (h : isPathChar c) (hplain : isPlainChar c) :
    literalChar c = [c] := by
  unfold literalChar
  split
  case h_6 =>
    refine if_neg fun hescaped => ?_
    simp only [isPlainChar, endsLine, Bool.not_eq_true', Bool.or_eq_false_iff] at hplain
    simp [hplain] at hescaped
  all_goals exact absurd h (by decide)

/-- Nothing in the path of a reference needs an escape. -/
theorem nameLiteral_modulePathOf {r : String} (h : IsReference r) :
    nameLiteral ("./" ++ modulePathOf r) = "'./" ++ modulePathOf r ++ "'" := by
  have hpath : ∀ c ∈ ("./" ++ modulePathOf r).toList, isPathChar c ∧ isPlainChar c := by
    intro c hc
    rw [String.toList_append, List.mem_append] at hc
    rcases hc with hc | hc
    · have hdots : ∀ c ∈ "./".toList, isPathChar c ∧ isPlainChar c := by
        simp only [String.reduceToList, List.forall_mem_cons]
        exact ⟨by decide, by decide, List.forall_mem_nil _⟩
      exact hdots c hc
    · exact ⟨isPathChar_of_mem_modulePathOf h hc, isPlain_modulePathOf h c hc⟩
  have hliteral : ("./" ++ modulePathOf r).toList.flatMap literalChar =
      ("./" ++ modulePathOf r).toList := by
    refine (List.flatMap_congr fun c hc => ?_).trans (List.flatMap_singleton' _)
    obtain ⟨hchar, hplain⟩ := hpath c hc
    exact literalChar_eq_self hchar hplain
  rw [← String.toList_inj, toList_nameLiteral, hliteral]
  simp

/-- **The references of the grammar are accepted, and no others.** -/
theorem Script.ofReference_spec (r : String) :
    ((∃ script, Script.ofReference r = .ok script) ↔
      ∃ path directories name,
        (r = path ∨ r = path ++ ".ts") ∧ IsModulePath path directories name) ∧
    ∀ script, Script.ofReference r = .ok script →
      script.reference = r ∧ (r = script.modulePath ∨ r = script.modulePath ++ ".ts") ∧
      ∃ directories, IsModulePath script.modulePath directories script.symbol ∧
        (∀ here, FileTree.destination here (Path.steps ("./" ++ script.modulePath)) =
          here ++ directories ++ [script.symbol]) ∧
        script.importLine = "import " ++ script.symbol ++ " from " ++
          nameLiteral ("./" ++ script.modulePath) ++ ";" := by
  constructor
  · constructor
    · intro h
      obtain ⟨directories, hpath⟩ := exists_isModulePath h
      exact ⟨_, directories, _, eq_modulePathOf r, hpath⟩
    · rintro ⟨path, directories, name, hr, hpath⟩
      exact (hpath.isReference hr).1
  · intro script h
    obtain ⟨hr, rfl⟩ := ofReference_eq_ok_iff.1 h
    obtain ⟨directories, hpath⟩ := exists_isModulePath hr
    refine ⟨rfl, eq_modulePathOf r, directories, hpath, hpath.destination_eq, ?_⟩
    rw [named_modulePath, nameLiteral_modulePathOf hr, ← String.toList_inj]
    simp [importLine]

theorem ofReference_spec_versioned :
    Script.ofReference "enemies/v1.2/Patrol.ts" =
        .ok ⟨"enemies/v1.2/Patrol.ts", "Patrol", "enemies/v1.2/Patrol"⟩ ∧
      ∃ directories, IsModulePath "enemies/v1.2/Patrol" directories "Patrol" ∧
        (∀ here, FileTree.destination here (Path.steps "./enemies/v1.2/Patrol") =
          here ++ directories ++ ["Patrol"]) ∧
        "import Patrol from './enemies/v1.2/Patrol';" =
          "import " ++ "Patrol" ++ " from " ++ nameLiteral "./enemies/v1.2/Patrol" ++ ";" := by
  have h : Script.ofReference "enemies/v1.2/Patrol.ts" =
      .ok ⟨"enemies/v1.2/Patrol.ts", "Patrol", "enemies/v1.2/Patrol"⟩ := by decide
  exact ⟨h, ((Script.ofReference_spec "enemies/v1.2/Patrol.ts").2 _ h).2.2⟩

example : Script.ofReference "a/.ts" = .error (.invalidSymbol "") := by decide

example : Script.ofReference "A.ts.ts" = .error (.invalidSymbol "A.ts") := by decide

end SpriteScene
