/-
  What a reference stands for.

  * `modulePathOf` and `symbolOf` are the module path and the name that a
    reference has, valid or not, and `ofReference_eq_ok_iff`: the script of a
    valid reference (`IsReference`) has just these;
  * the name is an identifier that is free to bind (`isName_symbolOf`), and the
    path holds only characters that need no escape (`isPathChar_of_mem`).
-/
import SpriteScene.Proofs.Script.Name
import SpriteScene.Script.Bindings

namespace SpriteScene

/-- The module path of a reference: all of it but the suffix. -/
def modulePathOf (reference : String) : String :=
  String.ofList (dropScriptSuffix reference.toList)

/-- The name of a reference: the last segment of its module path. -/
def symbolOf (reference : String) : String :=
  String.ofList (lastSegment (dropScriptSuffix reference.toList))

/-- The script that a reference stands for. -/
def Script.named (reference : String) : Script :=
  ⟨reference, symbolOf reference, modulePathOf reference⟩

@[simp] theorem Script.named_symbol (r : String) : (Script.named r).symbol = symbolOf r := rfl

@[simp] theorem Script.named_modulePath (r : String) :
    (Script.named r).modulePath = modulePathOf r := rfl

/-- A script can be derived from the reference. -/
def IsReference (reference : String) : Prop :=
  ∃ script, Script.ofReference reference = .ok script

theorem ofReference_of_faultless {r : String} (hpath : pathFault? r.toList = none)
    (hname : symbolFault? (symbolOf r) = none) :
    Script.ofReference r = .ok (Script.named r) := by
  unfold symbolOf at hname
  simp only [Script.ofReference, hpath, hname]
  rfl

theorem faultless_of_ofReference {r : String} {script : Script}
    (h : Script.ofReference r = .ok script) :
    pathFault? r.toList = none ∧ symbolFault? (symbolOf r) = none ∧ script = Script.named r := by
  unfold Script.ofReference at h
  split at h
  · cases h
  rename_i hpath
  dsimp only at h
  split at h
  · cases h
  rename_i hname
  cases h
  exact ⟨hpath, hname, rfl⟩

/-- A reference is valid iff its path and its name are. -/
theorem isReference_iff {r : String} :
    IsReference r ↔ pathFault? r.toList = none ∧ symbolFault? (symbolOf r) = none := by
  constructor
  · rintro ⟨script, h⟩
    obtain ⟨hpath, hname, -⟩ := faultless_of_ofReference h
    exact ⟨hpath, hname⟩
  · rintro ⟨hpath, hname⟩
    exact ⟨_, ofReference_of_faultless hpath hname⟩

/-- **The script of a reference**, if there is one, is the one it stands for. -/
theorem ofReference_eq_ok_iff {r : String} {script : Script} :
    Script.ofReference r = .ok script ↔ IsReference r ∧ script = Script.named r := by
  constructor
  · intro h
    exact ⟨⟨script, h⟩, (faultless_of_ofReference h).2.2⟩
  · rintro ⟨⟨script', h⟩, rfl⟩
    rw [h, (faultless_of_ofReference h).2.2]

/-- References of one module path have one name. -/
theorem symbolOf_congr {r r' : String} (h : modulePathOf r = modulePathOf r') :
    symbolOf r = symbolOf r' := by
  have hpath := congrArg String.toList h
  simp only [modulePathOf, String.toList_ofList] at hpath
  rw [symbolOf, symbolOf, hpath]

/-! ## The name -/

theorem isName_of_symbolFault? {name : String} (h : symbolFault? name = none) : IsName name := by
  unfold symbolFault? at h
  split at h
  · cases h
  split at h
  · cases h
  split at h
  · cases h
  rename_i hid hres hmod
  refine ⟨?_, by simpa using hres, ?_, ?_⟩
  · cases hcs : name.toList with
    | nil => simp [hcs, isIdentifier] at hid
    | cons c cs =>
      simp only [hcs, isIdentifier, isNameStart, isNameChar, Bool.not_eq_true, Bool.not_eq_false',
        Bool.and_eq_true, Bool.or_eq_true, decide_eq_true_eq, List.all_eq_true, or_assoc] at hid
      exact ⟨c, cs, rfl, hid⟩
  · intro hf
    simp [isModuleName, hf] at hmod
  · simp only [isModuleName, Bool.or_eq_true, not_or, Bool.not_eq_true] at hmod
    exact hmod.2

/-- **The name of a valid reference is free to bind.** -/
theorem isName_symbolOf {r : String} (h : IsReference r) : IsName (symbolOf r) :=
  isName_of_symbolFault? (isReference_iff.1 h).2

/-! ## The path -/

theorem isSegmentChar_of_segmentFault? {segment : List Char} (h : segmentFault? segment = none)
    {c : Char} (hc : c ∈ segment) : isSegmentChar c := by
  unfold segmentFault? at h
  split at h
  · cases h
  split at h
  · cases h
  · simp only [Option.map_eq_none_iff, List.find?_eq_none] at h
    simpa using h c hc

/-- Whether a character can stand in a module path. -/
def isPathChar (c : Char) : Bool := isSegmentChar c || c = '/'

/-- The characters of a valid reference. -/
theorem isPathChar_of_mem {r : String} (h : IsReference r) {c : Char} (hc : c ∈ r.toList) :
    isPathChar c := by
  have hp := (isReference_iff.1 h).1
  unfold pathFault? at hp
  split at hp
  · cases hp
  split at hp
  · cases hp
  split at hp
  · cases hp
  have hparts : c = '/' ∨ ∃ segment ∈ segments '/' r.toList, c ∈ segment := mem_segments_of_mem hc
  rcases hparts with rfl | ⟨segment, hs, hc⟩
  · decide
  · simp [isPathChar, isSegmentChar_of_segmentFault? (List.findSome?_eq_none_iff.1 hp segment hs) hc]

theorem isPathChar_of_mem_modulePathOf {r : String} (h : IsReference r) {c : Char}
    (hc : c ∈ (modulePathOf r).toList) : isPathChar c := by
  refine isPathChar_of_mem h ?_
  rw [modulePathOf, String.toList_ofList, dropScriptSuffix] at hc
  split at hc
  · exact List.mem_of_mem_take hc
  · exact hc

theorem isPlain_modulePathOf {r : String} (h : IsReference r) : IsPlain (modulePathOf r) := by
  intro c hc
  have hp := isPathChar_of_mem_modulePathOf h hc
  simp only [isPathChar, isSegmentChar, Bool.or_eq_true, decide_eq_true_eq] at hp
  rcases hp with ((((hp | rfl) | rfl) | rfl) | rfl) | rfl
  · exact isPlainChar_of_isAlphanum hp
  all_goals decide

end SpriteScene
