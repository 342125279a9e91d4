/-
  Why a reference is refused.

  * `SegmentFault` is what can be wrong with a part of a reference, and `Refusal` with
    the reference: faults of the whole come first, then that of the first part that has
    one, then that of the name;
  * `refusal_iff`: a reference is refused for this reason and no other;
  * `EndsInName` is the name behind the last slash, once the suffix is off;
  * `Script.ofReference_refusal_spec`: so it is the leftmost fault that is reported.
-/
import SpriteScene.Proofs.Script.Grammar

namespace SpriteScene

/-! ## Reasons -/

/-- A reference without the faults that are looked for in the whole of it. -/
structure IsRelative (r : String) : Prop where
  ne_empty : r ≠ ""
  notRooted : ¬ ∃ rest, r = "/" ++ rest
  noBackslash : '\\' ∉ r.toList

/-- What is wrong with a part of a reference. -/
inductive SegmentFault (part : String) : ReferenceFault → Prop
  | empty : part = "" → SegmentFault part .emptySegment
  | relative : part = "." ∨ part = ".." → SegmentFault part .relativeSegment
  | character {p q : List Char} {c : Char} : part.toList = p ++ c :: q →
      (∀ d ∈ p, isSegmentChar d) → ¬ isSegmentChar c → SegmentFault part (.invalidCharacter c)

/-- What is wrong with a reference. -/
inductive Refusal (r : String) : ReferenceFault → Prop
  | empty : r = "" → Refusal r .empty
  | leadingSlash : (∃ rest, r = "/" ++ rest) → Refusal r .leadingSlash
  | backslash : (¬ ∃ rest, r = "/" ++ rest) → '\\' ∈ r.toList → Refusal r .backslash
  | segment {before after : List String} {part : String} {fault : ReferenceFault} :
      IsRelative r → Path.parts r = before ++ part :: after → (∀ part ∈ before, IsSegment part) →
      SegmentFault part fault → Refusal r fault
  | name {fault : ReferenceFault} : (∀ part ∈ Path.parts r, IsSegment part) →
      symbolFault? (symbolOf r) = some fault → Refusal r fault

variable {r : String} {fault : ReferenceFault}

/-! ## Parts -/

theorem map_toList_parts (path : String) :
    (Path.parts path).map String.toList = segments '/' path.toList := by
  simp [Path.parts, Function.comp_def]

theorem segmentFault_emptySegment_iff {part : String} :
    SegmentFault part .emptySegment ↔ part = "" :=
  ⟨fun | .empty h => h, .empty⟩

theorem segmentFault_relativeSegment_iff {part : String} :
    SegmentFault part .relativeSegment ↔ part = "." ∨ part = ".." :=
  ⟨fun | .relative h => h, .relative⟩

theorem segmentFault?_eq_some_iff {part : String} :
    segmentFault? part.toList = some fault ↔ SegmentFault part fault := by
  constructor
  · intro h
    unfold segmentFault? at h
    split at h
    · rename_i hempty
      cases h
      exact .empty (by simpa using hempty)
    split at h
    · rename_i hdots
      cases h
      exact .relative (toList_eq_dots_iff.1 hdots)
    · obtain ⟨c, hfind, rfl⟩ := Option.map_eq_some_iff.1 h
      obtain ⟨hc, p, q, hpart, hp⟩ := List.find?_eq_some_iff_append.1 hfind
      exact .character hpart (by simpa using hp) (by simpa using hc)
  · rintro (rfl | hdots | @⟨p, q, c, hpart, hp, hc⟩)
    · rfl
    · rcases hdots with rfl | rfl <;> rfl
    · have hmem : c ∈ part.toList := by simp [hpart]
      have hempty : part.toList ≠ [] := List.ne_nil_of_mem hmem
      have hdots : ¬ (part.toList = ['.'] ∨ part.toList = ['.', '.']) := by
        rintro (h | h)
        all_goals
          rw [h] at hmem
          obtain rfl : c = '.' := by simpa using hmem
          exact hc rfl
      have hfind : part.toList.find? (fun c => !isSegmentChar c) = some c :=
        List.find?_eq_some_iff_append.2 ⟨by simpa using hc, p, q, hpart, by simpa using hp⟩
      rw [segmentFault?, if_neg hempty, if_neg hdots, hfind]
      rfl

/-! ## References -/

theorem ofReference_eq_error_iff : Script.ofReference r = .error fault ↔
    pathFault? r.toList = some fault ∨
      pathFault? r.toList = none ∧ symbolFault? (symbolOf r) = some fault := by
  unfold Script.ofReference symbolOf
  cases pathFault? r.toList with
  | some other => simp
  | none =>
    dsimp only
    cases symbolFault? (String.ofList (lastSegment (dropScriptSuffix r.toList))) with
    | some other => simp
    | none => simp

theorem exists_eq_slash_append_iff : (∃ rest, r = "/" ++ rest) ↔ r.toList.head? = some '/' := by
  rw [List.head?_eq_some_iff]
  constructor
  · rintro ⟨rest, rfl⟩
    exact ⟨rest.toList, String.toList_append⟩
  · rintro ⟨rest, h⟩
    refine ⟨String.ofList rest, String.toList_inj.1 ?_⟩
    simp [h]

theorem pathFault?_of_leadingSlash (h : ∃ rest, r = "/" ++ rest) :
    pathFault? r.toList = some .leadingSlash := by
  have hhead := exists_eq_slash_append_iff.1 h
  have hne : r.toList ≠ [] := by
    intro hnil
    simp [hnil] at hhead
  rw [pathFault?, if_neg hne, if_pos hhead]

theorem pathFault?_of_backslash (hslash : ¬ ∃ rest, r = "/" ++ rest) (h : '\\' ∈ r.toList) :
    pathFault? r.toList = some .backslash := by
  rw [pathFault?, if_neg (List.ne_nil_of_mem h), if_neg (exists_eq_slash_append_iff.not.1 hslash),
    if_pos h]

theorem pathFault?_toList_eq_none_iff :
    pathFault? r.toList = none ↔ ∀ part ∈ Path.parts r, IsSegment part := by
  rw [pathFault?_eq_none_iff, ← map_toList_parts, List.forall_mem_map]
  simp only [segmentFault?_eq_none_iff]

/-- Without faults of the whole the first fault of a part counts. -/
theorem IsRelative.pathFault?_eq_some_iff (h : IsRelative r) :
    pathFault? r.toList = some fault ↔ ∃ before part after,
      Path.parts r = before ++ part :: after ∧ SegmentFault part fault ∧
        ∀ part ∈ before, IsSegment part := by
  have hslash := exists_eq_slash_append_iff.not.1 h.notRooted
  rw [pathFault?, if_neg (by simpa using h.ne_empty), if_neg hslash, if_neg h.noBackslash,
    ← map_toList_parts, List.findSome?_map, List.findSome?_eq_some_iff]
  simp only [Function.comp_apply, segmentFault?_eq_some_iff, segmentFault?_eq_none_iff]

/-- **Why a reference is refused.** -/
theorem refusal_iff : Script.ofReference r = .error fault ↔ Refusal r fault := by
  rw [ofReference_eq_error_iff, pathFault?_toList_eq_none_iff]
  constructor
  · rintro (h | ⟨hpath, hname⟩)
    · by_cases hempty : r = ""
      · subst hempty
        cases h
        exact .empty rfl
      by_cases hslash : ∃ rest, r = "/" ++ rest
      · cases h.symm.trans (pathFault?_of_leadingSlash hslash)
        exact .leadingSlash hslash
      by_cases hback : '\\' ∈ r.toList
      · cases h.symm.trans (pathFault?_of_backslash hslash hback)
        exact .backslash hslash hback
      · have hrelative : IsRelative r := ⟨hempty, hslash, hback⟩
        obtain ⟨before, part, after, hparts, hfault, hbefore⟩ :=
          hrelative.pathFault?_eq_some_iff.1 h
        exact .segment hrelative hparts hbefore hfault
    · exact .name hpath hname
  · intro h
    cases h with
    | empty h =>
      subst h
      exact Or.inl rfl
    | leadingSlash h => exact Or.inl (pathFault?_of_leadingSlash h)
    | backslash hslash hback => exact Or.inl (pathFault?_of_backslash hslash hback)
    | segment hrelative hparts hbefore hfault =>
      exact Or.inl (hrelative.pathFault?_eq_some_iff.2 ⟨_, _, _, hparts, hfault, hbefore⟩)
    | name hpath hname => exact Or.inr ⟨hpath, hname⟩

/-! ## Names -/

/-- The name behind the last slash of a reference, once the suffix is off. -/
def EndsInName (r name : String) : Prop :=
  ∃ path directories, (r = path ++ ".ts" ∨ r = path ∧ ∀ other, r ≠ other ++ ".ts") ∧
    path = "/".intercalate (directories ++ [name]) ∧ '/' ∉ name.toList

theorem endsInName_symbolOf (r : String) : EndsInName r (symbolOf r) := by
  have hsuffix :
      r = modulePathOf r ++ ".ts" ∨ r = modulePathOf r ∧ ∀ other, r ≠ other ++ ".ts" := by
    by_cases h : ∃ other, r = other ++ ".ts"
    · obtain ⟨other, rfl⟩ := h
      refine Or.inl (congrArg (· ++ ".ts") (String.toList_inj.1 ?_))
      rw [modulePathOf, String.toList_ofList, String.toList_append]
      exact (dropScriptSuffix_append _).symm
    · have hne : ∀ other, r ≠ other ++ ".ts" := fun other heq => h ⟨other, heq⟩
      exact Or.inr ⟨(eq_modulePathOf r).resolve_right (hne _), hne⟩
  obtain ⟨parts, last, hparts⟩ : ∃ parts last,
      segments '/' (dropScriptSuffix r.toList) = parts ++ [last] :=
    ⟨_, _, (List.dropLast_concat_getLast (segments_ne_nil _ _)).symm⟩
  obtain ⟨hname, hpath⟩ := modulePathOf_eq_intercalate hparts
  refine ⟨modulePathOf r, parts.map String.ofList, hsuffix, hpath, ?_⟩
  rw [hname, String.toList_ofList]
  exact @sep_notMem_of_mem_segments _ (dropScriptSuffix r.toList) _ (by simp [hparts])

/-- What can be wrong with a name. -/
def nameFaults (name : String) : List ReferenceFault :=
  [.invalidSymbol name, .reservedWord name, .moduleName name]

theorem mem_nameFaults {name : String} (h : symbolFault? name = some fault) :
    fault ∈ nameFaults name := by
  unfold symbolFault? at h
  split at h
  · cases h
    exact List.mem_cons_self
  split at h
  · cases h
    exact List.mem_cons_of_mem _ List.mem_cons_self
  split at h
  · cases h
    exact List.mem_cons_of_mem _ (List.mem_cons_of_mem _ List.mem_cons_self)
  · cases h

/-- A fault of a name tells the name. -/
theorem eq_of_mem_nameFaults {name name' : String} (h : fault ∈ nameFaults name)
    (h' : fault ∈ nameFaults name') : name = name' := by
  simp only [nameFaults, List.mem_cons, List.not_mem_nil, or_false] at h h'
  rcases h with rfl | rfl | rfl <;> simpa using h'

/-- A name is reported if all parts are fit for a path. -/
theorem of_refusal_of_mem_nameFaults {name : String} (h : Refusal r fault)
    (hfault : fault ∈ nameFaults name) :
    (∀ part ∈ Path.parts r, IsSegment part) ∧ EndsInName r name := by
  cases h with
  | empty | leadingSlash | backslash => simp [nameFaults] at hfault
  | segment _ _ _ hpart => cases hpart <;> simp [nameFaults] at hfault
  | name hparts hname =>
    rw [eq_of_mem_nameFaults hfault (mem_nameFaults hname)]
    exact ⟨hparts, endsInName_symbolOf r⟩

/-! ## Stray characters -/

/-- A reference up to a character that no part can hold, with nothing wrong before it. -/
structure BreaksAt (r front : String) (c : Char) : Prop where
  cut : ∃ rest, r.toList = front.toList ++ c :: rest
  ne_slash : c ≠ '/'
  stray : ¬ isSegmentChar c
  chars : ∀ d ∈ front.toList, d = '/' ∨ isSegmentChar d
  closed : ∀ part ∈ (Path.parts front).dropLast, part ≠ "" ∧ part ≠ "." ∧ part ≠ ".."

/-- A part that a stray character is the fault of breaks the reference there. -/
theorem exists_breaksAt {before after : List String} {part : String} {c : Char}
    (hparts : Path.parts r = before ++ part :: after) (hbefore : ∀ part ∈ before, IsSegment part)
    (hfault : SegmentFault part (.invalidCharacter c)) : ∃ front, BreaksAt r front c := by
  cases hfault with
  | @character p q _ hpart hp hc =>
    have hsegments : segments '/' r.toList =
        before.map String.toList ++ (p ++ c :: q) :: after.map String.toList := by
      rw [← map_toList_parts, hparts, List.map_append, List.map_cons, hpart]
    have hslash : '/' ∉ p ++ c :: q :=
      @sep_notMem_of_mem_segments _ r.toList _ (by simp [hsegments])
    obtain ⟨front, rest, hr, hfront⟩ := exists_append_of_segments hsegments
    have hclosed : (Path.parts (String.ofList front)).dropLast = before := by
      simp [Path.parts, hfront, Function.comp_def]
    refine ⟨String.ofList front, ⟨rest, by rwa [String.toList_ofList]⟩, ?_, hc, fun d hd => ?_, ?_⟩
    · rintro rfl
      exact hslash (by simp)
    · rw [String.toList_ofList] at hd
      refine (mem_segments_of_mem hd).imp_right ?_
      rintro ⟨cs, hcs, hd⟩
      rw [hfront, List.mem_append, List.mem_map, List.mem_singleton] at hcs
      rcases hcs with ⟨part, hmem, rfl⟩ | rfl
      · exact isSegmentChar_iff.2 ((hbefore part hmem).chars d hd)
      · exact hp d hd
    · rw [hclosed]
      intro part hmem
      have hsegment := hbefore part hmem
      exact ⟨hsegment.ne_empty, hsegment.ne_here, hsegment.ne_above⟩

/-- Where a reference breaks, the part that is begun has the stray character for its fault. -/
theorem BreaksAt.exists_parts {front : String} {c : Char} (h : BreaksAt r front c) :
    ∃ before part after, Path.parts r = before ++ part :: after ∧
      (∀ part ∈ before, IsSegment part) ∧ SegmentFault part (.invalidCharacter c) := by
  obtain ⟨rest, hr⟩ := h.cut
  obtain ⟨parts, last, more, others, hparts, hsegments⟩ :=
    segments_append_cons h.ne_slash front.toList rest
  have hchar {part : List Char} (hpart : part ∈ parts ++ [last]) {d : Char} (hd : d ∈ part) :
      isSegmentChar d := by
    rw [← hparts] at hpart
    refine (h.chars d (mem_of_mem_segments hpart hd)).resolve_left ?_
    rintro rfl
    exact sep_notMem_of_mem_segments hpart hd
  have hall : Path.parts r = parts.map String.ofList ++
      String.ofList (last ++ c :: more) :: others.map String.ofList := by
    simp [Path.parts, hr, hsegments]
  have hclosed := h.closed
  rw [Path.parts, hparts, List.map_append, List.map_singleton, List.dropLast_concat,
    List.forall_mem_map] at hclosed
  refine ⟨_, _, _, hall, List.forall_mem_map.2 fun part hpart => ?_,
    .character (String.toList_ofList) (fun d hd => hchar (by simp) hd) h.stray⟩
  obtain ⟨hempty, hhere, habove⟩ := hclosed part hpart
  refine ⟨hempty, hhere, habove, fun d hd => isSegmentChar_iff.1 ?_⟩
  rw [String.toList_ofList] at hd
  exact hchar (List.mem_append_left _ hpart) hd

/-! ## Each reason -/

theorem refusal_empty_iff : Refusal r .empty ↔ r = "" := by
  refine ⟨fun h => ?_, .empty⟩
  cases h with
  | empty hempty => exact hempty
  | segment _ _ _ hpart => cases hpart
  | name _ hname => simpa [nameFaults] using mem_nameFaults hname

theorem refusal_leadingSlash_iff : Refusal r .leadingSlash ↔ ∃ rest, r = "/" ++ rest := by
  refine ⟨fun h => ?_, .leadingSlash⟩
  cases h with
  | leadingSlash hslash => exact hslash
  | segment _ _ _ hpart => cases hpart
  | name _ hname => simpa [nameFaults] using mem_nameFaults hname

theorem refusal_backslash_iff :
    Refusal r .backslash ↔ (¬ ∃ rest, r = "/" ++ rest) ∧ '\\' ∈ r.toList := by
  refine ⟨fun h => ?_, fun h => .backslash h.1 h.2⟩
  cases h with
  | backslash hslash hback => exact ⟨hslash, hback⟩
  | segment _ _ _ hpart => cases hpart
  | name _ hname => simpa [nameFaults] using mem_nameFaults hname

namespace IsRelative

/-- Of faults of the parts the first is reported. -/
theorem refusal_iff (h : IsRelative r) (hfault : ∀ name, fault ∉ nameFaults name) :
    Refusal r fault ↔ ∃ before part after, Path.parts r = before ++ part :: after ∧
      (∀ part ∈ before, IsSegment part) ∧ SegmentFault part fault := by
  constructor
  · intro hrefusal
    cases hrefusal with
    | empty hempty => exact absurd hempty h.ne_empty
    | leadingSlash hslash => exact absurd hslash h.notRooted
    | backslash _ hback => exact absurd hback h.noBackslash
    | segment _ hparts hbefore hpart => exact ⟨_, _, _, hparts, hbefore, hpart⟩
    | name _ hname => exact absurd (mem_nameFaults hname) (hfault _)
  · rintro ⟨before, part, after, hparts, hbefore, hpart⟩
    exact .segment h hparts hbefore hpart

theorem refusal_invalidCharacter_iff (h : IsRelative r) (c : Char) :
    Refusal r (.invalidCharacter c) ↔ ∃ front, BreaksAt r front c := by
  rw [h.refusal_iff (by simp [nameFaults])]
  constructor
  · rintro ⟨before, part, after, hparts, hbefore, hpart⟩
    exact exists_breaksAt hparts hbefore hpart
  · rintro ⟨front, hbreaks⟩
    exact hbreaks.exists_parts

theorem refusal_emptySegment_iff (h : IsRelative r) :
    Refusal r .emptySegment ↔ ∃ before after, Path.parts r = before ++ "" :: after ∧
      ∀ part ∈ before, IsSegment part := by
  rw [h.refusal_iff (by simp [nameFaults])]
  simp only [segmentFault_emptySegment_iff]
  constructor
  · rintro ⟨before, _, after, hparts, hbefore, rfl⟩
    exact ⟨before, after, hparts, hbefore⟩
  · rintro ⟨before, after, hparts, hbefore⟩
    exact ⟨before, _, after, hparts, hbefore, rfl⟩

theorem refusal_relativeSegment_iff (h : IsRelative r) :
    Refusal r .relativeSegment ↔ ∃ before part after, Path.parts r = before ++ part :: after ∧
      (∀ part ∈ before, IsSegment part) ∧ (part = "." ∨ part = "..") := by
  rw [h.refusal_iff (by simp [nameFaults])]
  simp only [segmentFault_relativeSegment_iff]

end IsRelative

/-- **The leftmost fault is the one reported.**  A leading slash and a backslash come
    before all else.  Then it is the first part that something is wrong with, or the first
    character that no part can hold, whichever ends first; and only if all parts are fit
    for a path it is the name at the end. -/
theorem Script.ofReference_refusal_spec (r : String) :
    (ofReference r = .error .empty ↔ r = "") ∧
    (ofReference r = .error .leadingSlash ↔ ∃ rest, r = "/" ++ rest) ∧
    (ofReference r = .error .backslash ↔ (¬ ∃ rest, r = "/" ++ rest) ∧ '\\' ∈ r.toList) ∧
    (IsRelative r →
      (∀ c, ofReference r = .error (.invalidCharacter c) ↔ ∃ front, BreaksAt r front c) ∧
      (ofReference r = .error .emptySegment ↔ ∃ before after,
        Path.parts r = before ++ "" :: after ∧ ∀ part ∈ before, IsSegment part) ∧
      (ofReference r = .error .relativeSegment ↔ ∃ before part after,
        Path.parts r = before ++ part :: after ∧ (∀ part ∈ before, IsSegment part) ∧
          (part = "." ∨ part = ".."))) ∧
    ∀ name, ∀ fault ∈ nameFaults name, ofReference r = .error fault →
      (∀ part ∈ Path.parts r, IsSegment part) ∧ EndsInName r name := by
  simp only [SpriteScene.refusal_iff]
  refine ⟨refusal_empty_iff, refusal_leadingSlash_iff, refusal_backslash_iff, fun h => ?_,
    fun name fault hfault h => of_refusal_of_mem_nameFaults h hfault⟩
  exact ⟨h.refusal_invalidCharacter_iff, h.refusal_emptySegment_iff, h.refusal_relativeSegment_iff⟩

/-- A reference with a space, an empty part and a step upwards, in this order. -/
theorem ofReference_refusal_brokenPath :
    Script.ofReference "ai/b c//../Walk.ts" = .error (.invalidCharacter ' ') ∧
      (∃ front, BreaksAt "ai/b c//../Walk.ts" front ' ') ∧
      Script.ofReference "ai/lib/Walk.ts.ts" = .error (.invalidSymbol "Walk.ts") ∧
      EndsInName "ai/lib/Walk.ts.ts" "Walk.ts" := by
  have hbroken : Script.ofReference "ai/b c//../Walk.ts" = .error (.invalidCharacter ' ') := by
    decide
  have hname : Script.ofReference "ai/lib/Walk.ts.ts" = .error (.invalidSymbol "Walk.ts") := by
    decide
  have hrelative : IsRelative "ai/b c//../Walk.ts" := by
    refine ⟨by decide, ?_, by decide⟩
    rw [exists_eq_slash_append_iff]
    decide
  refine ⟨hbroken, ?_, hname, ?_⟩
  · exact (((Script.ofReference_refusal_spec _).2.2.2.1 hrelative).1 ' ').1 hbroken
  · exact ((Script.ofReference_refusal_spec _).2.2.2.2 "Walk.ts" _ List.mem_cons_self hname).2

end SpriteScene
