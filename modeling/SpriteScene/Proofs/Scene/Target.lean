/-
  The object that an edit by id means.

  * `Scene.object?_eq_some_iff`: it is the first one that has the id, the one that a
    look at the scene finds;
  * `Scene.ChangedAt`: whether that object has changed and all else is as it was, and
    `Scene.exists_changedAt_of_modifyObject`: an edit of an object does that, or is
    refused because there is none (`Scene.modifyObject_eq_error_iff`);
  * `Scene.lt_nextId` and `Scene.object?_addObject`: a new object is behind all others
    in id and in order, so it hides none of them;
  * `Scene.edits_by_id` puts these together.
-/
import SpriteScene.Proofs.Scene.Issues

namespace SpriteScene.Scene

variable {s s' : Scene} {id : UInt64} {f : SceneObject → SceneObject}

/-! ## Looking -/

theorem object?_eq_some_iff {o : SceneObject} : s.object? id = some o ↔
    ∃ before after, s.objects = before ++ o :: after ∧ (∀ b ∈ before, b.id ≠ id) ∧ o.id = id := by
  rw [object?, List.find?_eq_some_iff_append]
  constructor
  · rintro ⟨ho, before, after, hobjects, hbefore⟩
    exact ⟨before, after, hobjects, by simpa using hbefore, by simpa using ho⟩
  · rintro ⟨before, after, hobjects, hbefore, ho⟩
    exact ⟨by simpa using ho, before, after, hobjects, by simpa using hbefore⟩

theorem exists_object?_iff : (∃ o, s.object? id = some o) ↔ id ∈ s.ids := by
  rw [← Option.isSome_iff_exists, isSome_object?_iff]

/-! ## Changing one object -/

/-- Whether the object of an id has changed and all else is as it was.  Before and after
    it is the one that is found under the id; under every other id the same object is
    found. -/
def ChangedAt (s s' : Scene) (id : UInt64) (f : SceneObject → SceneObject) : Prop :=
  ∃ before o after, s.objects = before ++ o :: after ∧ (∀ b ∈ before, b.id ≠ id) ∧
    s' = { s with objects := before ++ f o :: after } ∧
    s.object? id = some o ∧ s'.object? id = some (f o) ∧
    ∀ other, other ≠ id → s'.object? other = s.object? other

theorem changedAt_of_modifyObject (hf : ∀ o, (f o).id = o.id)
    (h : s.modifyObject id f = (.ok (), s')) : s.ChangedAt s' id f := by
  obtain ⟨before, o, after, hobjects, hbefore, ho, rfl⟩ := modifyObject_eq_ok_iff.1 h
  refine ⟨before, o, after, hobjects, hbefore, rfl, ?_, ?_, fun other hother => ?_⟩
  · exact object?_eq_some_iff.2 ⟨before, after, hobjects, hbefore, ho⟩
  · exact object?_eq_some_iff.2 ⟨before, after, rfl, hbefore, (hf o).trans ho⟩
  · have hne : o.id ≠ other := fun heq => hother (heq ▸ ho.symm ▸ rfl)
    simp [object?, hobjects, List.find?_append, hf, hne]

theorem exists_modifyObject (f : SceneObject → SceneObject) (hid : id ∈ s.ids) :
    ∃ s', s.modifyObject id f = (.ok (), s') := by
  obtain ⟨o, ho⟩ := exists_object?_iff.2 hid
  obtain ⟨before, after, hobjects, hbefore, ho⟩ := object?_eq_some_iff.1 ho
  exact ⟨_, modifyObject_eq_ok_iff.2 ⟨before, o, after, hobjects, hbefore, ho, rfl⟩⟩

theorem exists_changedAt_of_modifyObject (hf : ∀ o, (f o).id = o.id) (hid : id ∈ s.ids) :
    ∃ s', s.modifyObject id f = (.ok (), s') ∧ s.ChangedAt s' id f := by
  obtain ⟨s', h⟩ := exists_modifyObject f hid
  exact ⟨s', h, changedAt_of_modifyObject hf h⟩

/-! ## Adding an object -/

/-- A new id is past all others. -/
theorem lt_nextId (h : s.HasRoom 1) : ∀ other ∈ s.ids, other < s.nextId := by
  intro other hother
  rcases nextId_cases h with ⟨hnil, -⟩ | ⟨largest, -, hle, hnext⟩
  · rw [hnil] at hother
    cases hother
  · have hbound := UInt64.le_iff_toNat_le.1 (hle other hother)
    rw [UInt64.lt_iff_toNat_lt]
    omega

/-- A new object is found under its id, and hides no other. -/
theorem object?_addObject (h : s.HasRoom 1) (name : String) (other : UInt64) :
    (s.addObject name).object? other =
      if other = s.nextId then some ⟨s.nextId, name, .origin, []⟩ else s.object? other := by
  have hobjects : (s.addObject name).objects = s.objects ++ [⟨s.nextId, name, .origin, []⟩] := rfl
  have hnew : s.object? s.nextId = none := by
    rw [← Option.not_isSome_iff_eq_none, Option.isSome_iff_exists, exists_object?_iff]
    exact nextId_notMem_ids h
  have hfind : (s.addObject name).object? other = (s.object? other).or
      (if s.nextId = other then some ⟨s.nextId, name, .origin, []⟩ else none) := by
    rw [object?, hobjects, List.find?_append, ← object?]
    by_cases hother : s.nextId = other <;> simp [hother]
  rw [hfind]
  by_cases hother : other = s.nextId
  · subst hother
    simp [hnew]
  · rw [if_neg (Ne.symm hother), if_neg hother, Option.or_none]

/-! ## All edits -/

/-- An edit by id is refused iff no object has the id. -/
theorem perform_eq_error_iff {e : Edit} {p : Position} {reference : String} {fault : EditFault}
    (he : e ∈ [.select id, .move id p, .attach id reference]) :
    e.perform s = (.error fault, s') ↔ id ∉ s.ids ∧ fault = .unknownObject id ∧ s' = s := by
  simp only [List.mem_cons, List.not_mem_nil, or_false] at he
  rcases he with rfl | rfl | rfl
  · exact Edit.answered_eq_error_iff.trans select_eq_error_iff
  · exact Edit.answered_eq_error_iff.trans modifyObject_eq_error_iff
  · exact Edit.answered_eq_error_iff.trans modifyObject_eq_error_iff

/-- **An edit by id changes one object, or nothing at all.**  It is refused iff no object
    has the id, and then the scene is what it was.  Otherwise a selection changes the
    selection, and a move or a script that is attached changes the position or the
    scripts of the first object that has the id, which is the one found under it before
    and after; nothing else changes.  As long as there are ids, a new object gets one that
    is greater than all others, stands behind the others at the origin, and leaves what is
    found under other ids. -/
theorem edits_by_id (s : Scene) (id : UInt64) (p : Position) (reference name : String) :
    (∀ e ∈ [Edit.select id, .move id p, .attach id reference],
      ((e.perform s).1 = .error (.unknownObject id) ↔ id ∉ s.ids) ∧
      (id ∉ s.ids → e.perform s = (.error (.unknownObject id), s))) ∧
    (id ∈ s.ids →
      s.select id = (.ok (), { s with selected := some id }) ∧
      (∃ s', s.moveObject id p = (.ok (), s') ∧
        s.ChangedAt s' id fun o => { o with position := p }) ∧
      ∃ s', s.attachScript id reference = (.ok (), s') ∧
        s.ChangedAt s' id fun o => { o with scripts := o.scripts ++ [reference] }) ∧
    ((∀ other ∈ s.ids, other.toNat + 1 < UInt64.size) → ∃ new s',
      Edit.perform s (.add name) = (.ok (.added new), s') ∧ (∀ other ∈ s.ids, other < new) ∧
      s' = { s with objects := s.objects ++ [⟨new, name, .origin, []⟩] } ∧
      s'.object? new = some ⟨new, name, .origin, []⟩ ∧
      ∀ other, other ≠ new → s'.object? other = s.object? other) := by
  refine ⟨fun e he => ?_, fun hid => ⟨?_, ?_, ?_⟩, fun hlt => ?_⟩
  · have hrefused (hid : id ∉ s.ids) : e.perform s = (.error (.unknownObject id), s) :=
      (perform_eq_error_iff he).2 ⟨hid, rfl, rfl⟩
    refine ⟨⟨fun h => ?_, fun hid => congrArg Prod.fst (hrefused hid)⟩, hrefused⟩
    exact ((perform_eq_error_iff he).1 (Prod.ext h rfl)).1
  · exact select_eq_ok_iff.2 ⟨hid, rfl⟩
  · exact exists_changedAt_of_modifyObject (f := fun o => { o with position := p })
      (fun _ => rfl) hid
  · exact exists_changedAt_of_modifyObject
      (f := fun o => { o with scripts := o.scripts ++ [reference] }) (fun _ => rfl) hid
  · have hroom : s.HasRoom 1 := ⟨by decide, hlt⟩
    have hfind := object?_addObject hroom name
    refine ⟨s.nextId, s.addObject name, rfl, lt_nextId hroom, rfl, ?_, fun other hother => ?_⟩
    · rw [hfind, if_pos rfl]
    · rw [hfind, if_neg hother]

/-- Ids that are huge, not in order and not distinct; the second object of id 7 is never
    found. -/
def twinScene : Scene where
  project := none
  objects := [⟨0xfffffffffffffffe, "Far", .origin, []⟩, ⟨7, "First", .origin, ["A.ts"]⟩,
    ⟨7, "Second", .origin, []⟩]
  selected := some 3
  catalog := []

theorem edits_by_id_twinScene :
    (∀ other ∈ twinScene.ids, other.toNat + 1 < UInt64.size) ∧
    7 ∈ twinScene.ids ∧ 8 ∉ twinScene.ids ∧
    Edit.perform twinScene (.attach 8 "B.ts") = (.error (.unknownObject 8), twinScene) ∧
    (∃ s', twinScene.attachScript 7 "B.ts" = (.ok (), s') ∧
      s'.object? 7 = some ⟨7, "First", .origin, ["A.ts", "B.ts"]⟩) ∧
    ∃ s', Edit.perform twinScene (.add "New") = (.ok (.added 0xffffffffffffffff), s') ∧
      s'.object? 7 = twinScene.object? 7 := by
  have hlt : ∀ other ∈ twinScene.ids, other.toNat + 1 < UInt64.size := by
    have hids : twinScene.ids = [0xfffffffffffffffe, 7, 7] := rfl
    simp [hids, UInt64.size]
  have hmem : 7 ∈ twinScene.ids := by decide
  have hnone : 8 ∉ twinScene.ids := by decide
  obtain ⟨hrefused, -, -⟩ := edits_by_id twinScene 8 .origin "B.ts" "New"
  obtain ⟨-, hfound, hadded⟩ := edits_by_id twinScene 7 .origin "B.ts" "New"
  refine ⟨hlt, hmem, hnone, (hrefused (.attach 8 "B.ts") (by simp)).2 hnone, ?_, ?_⟩
  · obtain ⟨-, -, s', hs', -, o, -, -, -, -, ho, ho', -⟩ := hfound hmem
    cases ho
    exact ⟨s', hs', ho'⟩
  · obtain ⟨new, s', hs', -, -, -, hothers⟩ := hadded hlt
    cases hs'
    exact ⟨_, rfl, hothers 7 (by decide)⟩

end SpriteScene.Scene
