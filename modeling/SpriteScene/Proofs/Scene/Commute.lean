/-
  Edits of different parts of a scene.

  * `Edit.part?`: the part of a scene that an edit writes to, and `Edit.perform_select`,
    `perform_modify` and `perform_catalog`: nothing else changes, and the answer depends
    on the ids, or on the catalog for an edit of the catalog;
  * `modifyFirst_comm`: two changes of the first element that each is looking for can
    change places, if neither moves what the other is looking for;
  * `Edit.perform_comm`: so edits of different parts can change places.
-/
import SpriteScene.Proofs.Scene.Target

namespace SpriteScene

/-! ## Changing the first element -/

/-- Changes the first element that satisfies a predicate, if there is one. -/
def modifyFirst (p : α → Bool) (f : α → α) (as : List α) : List α := (modifyFirst? p f as).getD as

theorem modifyFirst_cons (p : α → Bool) (f : α → α) (a : α) (as : List α) :
    modifyFirst p f (a :: as) = if p a then f a :: as else a :: modifyFirst p f as := by
  rw [modifyFirst, modifyFirst?]
  split
  · rfl
  · cases hrest : modifyFirst? p f as <;> simp [modifyFirst, hrest]

theorem map_modifyFirst {p : α → Bool} {f : α → α} {g : α → β} (hg : ∀ a, g (f a) = g a)
    (as : List α) : (modifyFirst p f as).map g = as.map g := by
  induction as with
  | nil => rfl
  | cons a as ih =>
    rw [modifyFirst_cons]
    split
    · rw [List.map_cons, List.map_cons, hg]
    · rw [List.map_cons, List.map_cons, ih]

/-- Two changes can change places if neither moves what the other is looking for, and they
    can change places on an element that both may meet. -/
theorem modifyFirst_comm {p q : α → Bool} {f g : α → α} (hp : ∀ a, p (g a) = p a)
    (hq : ∀ a, q (f a) = q a) (hfg : ∀ a, p a → q a → g (f a) = f (g a)) (as : List α) :
    modifyFirst q g (modifyFirst p f as) = modifyFirst p f (modifyFirst q g as) := by
  induction as with
  | nil => rfl
  | cons a as ih =>
    by_cases hpa : p a <;> by_cases hqa : q a
    · simp [modifyFirst_cons, hp, hq, hpa, hqa, hfg]
    · simp [modifyFirst_cons, hq, hpa, hqa]
    · simp [modifyFirst_cons, hp, hpa, hqa]
    · simp [modifyFirst_cons, hpa, hqa, ih]

theorem modifyFirst_eq_self {p : α → Bool} {as : List α} (h : ∀ a ∈ as, p a = false)
    (f : α → α) : modifyFirst p f as = as := by
  induction as with
  | nil => rfl
  | cons a as ih =>
    rw [List.forall_mem_cons] at h
    rw [modifyFirst_cons, h.1, if_neg Bool.false_ne_true, ih h.2]

theorem Scene.modifyObject_eq (s : Scene) (id : UInt64) (f : SceneObject → SceneObject) :
    s.modifyObject id f =
      if id ∈ s.ids then (.ok (), { s with objects := modifyFirst (·.id = id) f s.objects })
      else (.error (.unknownObject id), s) := by
  by_cases hid : id ∈ s.ids
  · obtain ⟨s', h⟩ := exists_modifyObject f hid
    rw [if_pos hid, h]
    rw [modifyObject] at h
    split at h
    · rename_i objects hobjects
      rw [modifyFirst, hobjects, Option.getD_some]
      exact h.symm
    · cases h
  · rw [if_neg hid]
    exact modifyObject_eq_error_iff.2 ⟨hid, rfl, rfl⟩

/-! ## One edit -/

namespace Edit

/-- A part of a scene that an edit can write to. -/
inductive Part where
  | selection
  | catalog
  /-- The position of the object of an id. -/
  | position (id : UInt64)
  /-- The scripts of the object of an id. -/
  | scripts (id : UInt64)
deriving DecidableEq

/-- The part of a scene that an edit writes to; none if it makes a new object. -/
def part? : Edit → Option Part
  | .select _ => some .selection
  | .catalog _ => some .catalog
  | .move id _ => some (.position id)
  | .attach id _ => some (.scripts id)
  | .add _ | .append _ => none

/-- The answer of an edit of the object of an id, among objects of the given ids. -/
def answerAt (ids : List UInt64) (id : UInt64) : Except EditFault Answer :=
  if id ∈ ids then .ok .done else .error (.unknownObject id)

/-- The selection after an object of an id was to be selected. -/
def selectionAt (ids : List UInt64) (id : UInt64) (selected : Option UInt64) : Option UInt64 :=
  if id ∈ ids then some id else selected

/-- The catalog after a script was to be listed. -/
def catalogWith (reference : String) (catalog : List String) : List String :=
  if reference ∈ catalog then catalog else catalog ++ [reference]

theorem perform_select (s : Scene) (id : UInt64) : perform s (.select id) =
    (answerAt s.ids id, { s with selected := selectionAt s.ids id s.selected }) := by
  by_cases hid : id ∈ s.ids
  · have hselect := Scene.select_eq_ok_iff.2 ⟨hid, rfl⟩
    simp [perform, hselect, answered, answerAt, selectionAt, hid]
  · have hselect := Scene.select_eq_error_iff.2 ⟨hid, rfl, rfl⟩
    simp [perform, hselect, answered, answerAt, selectionAt, hid]

theorem perform_catalog (s : Scene) (reference : String) : perform s (.catalog reference) =
    (.ok (.catalogued (reference ∉ s.catalog)),
      { s with catalog := catalogWith reference s.catalog }) := by
  by_cases hmem : reference ∈ s.catalog <;> simp [perform, Scene.addScript, catalogWith, hmem]

/-- An edit of the object of an id, be it refused or not. -/
theorem perform_modify {e : Edit} {id : UInt64} {f : SceneObject → SceneObject}
    (he : ∀ s, e.perform s = answered (s.modifyObject id f)) (s : Scene) : e.perform s =
      (answerAt s.ids id, { s with objects := modifyFirst (·.id = id) f s.objects }) := by
  rw [he, Scene.modifyObject_eq]
  by_cases hid : id ∈ s.ids
  · simp [answered, answerAt, hid]
  · have hne : ∀ o ∈ s.objects, decide (o.id = id) = false := fun o ho =>
      decide_eq_false fun heq => hid (heq ▸ List.mem_map_of_mem ho)
    have hnone := modifyFirst_eq_self hne f
    simp [answered, answerAt, hid, hnone]

/-! ## Two edits -/

/-- Whether two edits answer the same in either order, and lead to the same scene. -/
def Commutes (e e' : Edit) : Prop :=
  ∀ s, (e.perform (e'.perform s).2).1 = (e.perform s).1 ∧
    (e'.perform (e.perform s).2).1 = (e'.perform s).1 ∧
    (e'.perform (e.perform s).2).2 = (e.perform (e'.perform s).2).2

theorem Commutes.symm {e e' : Edit} (h : e.Commutes e') : e'.Commutes e := fun s =>
  ⟨(h s).2.1, (h s).1, (h s).2.2.symm⟩

section
variable {e e' : Edit} {id id' : UInt64} {f f' : SceneObject → SceneObject}
  (he : ∀ s, e.perform s = answered (s.modifyObject id f)) (hf : ∀ o, (f o).id = o.id)

include he hf

theorem commutes_modify (he' : ∀ s, e'.perform s = answered (s.modifyObject id' f'))
    (hf' : ∀ o, (f' o).id = o.id) (hff' : ∀ o, o.id = id → o.id = id' → f' (f o) = f (f' o)) :
    e.Commutes e' := by
  intro s
  have hids := map_modifyFirst (p := (·.id = id)) hf s.objects
  have hids' := map_modifyFirst (p := (·.id = id')) hf' s.objects
  simp only [perform_modify he, perform_modify he', Scene.ids, hids, hids', true_and]
  refine congrArg (fun objects => { s with objects := objects }) ?_
  refine modifyFirst_comm (fun o => by rw [hf']) (fun o => by rw [hf]) (fun o ho ho' => ?_) _
  exact hff' o (of_decide_eq_true ho) (of_decide_eq_true ho')

theorem commutes_modify_select (id' : UInt64) : e.Commutes (.select id') := by
  intro s
  have hids := map_modifyFirst (p := (·.id = id)) hf s.objects
  simp only [perform_modify he, perform_select, Scene.ids, hids, and_self]

omit hf in
theorem commutes_modify_catalog (reference : String) : e.Commutes (.catalog reference) := by
  intro s
  simp only [perform_modify he, perform_catalog, Scene.ids, and_self]

end

theorem commutes_select_catalog (id : UInt64) (reference : String) :
    Commutes (.select id) (.catalog reference) := by
  intro s
  simp only [perform_select, perform_catalog, Scene.ids, and_self]

/-- **Edits of different parts of a scene can change places.**  That is, any two selections,
    moves, attachments and listings that are not two selections, two listings, two moves of
    one id or two attachments to one id: in either order, each answers or is refused as in
    the other, and the scene after both is the same. -/
theorem perform_comm {e e' : Edit} {part part' : Part} (he : e.part? = some part)
    (he' : e'.part? = some part') (hne : part ≠ part') (s : Scene) :
    (e.perform (e'.perform s).2).1 = (e.perform s).1 ∧
    (e'.perform (e.perform s).2).1 = (e'.perform s).1 ∧
    (e'.perform (e.perform s).2).2 = (e.perform (e'.perform s).2).2 := by
  suffices hcomm : e.Commutes e' from hcomm s
  have hmove (id : UInt64) (p : Position) : ∀ s, (move id p).perform s =
      answered (s.modifyObject id fun o => { o with position := p }) := fun _ => rfl
  have hattach (id : UInt64) (reference : String) : ∀ s, (attach id reference).perform s =
      answered (s.modifyObject id fun o => { o with scripts := o.scripts ++ [reference] }) :=
    fun _ => rfl
  cases e <;> cases e' <;> cases he <;> cases he'
  case select.select | catalog.catalog => exact absurd rfl hne
  case select.catalog id reference => exact commutes_select_catalog id reference
  case catalog.select reference id => exact (commutes_select_catalog id reference).symm
  case select.move id id' p =>
    exact (commutes_modify_select (hmove id' p) (fun _ => rfl) id).symm
  case move.select id p id' => exact commutes_modify_select (hmove id p) (fun _ => rfl) id'
  case select.attach id id' reference =>
    exact (commutes_modify_select (hattach id' reference) (fun _ => rfl) id).symm
  case attach.select id reference id' =>
    exact commutes_modify_select (hattach id reference) (fun _ => rfl) id'
  case catalog.move reference id p => exact (commutes_modify_catalog (hmove id p) reference).symm
  case move.catalog id p reference => exact commutes_modify_catalog (hmove id p) reference
  case catalog.attach reference id attached =>
    exact (commutes_modify_catalog (hattach id attached) reference).symm
  case attach.catalog id attached reference =>
    exact commutes_modify_catalog (hattach id attached) reference
  -- what is changed first is found under its own id, so two ids never mean one object
  case move.move id p id' p' =>
    refine commutes_modify (hmove id p) (fun _ => rfl) (hmove id' p') (fun _ => rfl) ?_
    exact fun o ho ho' => absurd (congrArg Part.position (ho.symm.trans ho')) hne
  case attach.attach id reference id' reference' =>
    refine commutes_modify (hattach id reference) (fun _ => rfl) (hattach id' reference')
      (fun _ => rfl) ?_
    exact fun o ho ho' => absurd (congrArg Part.scripts (ho.symm.trans ho')) hne
  case move.attach id p id' reference =>
    exact commutes_modify (hmove id p) (fun _ => rfl) (hattach id' reference) (fun _ => rfl)
      fun _ _ _ => rfl
  case attach.move id reference id' p =>
    exact commutes_modify (hattach id reference) (fun _ => rfl) (hmove id' p) (fun _ => rfl)
      fun _ _ _ => rfl

/-- A move and an attachment meet at the first object of an id that two have; an
    attachment to an id that no object has is refused in either order. -/
theorem perform_comm_twinScene :
    part? (attach 7 "B.ts") = some (.scripts 7) ∧
    part? (move 7 ⟨.nan, .infinite true⟩) = some (.position 7) ∧
    ((move 7 ⟨.nan, .infinite true⟩).perform
      ((attach 7 "B.ts").perform Scene.twinScene).2).2.objects =
        [⟨0xfffffffffffffffe, "Far", .origin, []⟩,
          ⟨7, "First", ⟨.nan, .infinite true⟩, ["A.ts", "B.ts"]⟩, ⟨7, "Second", .origin, []⟩] ∧
    ((attach 8 "B.ts").perform ((move 7 ⟨.nan, .infinite true⟩).perform Scene.twinScene).2).1 =
      .error (.unknownObject 8) := by
  have hmove : part? (move 7 ⟨.nan, .infinite true⟩) = some (.position 7) := rfl
  have hattach (id : UInt64) : part? (attach id "B.ts") = some (.scripts id) := rfl
  have hmet := perform_comm (hattach 7) hmove (by decide) Scene.twinScene
  have hrefused := perform_comm (hattach 8) hmove (by decide) Scene.twinScene
  exact ⟨hattach 7, hmove, by rw [hmet.2.2]; decide, hrefused.1.trans (by decide)⟩

end Edit

end SpriteScene
