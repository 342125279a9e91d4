/-
  A scene is what the history of its edits tells.

  * A `History` is a scene with the edits that were carried out on it and their
    answers; `Scene.history` is the one of edits in order, where an edit that is
    refused leaves no trace;
  * `History.additions`, `moves`, `attachments`, `selections` and `listings` read what
    was done, and `History.objectOf` is the object that they tell of;
  * `History.Tells`: the scene is the one of which its history tells.  An edit keeps
    this up (`Tells.next`), so every history from a blank scene does
    (`Scene.tells_history`);
  * `Scene.told_by_history` says it for the questions that a scene can be asked.
-/
import Mathlib.Data.List.Induction
import SpriteScene.Proofs.Scene.Tidy

namespace SpriteScene

/-! ## Objects with distinct ids -/

/-- If only one element satisfies the predicate, all that satisfy it are changed. -/
theorem modifyFirst?_eq_map {p : α → Bool} {f : α → α} {as bs : List α}
    (hone : as.Pairwise fun a b => p a = true → p b = false) (h : modifyFirst? p f as = some bs) :
    bs = as.map fun a => if p a then f a else a := by
  obtain ⟨before, a, after, rfl, hbefore, ha, rfl⟩ := modifyFirst?_eq_some_iff.1 h
  obtain ⟨-, hafter, -⟩ := List.pairwise_append.1 hone
  have hbefore' : before.map (fun b => if p b then f b else b) = before := by
    refine (List.map_congr_left fun b hb => ?_).trans (List.map_id before)
    simp [hbefore b hb]
  have hafter' : after.map (fun b => if p b then f b else b) = after := by
    refine (List.map_congr_left fun b hb => ?_).trans (List.map_id after)
    simp [(List.pairwise_cons.1 hafter).1 b hb ha]
  rw [List.map_append, List.map_cons, hbefore', hafter', if_pos ha]

namespace Scene

variable {s s' : Scene} {id : UInt64}

theorem objects_modifyObject_of_nodup {f : SceneObject → SceneObject} (hids : s.ids.Nodup)
    (h : s.modifyObject id f = (.ok (), s')) :
    s'.objects = s.objects.map fun o => if o.id = id then f o else o := by
  rw [modifyObject] at h
  split at h
  · rename_i objects hobjects
    cases h
    have hone : s.objects.Pairwise fun a b =>
        decide (a.id = id) = true → decide (b.id = id) = false := by
      refine (List.pairwise_map.1 hids).imp fun {a b} hne ha => ?_
      simp only [decide_eq_true_eq] at ha
      simpa using fun hb => hne (ha.trans hb.symm)
    simpa using modifyFirst?_eq_map hone hobjects
  · cases h

/-- The object of an id is the one that has it. -/
theorem object?_of_mem {o : SceneObject} (hids : s.ids.Nodup) (ho : o ∈ s.objects) :
    s.object? o.id = some o := by
  obtain ⟨before, after, hobjects⟩ := List.append_of_mem ho
  rw [object?, List.find?_eq_some_iff_append]
  refine ⟨by simp, before, after, hobjects, fun b hb => ?_⟩
  rw [ids, hobjects, List.map_append, List.nodup_append] at hids
  have hne : b.id ≠ o.id :=
    hids.2.2 _ (List.mem_map_of_mem hb) _ (List.mem_map_of_mem List.mem_cons_self)
  simpa using hne

theorem IsNumbered.nextId_notMem (h : s.IsNumbered)
    (hlt : s.objects.length + 1 < UInt64.size) : s.nextId ∉ s.ids := by
  intro hmem
  have hnumber := List.mem_map_of_mem (f := UInt64.toNat) hmem
  rw [h (by omega), h.toNat_nextId hlt, List.mem_range'_1] at hnumber
  omega

end Scene

/-! ## Histories -/

/-- The name of the object that an edit adds. -/
def Edit.addedName? : Edit → Option String
  | .add name => some name
  | _ => none

/-- The script that an edit wants the catalog to list. -/
def Edit.listed? : Edit → Option String
  | .catalog reference => some reference
  | _ => none

/-- Neither additions nor edits of the catalog are ever refused. -/
theorem Edit.eq_none_of_refused {e : Edit} {s s' : Scene} {fault : EditFault}
    (h : e.perform s = (.error fault, s')) : e.addedName? = none ∧ e.listed? = none := by
  cases e with
  | add | catalog | append => cases h
  | select | move | attach => exact ⟨rfl, rfl⟩

/-- A scene and how it came about. -/
structure History where
  /-- The edits that were carried out and what they answered, the oldest first. -/
  done : List (Edit × Answer)
  scene : Scene

namespace History

/-- The history with one more edit; an edit that is refused is not told of. -/
def next (h : History) (e : Edit) : History :=
  match e.perform h.scene with
  | (.ok answer, scene) => ⟨h.done ++ [(e, answer)], scene⟩
  | (.error _, scene) => { h with scene }

/-- The objects that were added: the ids that were answered, and the names. -/
def additions (h : History) : List (UInt64 × String) :=
  h.done.filterMap fun
    | (.add name, .added id) => some (id, name)
    | _ => none

/-- Where the object of an id was moved to. -/
def moves (h : History) (id : UInt64) : List Position :=
  h.done.filterMap fun
    | (.move id' p, _) => if id' = id then some p else none
    | _ => none

/-- The scripts that were attached to the object of an id. -/
def attachments (h : History) (id : UInt64) : List String :=
  h.done.filterMap fun
    | (.attach id' reference, _) => if id' = id then some reference else none
    | _ => none

/-- The ids of the objects that were selected. -/
def selections (h : History) : List UInt64 :=
  h.done.filterMap fun
    | (.select id, _) => some id
    | _ => none

/-- The scripts that the catalog was to list. -/
def listings (h : History) : List String := h.done.filterMap (·.1.listed?)

/-- The object that was added under an id and a name: it stands where it was last moved
    to, or at the origin, and has the scripts that were attached to it. -/
def objectOf (h : History) (id : UInt64) (name : String) : SceneObject :=
  ⟨id, name, (h.moves id).getLast?.getD .origin, h.attachments id⟩

end History

/-- The history of edits in order. -/
def Scene.history (s : Scene) (es : List Edit) : History := es.foldl History.next ⟨[], s⟩

theorem Scene.history_concat (s : Scene) (es : List Edit) (e : Edit) :
    s.history (es ++ [e]) = (s.history es).next e := by
  simp [history]

namespace History

variable {h : History} {e : Edit} {s : Scene} {answer : Answer}

theorem next_of_ok (he : e.perform h.scene = (.ok answer, s)) :
    h.next e = ⟨h.done ++ [(e, answer)], s⟩ := by
  rw [next, he]

/-- An edit that is refused leaves no trace. -/
theorem next_of_error {fault : EditFault} (he : e.perform h.scene = (.error fault, s)) :
    h.next e = h := by
  obtain rfl := Edit.eq_of_refused he
  rw [next, he]

theorem mem_additions {id : UInt64} {name : String} :
    (id, name) ∈ h.additions ↔ (.add name, .added id) ∈ h.done := by
  rw [additions, List.mem_filterMap]
  constructor
  · rintro ⟨⟨e, answer⟩, hmem, heq⟩
    split at heq
    · rename_i hdone
      cases heq
      exact hdone ▸ hmem
    · cases heq
  · intro hmem
    exact ⟨_, hmem, rfl⟩

/-- What was done stays done. -/
theorem done_prefix_next (h : History) (e : Edit) : h.done <+: (h.next e).done := by
  rcases e.perform_cases h.scene with ⟨fault, he⟩ | ⟨answer, s, he⟩
  · rw [next_of_error he]
  · rw [next_of_ok he]
    exact List.prefix_append _ _

/-- An edit adds its name, if it has one. -/
theorem names_next (h : History) (e : Edit) :
    (h.next e).additions.map Prod.snd = h.additions.map Prod.snd ++ e.addedName?.toList := by
  rcases e.perform_cases h.scene with ⟨fault, he⟩ | ⟨answer, s, he⟩
  · simp [next_of_error he, Edit.eq_none_of_refused he]
  · rw [next_of_ok he]
    cases e with
    | add =>
      cases he
      simp [additions, Edit.addedName?]
    | select | move | attach | catalog | append => simp [additions, Edit.addedName?]

/-- An edit lists its script, if it has one to list. -/
theorem listings_next (h : History) (e : Edit) :
    (h.next e).listings = h.listings ++ e.listed?.toList := by
  rcases e.perform_cases h.scene with ⟨fault, he⟩ | ⟨answer, s, he⟩
  · simp [next_of_error he, Edit.eq_none_of_refused he]
  · rw [next_of_ok he]
    cases hlisted : e.listed? <;> simp [listings, hlisted]

/-! ## One edit -/

/-- Whether the scene is the one of which its history tells. -/
structure Tells (h : History) : Prop where
  isNumbered : h.scene.IsNumbered
  objects_eq : h.scene.objects = h.additions.map fun a => h.objectOf a.1 a.2
  /-- Of an id that no object has, the history tells nothing. -/
  objectOf_of_notMem : ∀ id, id ∉ h.scene.ids → ∀ name, h.objectOf id name = ⟨id, name, .origin, []⟩
  selected_eq : h.scene.selected = h.selections.getLast?
  selected_mem : ∀ id ∈ h.scene.selected, id ∈ h.scene.ids
  catalog_eq : h.scene.catalog = h.listings.eraseDups

theorem tells_start (project : Option String) :
    Tells ⟨[], { Scene.empty with project := project }⟩ where
  isNumbered := (Scene.isTidy_blank project).isNumbered
  objects_eq := rfl
  objectOf_of_notMem _ _ _ := rfl
  selected_eq := rfl
  selected_mem := (Scene.isTidy_blank project).selected_mem
  catalog_eq := rfl

theorem Tells.next_add (ht : h.Tells) (name : String)
    (hlt : h.scene.objects.length + 1 < UInt64.size) : (h.next (.add name)).Tells := by
  have hnext : h.next (.add name) =
      ⟨h.done ++ [(.add name, .added h.scene.nextId)], h.scene.addObject name⟩ := rfl
  have hids := h.scene.ids_addObject name
  have hobjectOf : (h.next (.add name)).objectOf = h.objectOf := by
    funext id name'
    simp [hnext, objectOf, moves, attachments]
  constructor
  · exact ht.isNumbered.addObject name
  · -- the new object has the next id, of which the history has not told yet
    have hnew := ht.objectOf_of_notMem _ (ht.isNumbered.nextId_notMem hlt) name
    have hobjects : (h.scene.addObject name).objects =
        h.scene.objects ++ [h.objectOf h.scene.nextId name] := by
      rw [hnew]
      rfl
    have hadditions : (h.next (.add name)).additions = h.additions ++ [(h.scene.nextId, name)] := by
      simp [hnext, additions]
    rw [hobjectOf, hadditions, hnext, hobjects, ht.objects_eq]
    simp
  · intro id hid
    rw [hnext, hids, List.mem_append, not_or] at hid
    rw [hobjectOf]
    exact ht.objectOf_of_notMem id hid.1
  · have hselections : (h.next (.add name)).selections = h.selections := by
      simp [hnext, selections]
    rw [hselections]
    exact ht.selected_eq
  · intro id hid
    rw [hnext, hids]
    exact List.mem_append_left _ (ht.selected_mem id hid)
  · have hlistings : (h.next (.add name)).listings = h.listings := by
      simp [hnext, listings, Edit.listed?]
    rw [hlistings]
    exact ht.catalog_eq

/-- An edit that leaves the objects alone only has to keep up selection and catalog. -/
theorem Tells.of_objects_eq {h' : History} (ht : h.Tells)
    (hobjects : h'.scene.objects = h.scene.objects) (hadditions : h'.additions = h.additions)
    (hobjectOf : h'.objectOf = h.objectOf)
    (hselected : h'.scene.selected = h'.selections.getLast?)
    (hmem : ∀ id ∈ h'.scene.selected, id ∈ h.scene.ids)
    (hcatalog : h'.scene.catalog = h'.listings.eraseDups) : h'.Tells := by
  have hids : h'.scene.ids = h.scene.ids := by rw [Scene.ids, hobjects, Scene.ids]
  refine ⟨ht.isNumbered.of_ids_eq hids, ?_, ?_, hselected, ?_, hcatalog⟩
  · rw [hobjects, hadditions, hobjectOf]
    exact ht.objects_eq
  · rw [hids, hobjectOf]
    exact ht.objectOf_of_notMem
  · rwa [hids]

theorem Tells.next_select (ht : h.Tells) {id : UInt64}
    (hselect : h.scene.select id = (.ok (), s)) : (h.next (.select id)).Tells := by
  have he : Edit.perform h.scene (.select id) = (.ok .done, s) :=
    Edit.answered_eq_ok_iff.2 ⟨rfl, hselect⟩
  obtain ⟨hid, rfl⟩ := Scene.select_eq_ok_iff.1 hselect
  rw [next_of_ok he]
  refine ht.of_objects_eq rfl ?_ ?_ ?_ ?_ ?_
  · simp [additions]
  · funext id' name
    simp [objectOf, moves, attachments]
  · simp [selections]
  · rintro _ ⟨⟩
    exact hid
  · simpa [listings, Edit.listed?] using ht.catalog_eq

theorem Tells.next_catalog (ht : h.Tells) (reference : String) :
    (h.next (.catalog reference)).Tells := by
  have hsame : (h.scene.addScript reference).objects = h.scene.objects ∧
      (h.scene.addScript reference).selected = h.scene.selected := by
    rw [Scene.addScript]
    split <;> exact ⟨rfl, rfl⟩
  rw [next_of_ok rfl]
  refine ht.of_objects_eq hsame.1 ?_ ?_ ?_ ?_ ?_
  · simp [additions]
  · funext id' name
    simp [objectOf, moves, attachments]
  · simpa [hsame.2, selections] using ht.selected_eq
  · rw [hsame.2]
    exact ht.selected_mem
  · have hlistings : (h.next (.catalog reference)).listings = h.listings ++ [reference] := by
      simp [next, Edit.perform, listings, Edit.listed?]
    have hmem : reference ∈ h.scene.catalog ↔ reference ∈ h.listings := by
      rw [ht.catalog_eq, List.mem_eraseDups]
    show (h.scene.addScript reference).catalog = (h.next (.catalog reference)).listings.eraseDups
    rw [hlistings, eraseDups_concat, Scene.addScript]
    by_cases hlisted : reference ∈ h.scene.catalog
    · rw [if_pos hlisted, if_pos (hmem.1 hlisted)]
      exact ht.catalog_eq
    · rw [if_neg hlisted, if_neg fun h' => hlisted (hmem.2 h'), ← ht.catalog_eq]

/-- An edit of the object of an id keeps scene and history together, if the history
    tells of that object what the edit does to it. -/
theorem Tells.next_modify (ht : h.Tells) (hlt : h.scene.objects.length < UInt64.size)
    {id : UInt64} {f : SceneObject → SceneObject} (hf : ∀ o, (f o).id = o.id)
    (hmodify : h.scene.modifyObject id f = (.ok (), s))
    (he : e.perform h.scene = (.ok .done, s))
    (hadditions : (h.next e).additions = h.additions)
    (hselections : (h.next e).selections = h.selections)
    (hlistings : (h.next e).listings = h.listings)
    (hobjectOf : ∀ id' name, (h.next e).objectOf id' name =
      if id' = id then f (h.objectOf id' name) else h.objectOf id' name) : (h.next e).Tells := by
  have hscene : (h.next e).scene = s := by rw [next_of_ok he]
  obtain ⟨hids, hselected, hcatalog⟩ := Scene.ids_modifyObject hf hmodify
  have hobjects := Scene.objects_modifyObject_of_nodup (ht.isNumbered.nodup_ids hlt) hmodify
  have hid : id ∈ h.scene.ids := by
    obtain ⟨before, o, after, hmiddle, -, rfl, -⟩ := Scene.modifyObject_eq_ok_iff.1 hmodify
    simp [Scene.ids, hmiddle]
  constructor
  · rw [hscene]
    exact ht.isNumbered.of_ids_eq hids
  · rw [hscene, hobjects, ht.objects_eq, hadditions, List.map_map]
    refine List.map_congr_left fun a _ => ?_
    rw [hobjectOf]
    rfl
  · intro id' hid' name
    rw [hscene, hids] at hid'
    have hne : id' ≠ id := fun heq => hid' (heq ▸ hid)
    rw [hobjectOf, if_neg hne]
    exact ht.objectOf_of_notMem id' hid' name
  · rw [hscene, hselected, hselections]
    exact ht.selected_eq
  · rw [hscene, hselected, hids]
    exact ht.selected_mem
  · rw [hscene, hcatalog, hlistings]
    exact ht.catalog_eq

theorem Tells.next_move (ht : h.Tells) (hlt : h.scene.objects.length < UInt64.size)
    {id : UInt64} {p : Position} (hmove : h.scene.moveObject id p = (.ok (), s)) :
    (h.next (.move id p)).Tells := by
  have he : Edit.perform h.scene (.move id p) = (.ok .done, s) :=
    Edit.answered_eq_ok_iff.2 ⟨rfl, hmove⟩
  refine ht.next_modify hlt (f := fun o => { o with position := p }) (fun _ => rfl) hmove he
    ?_ ?_ ?_ fun id' name => ?_
  · simp [next_of_ok he, additions]
  · simp [next_of_ok he, selections]
  · simp [next_of_ok he, listings, Edit.listed?]
  · by_cases hid : id' = id
    · simp [next_of_ok he, objectOf, moves, attachments, hid]
    · simp [next_of_ok he, objectOf, moves, attachments, hid, Ne.symm hid]

theorem Tells.next_attach (ht : h.Tells) (hlt : h.scene.objects.length < UInt64.size)
    {id : UInt64} {reference : String}
    (hattach : h.scene.attachScript id reference = (.ok (), s)) :
    (h.next (.attach id reference)).Tells := by
  have he : Edit.perform h.scene (.attach id reference) = (.ok .done, s) :=
    Edit.answered_eq_ok_iff.2 ⟨rfl, hattach⟩
  refine ht.next_modify hlt (f := fun o => { o with scripts := o.scripts ++ [reference] })
    (fun _ => rfl) hattach he ?_ ?_ ?_ fun id' name => ?_
  · simp [next_of_ok he, additions]
  · simp [next_of_ok he, selections]
  · simp [next_of_ok he, listings, Edit.listed?]
  · by_cases hid : id' = id
    · simp [next_of_ok he, objectOf, moves, attachments, hid]
    · simp [next_of_ok he, objectOf, moves, attachments, hid, Ne.symm hid]

/-- No edit takes an object away. -/
theorem length_objects_le_next (h : History) (e : Edit) :
    h.scene.objects.length ≤ (h.next e).scene.objects.length := by
  rcases e.perform_cases h.scene with ⟨fault, he⟩ | ⟨answer, s, he⟩
  · rw [next_of_error he]
  · rw [next_of_ok he]
    have hmodify {id : UInt64} {f : SceneObject → SceneObject} {s' : Scene}
        (hs' : h.scene.modifyObject id f = (.ok (), s')) :
        s'.objects.length = h.scene.objects.length := by
      obtain ⟨before, o, after, hobjects, -, -, rfl⟩ := Scene.modifyObject_eq_ok_iff.1 hs'
      simp [hobjects]
    cases e with
    | add | append =>
      cases he
      simp [Scene.addObject, Scene.appendObject]
    | select id => rw [(Scene.select_eq_ok_iff.1 (Edit.answered_eq_ok_iff.1 he).2).2]
    | move | attach => exact (hmodify (Edit.answered_eq_ok_iff.1 he).2).ge
    | catalog reference =>
      cases he
      rw [Scene.addScript]
      split <;> exact le_rfl

/-- **An edit keeps scene and history together**, as long as there are ids. -/
theorem Tells.next (ht : h.Tells) (happend : ∀ o, e ≠ .append o)
    (hlt : (h.next e).scene.objects.length < UInt64.size) : (h.next e).Tells := by
  have hlt' := Nat.lt_of_le_of_lt (h.length_objects_le_next e) hlt
  rcases e.perform_cases h.scene with ⟨fault, he⟩ | ⟨answer, s, he⟩
  · rw [next_of_error he]
    exact ht
  · cases e with
    | add name =>
      have hlength : (h.next (.add name)).scene.objects.length = h.scene.objects.length + 1 :=
        List.length_append
      rw [hlength] at hlt
      exact ht.next_add name hlt
    | select id => exact ht.next_select (Edit.answered_eq_ok_iff.1 he).2
    | move id p => exact ht.next_move hlt' (Edit.answered_eq_ok_iff.1 he).2
    | attach id reference => exact ht.next_attach hlt' (Edit.answered_eq_ok_iff.1 he).2
    | catalog reference => exact ht.next_catalog reference
    | append o => exact absurd rfl (happend o)

end History

/-! ## All edits -/

namespace Scene

variable {start : Scene} {es : List Edit}

theorem done_prefix_history (start : Scene) {made es : List Edit} (h : made <+: es) :
    (start.history made).done <+: (start.history es).done := by
  obtain ⟨later, rfl⟩ := h
  induction later using List.reverseRecOn with
  | nil => simp
  | append_singleton later e ih =>
    rw [← List.append_assoc, history_concat]
    exact ih.trans (History.done_prefix_next _ e)

/-- What every edit adds to a history, edits in order add one after the other. -/
theorem eq_filterMap_history {f : History → List α} {g : Edit → Option α}
    (hstep : ∀ h e, f (h.next e) = f h ++ (g e).toList) (hstart : f ⟨[], start⟩ = [])
    (es : List Edit) : f (start.history es) = es.filterMap g := by
  induction es using List.reverseRecOn with
  | nil => exact hstart
  | append_singleton es e ih =>
    rw [history_concat, hstep, ih, List.filterMap_append]
    cases hg : g e <;> simp [hg]

/-- **Every history from a blank scene tells of its scene.** -/
theorem tells_history (hstart : start = .empty ∨ ∃ name, start = .ofProject name)
    (happend : ∀ e ∈ es, ∀ o, e ≠ .append o)
    (hlt : (start.history es).scene.objects.length < UInt64.size) : (start.history es).Tells := by
  induction es using List.reverseRecOn with
  | nil =>
    rcases hstart with rfl | ⟨name, rfl⟩
    · exact History.tells_start none
    · exact History.tells_start (some name)
  | append_singleton es e ih =>
    rw [history_concat] at hlt ⊢
    refine (ih (fun e' he' => happend e' (List.mem_append_left _ he')) ?_).next
      (happend e (by simp)) hlt
    exact Nat.lt_of_le_of_lt (History.length_objects_le_next _ e) hlt

/-- **What a scene answers is what was done to it.**  Edits in order, of which some may be
    refused, start from a blank scene.  As long as there are ids, the objects count from
    one; an id that was ever answered is from then on the object that was added under it,
    under its name, where it was last moved to and with the scripts that were attached to
    it; every addition has its object, and there are no others; the selected object is the
    one that was selected last; the catalog lists what it was to list, once each; and
    neither ids nor selection are an issue. -/
theorem told_by_history (hstart : start = .empty ∨ ∃ name, start = .ofProject name)
    (happend : ∀ e ∈ es, ∀ o, e ≠ .append o)
    (hlt : (start.history es).scene.objects.length < UInt64.size) :
    let h := start.history es
    let s := h.scene
    s.ids.map UInt64.toNat = List.range' 1 s.objects.length ∧
    (∀ made, made <+: es → ∀ id name, (.add name, .added id) ∈ (start.history made).done →
      s.object? id = some ⟨id, name, (h.moves id).getLast?.getD .origin, h.attachments id⟩) ∧
    s.objects.map (·.name) = es.filterMap Edit.addedName? ∧
    (∀ o ∈ s.objects, (.add o.name, .added o.id) ∈ h.done) ∧
    (h.selections = [] → s.selectedObject? = none) ∧
    (∀ id, h.selections.getLast? = some id →
      ∃ o, s.object? id = some o ∧ s.selectedObject? = some o) ∧
    s.catalog = (es.filterMap Edit.listed?).eraseDups ∧
    ∀ id, .duplicateId id ∉ s.issues ∧ .unknownSelection id ∉ s.issues := by
  intro h s
  have ht : h.Tells := tells_history hstart happend hlt
  have hids : s.ids.Nodup := ht.isNumbered.nodup_ids hlt
  refine ⟨ht.isNumbered hlt, ?_, ?_, ?_, ?_, ?_, ?_, ?_⟩
  · intro made hmade id name hdone
    have hmem := History.mem_additions.2 ((done_prefix_history start hmade).mem hdone)
    refine object?_of_mem (o := h.objectOf id name) hids ?_
    rw [ht.objects_eq]
    exact List.mem_map_of_mem hmem
  · have hnames : h.additions.map Prod.snd = es.filterMap Edit.addedName? :=
      eq_filterMap_history (f := fun h => h.additions.map Prod.snd) History.names_next rfl es
    rw [ht.objects_eq, ← hnames, List.map_map]
    rfl
  · intro o ho
    rw [ht.objects_eq, List.mem_map] at ho
    obtain ⟨⟨id, name⟩, hmem, rfl⟩ := ho
    exact History.mem_additions.1 hmem
  · intro hnone
    have hselected := ht.selected_eq
    rw [hnone] at hselected
    rw [selectedObject?, hselected]
    rfl
  · intro id hid
    have hselected : s.selected = some id := ht.selected_eq.trans hid
    obtain ⟨o, ho, rfl⟩ := List.mem_map.1 (ht.selected_mem id hselected)
    have hobject := object?_of_mem hids ho
    refine ⟨o, hobject, ?_⟩
    rw [selectedObject?, hselected]
    exact hobject
  · rw [← eq_filterMap_history History.listings_next rfl es]
    exact ht.catalog_eq
  · intro id
    rw [issues, idIssues_eq_nil_iff.2 hids, selectionIssues_eq_nil_iff.2 ht.selected_mem]
    simp [catalogIssues]

/-- Edits of which two are refused: there is no object 1 yet, and never an object 9. -/
def mixedEdits : List Edit :=
  [.move 1 .origin, .add "Player", .move 1 ⟨.nan, .zero⟩, .add "", .select 2, .select 9,
   .attach 1 "Jump.ts", .catalog "Jump.ts", .attach 1 "Jump.ts", .catalog "Jump.ts"]

theorem told_by_history_mixedEdits :
    let s := (empty.history mixedEdits).scene
    s.ids.map UInt64.toNat = [1, 2] ∧
    s.object? 1 = some ⟨1, "Player", ⟨.nan, .zero⟩, ["Jump.ts", "Jump.ts"]⟩ ∧
    s.object? 2 = some ⟨2, "", .origin, []⟩ ∧ s.selectedObject? = s.object? 2 ∧
    s.catalog = ["Jump.ts"] := by
  intro s
  obtain ⟨hids, hobject, -, -, -, hselected, hcatalog, -⟩ :=
    @told_by_history empty mixedEdits (Or.inl rfl) (by simp [mixedEdits]) (by decide)
  obtain ⟨o, ho, hselected⟩ := hselected 2 (by decide)
  exact ⟨hids, hobject _ List.prefix_rfl 1 "Player" (by decide),
    hobject _ List.prefix_rfl 2 "" (by decide), hselected.trans ho.symm, hcatalog⟩

end Scene

end SpriteScene
