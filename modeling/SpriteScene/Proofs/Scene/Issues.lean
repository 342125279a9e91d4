/-
  Issues under edits.

  * `SceneObject.issuesUnder_sublist`: a catalog that lists more leaves fewer
    scripts of an object to report, in the same order;
  * `Change.IsChecked` are the changes that check what they are given, and
    `Scene.Revised` is what one of them can make of a scene
    (`Change.IsChecked.revised`);
  * `Scene.Revised.issues_sublist`: no issue comes up and those that stay keep
    their order, however broken the scene is;
  * `Scene.issues_sublist_of_changes`: so along any such changes issues only
    disappear.
-/
import Mathlib.Data.List.Flatten
import SpriteScene.Proofs.Document.Edit
import SpriteScene.Proofs.Scene.Tidy

namespace SpriteScene

/-! ## Scripts that a catalog lacks -/

namespace SceneObject

/-- The issues of one object under a catalog. -/
def issuesUnder (catalog : List String) (o : SceneObject) : List Issue :=
  (o.uncatalogued catalog).map (.uncataloguedScript o.id)

/-- The more a catalog lists, the less there is to report. -/
theorem issuesUnder_sublist {catalog catalog' : List String}
    (h : ∀ reference ∈ catalog, reference ∈ catalog') (o : SceneObject) :
    (o.issuesUnder catalog').Sublist (o.issuesUnder catalog) := by
  refine List.Sublist.map _ ?_
  rw [uncatalogued, uncatalogued, eraseDups_filter, eraseDups_filter]
  refine List.monotone_filter_right _ fun reference hlacks => ?_
  simp only [decide_eq_true_eq] at hlacks ⊢
  exact fun hmem => hlacks (h reference hmem)

/-- A script that the catalog lists is not reported where it is attached. -/
theorem issuesUnder_attach {catalog : List String} {reference : String}
    (h : reference ∈ catalog) (o : SceneObject) :
    issuesUnder catalog { o with scripts := o.scripts ++ [reference] } =
      o.issuesUnder catalog := by
  simp [issuesUnder, uncatalogued, List.filter_append, h]

end SceneObject

namespace Scene

variable {s s' : Scene} {id : UInt64}

/-- Whether there are numbers left for so many new ids. -/
def HasRoom (s : Scene) (count : Nat) : Prop :=
  count < UInt64.size ∧ ∀ id ∈ s.ids, id.toNat + count < UInt64.size

theorem HasRoom.mono {count count' : Nat} (h : s.HasRoom count') (hle : count ≤ count') :
    s.HasRoom count :=
  ⟨hle.trans_lt h.1, fun id hid => (Nat.add_le_add_left hle _).trans_lt (h.2 id hid)⟩

/-- The id of a new object is one past the largest, or one. -/
theorem nextId_cases (h : s.HasRoom 1) :
    s.ids = [] ∧ s.nextId = 1 ∨
      ∃ largest ∈ s.ids, (∀ id ∈ s.ids, id ≤ largest) ∧ s.nextId.toNat = largest.toNat + 1 := by
  cases hmax : s.ids.max? with
  | none =>
    refine Or.inl ⟨List.max?_eq_none_iff.1 hmax, ?_⟩
    rw [nextId, hmax]
  | some largest =>
    obtain ⟨hmem, hle⟩ := List.max?_eq_some_iff.1 hmax
    exact Or.inr ⟨largest, hmem, hle, toNat_nextId hmem hle (h.2 largest hmem)⟩

theorem nextId_notMem_ids (h : s.HasRoom 1) : s.nextId ∉ s.ids := by
  intro hmem
  rcases nextId_cases h with ⟨hnil, -⟩ | ⟨largest, -, hle, hnext⟩
  · rw [hnil] at hmem
    cases hmem
  · have hbound := UInt64.le_iff_toNat_le.1 (hle _ hmem)
    omega

/-- A new object takes one of the numbers that are left. -/
theorem HasRoom.addObject {count : Nat} (h : s.HasRoom (count + 1)) (name : String) :
    (s.addObject name).HasRoom count := by
  refine ⟨(h.mono (Nat.le_succ _)).1, fun id hid => ?_⟩
  rw [ids_addObject, List.mem_append, List.mem_singleton] at hid
  rcases hid with hid | rfl
  · exact (h.mono (Nat.le_succ _)).2 id hid
  · rcases nextId_cases (h.mono (Nat.le_add_left 1 count)) with
      ⟨-, hone⟩ | ⟨largest, hmem, -, hnext⟩
    · have hroom := h.1
      rw [hone, show (1 : UInt64).toNat = 1 from rfl]
      omega
    · have hroom := h.2 largest hmem
      omega

/-! ## Edits -/

theorem catalogIssues_eq (s : Scene) :
    s.catalogIssues = s.objects.flatMap (SceneObject.issuesUnder s.catalog) := rfl

/-- The new object may be the one that the selection was missing. -/
theorem issues_addObject (h : s.HasRoom 1) (name : String) :
    (s.addObject name).issues.Sublist s.issues := by
  have hids : (s.addObject name).idIssues = s.idIssues := by
    rw [idIssues, idIssues, ids_addObject,
      repetitions_concat (nextId_notMem_ids h) List.not_mem_nil]
  have hselection : (s.addObject name).selectionIssues.Sublist s.selectionIssues := by
    have hselected : (s.addObject name).selected = s.selected := rfl
    rw [selectionIssues, selectionIssues, hselected, ids_addObject]
    cases s.selected with
    | none => exact List.Sublist.refl _
    | some id =>
      by_cases hid : id ∈ s.ids
      · simp [hid]
      · by_cases hnew : id = s.nextId <;> simp [hid, hnew]
  have hcatalog : (s.addObject name).catalogIssues = s.catalogIssues := by
    have hobjects : (s.addObject name).objects = s.objects ++ [⟨s.nextId, name, .origin, []⟩] := rfl
    rw [catalogIssues_eq, catalogIssues_eq, hobjects, List.flatMap_append]
    exact List.append_nil _
  rw [issues, issues, hids, hcatalog]
  exact ((List.Sublist.refl _).append hselection).append (List.Sublist.refl _)

theorem issues_select (h : s.select id = (.ok (), s')) : s'.issues.Sublist s.issues := by
  obtain ⟨hid, rfl⟩ := select_eq_ok_iff.1 h
  have hselection : selectionIssues { s with selected := some id } = [] := if_pos hid
  rw [issues, issues, hselection]
  exact ((List.Sublist.refl _).append (List.nil_sublist _)).append (List.Sublist.refl _)

/-- Where ids and selection stay, only the reports on scripts can change. -/
theorem issues_sublist_of_catalogIssues (hids : s'.ids = s.ids)
    (hselected : s'.selected = s.selected)
    (hcatalog : s'.catalogIssues.Sublist s.catalogIssues) : s'.issues.Sublist s.issues := by
  rw [issues, issues, idIssues, idIssues, selectionIssues, selectionIssues, hids, hselected]
  exact (List.Sublist.refl _).append hcatalog

/-- What does not tell an object from the changed one does not tell the scenes
    apart. -/
theorem flatMap_modifyObject {α : Type} {f : SceneObject → SceneObject} {g : SceneObject → List α}
    (hg : ∀ o, g (f o) = g o) (h : s.modifyObject id f = (.ok (), s')) :
    s'.objects.flatMap g = s.objects.flatMap g := by
  obtain ⟨before, o, after, hobjects, -, -, rfl⟩ := modifyObject_eq_ok_iff.1 h
  simp only [hobjects, List.flatMap_append, List.flatMap_cons, hg]

theorem issues_moveObject {p : Position} (h : s.moveObject id p = (.ok (), s')) :
    s'.issues.Sublist s.issues := by
  obtain ⟨hids, hselected, hcatalog⟩ :=
    ids_modifyObject (f := fun o => { o with position := p }) (fun _ => rfl) h
  refine issues_sublist_of_catalogIssues hids hselected ?_
  rw [catalogIssues_eq, catalogIssues_eq, hcatalog,
    flatMap_modifyObject (f := fun o => { o with position := p }) (fun _ => rfl) h]

theorem addScript_eq (s : Scene) (reference : String) :
    s.addScript reference = { s with catalog := (s.addScript reference).catalog } := by
  rw [addScript]
  split <;> rfl

theorem issues_addScript (s : Scene) (reference : String) :
    (s.addScript reference).issues.Sublist s.issues := by
  have hlisted (other : String) (hother : other ∈ s.catalog) :
      other ∈ (s.addScript reference).catalog :=
    (mem_catalog_addScript s reference other).2 (Or.inl hother)
  rw [addScript_eq]
  refine issues_sublist_of_catalogIssues rfl rfl ?_
  exact List.Sublist.flatMap_right _ fun o _ => o.issuesUnder_sublist hlisted

/-- The script that is attached is listed before anybody looks. -/
theorem issues_attachListed {reference : String}
    (h : s.attachScript id reference = (.ok (), s')) :
    (s'.addScript reference).issues.Sublist s.issues := by
  let attach (o : SceneObject) : SceneObject := { o with scripts := o.scripts ++ [reference] }
  obtain ⟨hids, hselected, hcatalog⟩ := ids_modifyObject (f := attach) (fun _ => rfl) h
  have hmem := mem_catalog_addScript s' reference
  rw [addScript_eq]
  refine issues_sublist_of_catalogIssues hids hselected ?_
  have hkept : s'.objects.flatMap (SceneObject.issuesUnder (s'.addScript reference).catalog) =
      s.objects.flatMap (SceneObject.issuesUnder (s'.addScript reference).catalog) :=
    flatMap_modifyObject (f := attach)
      (SceneObject.issuesUnder_attach ((hmem reference).2 (Or.inr rfl))) h
  rw [catalogIssues_eq, catalogIssues_eq, hkept]
  refine List.Sublist.flatMap_right _ fun o _ => o.issuesUnder_sublist fun other hother => ?_
  exact (hmem other).2 (Or.inl (hcatalog ▸ hother))

/-! ## Changes -/

/-- What a change that checks what it is given can make of a scene. -/
inductive Revised (s : Scene) : Scene → Prop
  | same : Revised s s
  | added (name : String) : Revised s (s.addObject name)
  | selected {id : UInt64} {s' : Scene} : s.select id = (.ok (), s') → Revised s s'
  | moved {id : UInt64} {p : Position} {s' : Scene} :
      s.moveObject id p = (.ok (), s') → Revised s s'
  | listed (reference : String) : Revised s (s.addScript reference)
  | attached {id : UInt64} {reference : String} {s' : Scene} :
      s.attachScript id reference = (.ok (), s') → Revised s (s'.addScript reference)

theorem Revised.issues_sublist (h : s.Revised s') (hroom : s.HasRoom 1) :
    s'.issues.Sublist s.issues := by
  cases h with
  | same => exact List.Sublist.refl _
  | added name => exact issues_addObject hroom name
  | selected h => exact issues_select h
  | moved h => exact issues_moveObject h
  | listed reference => exact issues_addScript s reference
  | attached h => exact issues_attachListed h

theorem Revised.hasRoom {count : Nat} (h : s.Revised s') (hroom : s.HasRoom (count + 1)) :
    s'.HasRoom count := by
  have of_ids_eq {s' : Scene} (hids : s'.ids = s.ids) : s'.HasRoom count := by
    rw [HasRoom, hids]
    exact hroom.mono (Nat.le_succ _)
  cases h with
  | same => exact of_ids_eq rfl
  | added name => exact hroom.addObject name
  | selected h =>
    obtain ⟨-, rfl⟩ := select_eq_ok_iff.1 h
    exact of_ids_eq rfl
  | @moved _ p _ h =>
    exact of_ids_eq (ids_modifyObject (f := fun o => { o with position := p }) (fun _ => rfl) h).1
  | listed reference =>
    rw [addScript_eq]
    exact of_ids_eq rfl
  | @attached _ reference _ h =>
    let attach (o : SceneObject) : SceneObject := { o with scripts := o.scripts ++ [reference] }
    rw [addScript_eq]
    exact of_ids_eq (ids_modifyObject (f := attach) (fun _ => rfl) h).1

end Scene

namespace Change

/-- The scene after a change, be it refused or not. -/
def after (s : Scene) (c : Change) : Scene := (Edit.runAll s c.edits).2

/-- Whether a change checks what it is given.  Those that do not append an object as
    it is, or attach a script and leave the catalog alone. -/
def IsChecked : Change → Prop
  | .one (.append _) | .one (.attach _ _) => False
  | _ => True

theorem after_one (s : Scene) (e : Edit) : after s (.one e) = (e.perform s).2 := by
  rw [after, edits]
  rcases e.perform_cases s with ⟨fault, h⟩ | ⟨answer, s', h⟩
  · rw [Edit.runAll_cons_error h, h]
  · rw [Edit.runAll_cons_ok h, h]
    rfl

theorem IsChecked.revised {c : Change} (hc : c.IsChecked) (s : Scene) : s.Revised (c.after s) := by
  cases c with
  | one e =>
    cases e with
    | add name => exact .added name
    | catalog reference => exact .listed reference
    | append => cases hc
    | attach => cases hc
    | select id =>
      rw [after_one]
      rcases (Edit.select id).perform_cases s with ⟨fault, h⟩ | ⟨answer, s', h⟩ <;> rw [h]
      · exact .same
      · exact .selected (Edit.answered_eq_ok_iff.1 h).2
    | move id p =>
      rw [after_one]
      rcases (Edit.move id p).perform_cases s with ⟨fault, h⟩ | ⟨answer, s', h⟩ <;> rw [h]
      · exact .same
      · exact .moved (Edit.answered_eq_ok_iff.1 h).2
  | attachListed id reference =>
    rw [after, edits]
    rcases (Edit.attach id reference).perform_cases s with ⟨fault, h⟩ | ⟨answer, s', h⟩
    · rw [Edit.runAll_cons_error h]
      exact .same
    · rw [Edit.runAll_cons_ok h]
      exact .attached (Edit.answered_eq_ok_iff.1 h).2

end Change

namespace Scene

/-- **Issues only disappear.**  Along changes that check what they are given, carried
    out or refused, no issue comes up and the issues that stay keep their order; the
    scene may have any of them at the beginning. -/
theorem issues_sublist_of_changes {s : Scene} {cs : List Change} (hcs : ∀ c ∈ cs, c.IsChecked)
    (hroom : s.HasRoom cs.length) : (cs.foldl Change.after s).issues.Sublist s.issues := by
  induction cs generalizing s with
  | nil => exact List.Sublist.refl _
  | cons c cs ih =>
    rw [List.forall_mem_cons] at hcs
    have hrevised := hcs.1.revised s
    have hfirst := hrevised.issues_sublist (hroom.mono (Nat.succ_le_succ (Nat.zero_le _)))
    exact (ih hcs.2 (hrevised.hasRoom hroom)).trans hfirst

/-- Two objects of one id, a selection that names none and an empty catalog. -/
def neglectedScene : Scene :=
  { objects := [⟨7, "Left", .origin, ["Walk.ts", "Jump.ts"]⟩, ⟨7, "Right", .origin, ["Walk.ts"]⟩]
    selected := some 8
    project := none
    catalog := [] }

/-- One selection is refused, one object takes the id that is selected, and one script
    gets listed. -/
def upkeep : List Change :=
  [.one (.select 3), .one (.add "Crate"), .attachListed 7 "Walk.ts"]

theorem issues_upkeep_neglectedScene :
    neglectedScene.issues =
        [.duplicateId 7, .unknownSelection 8, .uncataloguedScript 7 "Walk.ts",
          .uncataloguedScript 7 "Jump.ts", .uncataloguedScript 7 "Walk.ts"] ∧
      (upkeep.foldl Change.after neglectedScene).issues =
        [.duplicateId 7, .uncataloguedScript 7 "Jump.ts"] ∧
      (upkeep.foldl Change.after neglectedScene).issues.Sublist neglectedScene.issues := by
  refine ⟨by decide, by decide, issues_sublist_of_changes ?_ ⟨by decide, ?_⟩⟩
  · simp [upkeep, Change.IsChecked]
  · simp [neglectedScene, ids, upkeep, UInt64.size]

end Scene

end SpriteScene
