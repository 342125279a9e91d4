/-
  Tidy scenes: what edits make of an empty one.

  * `Scene.IsTidy`: the ids count from one, the selection names an object, the
    catalog lists the attached scripts once each, and the coordinates are finite;
  * `Scene.IsTidy.addObject`, `IsTidy.select`, `IsTidy.moveObject` and
    `IsTidy.attachListed`: edits keep a scene tidy, if every script that is
    attached is listed as well;
  * `Scene.IsTidy.exists_read`: so do writing and reading, although they change
    coordinates;
  * `Scene.IsTidy.issues_eq_nil`: a tidy scene has no issues.
-/
import SpriteScene.Proofs.Repetition
import SpriteScene.Proofs.Scene.Stable

namespace SpriteScene

namespace Scene

/-- Whether the ids are one, two and so on, as far as there are ids. -/
def IsNumbered (s : Scene) : Prop :=
  s.objects.length < UInt64.size →
    s.ids.map UInt64.toNat = List.range' 1 s.objects.length

/-- Whether a scene is as edits leave it. -/
structure IsTidy (s : Scene) : Prop where
  isNumbered : s.IsNumbered
  selected_mem : ∀ id ∈ s.selected, id ∈ s.ids
  nodup_catalog : s.catalog.Nodup
  mem_catalog_iff : ∀ reference, reference ∈ s.catalog ↔ reference ∈ s.references
  isFinite : s.IsFinite

variable {s s' : Scene} {id : UInt64}

/-! ## Ids -/

theorem length_ids (s : Scene) : s.ids.length = s.objects.length := List.length_map _

theorem IsNumbered.of_ids_eq (h : s.IsNumbered) (hids : s'.ids = s.ids) : s'.IsNumbered := by
  rw [IsNumbered, ← length_ids, hids, length_ids]
  exact h

theorem IsNumbered.nodup_ids (h : s.IsNumbered) (hlt : s.objects.length < UInt64.size) :
    s.ids.Nodup := by
  have hnumbers : (s.ids.map UInt64.toNat).Nodup := by
    rw [h hlt]
    exact List.nodup_range' 1
  exact List.Pairwise.of_map UInt64.toNat (fun _ _ hne heq => hne (heq ▸ rfl)) hnumbers

/-- The next object gets the next number. -/
theorem IsNumbered.toNat_nextId (h : s.IsNumbered) (hlt : s.objects.length + 1 < UInt64.size) :
    s.nextId.toNat = s.objects.length + 1 := by
  have hids := h (by omega)
  cases hobjects : s.objects with
  | nil =>
    rw [nextId, ids, hobjects]
    rfl
  | cons o objects =>
    have hpos : 0 < s.objects.length := by
      rw [hobjects]
      exact Nat.succ_pos _
    have hlast : s.objects.length ∈ s.ids.map UInt64.toNat := by
      rw [hids, List.mem_range'_1]
      omega
    -- the largest id is the number of objects
    obtain ⟨largest, hmem, hlargest⟩ := List.mem_map.1 hlast
    have hle : ∀ id ∈ s.ids, id ≤ largest := by
      intro id hid
      have hnumber := List.mem_map_of_mem (f := UInt64.toNat) hid
      rw [hids, List.mem_range'_1] at hnumber
      rw [UInt64.le_iff_toNat_le, hlargest]
      omega
    rw [Scene.toNat_nextId hmem hle (by rwa [hlargest]), hlargest, hobjects]

theorem ids_addObject (s : Scene) (name : String) :
    (s.addObject name).ids = s.ids ++ [s.nextId] := by
  simp [addObject, appendObject, ids]

theorem IsNumbered.addObject (h : s.IsNumbered) (name : String) :
    (s.addObject name).IsNumbered := by
  intro hlt
  have hlength : (s.addObject name).objects.length = s.objects.length + 1 := List.length_append
  rw [hlength] at hlt ⊢
  rw [ids_addObject, List.map_append, h (by omega), List.range'_1_concat, Nat.add_comm 1]
  exact congrArg (_ ++ [·]) (h.toNat_nextId hlt)

/-! ## Edits -/

/-- A scene with nothing but a project, if that. -/
theorem isTidy_blank (project : Option String) : { empty with project := project }.IsTidy where
  isNumbered _ := rfl
  selected_mem _ h := by cases h
  nodup_catalog := List.nodup_nil
  mem_catalog_iff _ := Iff.rfl
  isFinite _ h := absurd h List.not_mem_nil

theorem references_addObject (s : Scene) (name : String) :
    (s.addObject name).references = s.references := by
  simp [addObject, appendObject, references]

theorem IsTidy.addObject (h : s.IsTidy) (name : String) : (s.addObject name).IsTidy where
  isNumbered := h.isNumbered.addObject name
  selected_mem id hid := by
    rw [ids_addObject]
    exact List.mem_append_left _ (h.selected_mem id hid)
  nodup_catalog := h.nodup_catalog
  mem_catalog_iff reference := by
    rw [references_addObject]
    exact h.mem_catalog_iff reference
  isFinite := Edit.isFinite_perform (e := .add name) trivial h.isFinite

theorem IsTidy.select (h : s.IsTidy) (hselect : s.select id = (.ok (), s')) : s'.IsTidy := by
  obtain ⟨hid, rfl⟩ := select_eq_ok_iff.1 hselect
  refine { h with selected_mem := ?_ }
  rintro _ ⟨⟩
  exact hid

theorem IsTidy.moveObject (h : s.IsTidy) {p : Position} (hp : p.x.isFinite ∧ p.y.isFinite)
    (hmove : s.moveObject id p = (.ok (), s')) : s'.IsTidy := by
  obtain ⟨hids, hselected, hcatalog⟩ :=
    ids_modifyObject (f := fun o => { o with position := p }) (fun _ => rfl) hmove
  have hreferences : s'.references = s.references := by
    obtain ⟨before, o, after, hobjects, -, -, rfl⟩ := modifyObject_eq_ok_iff.1 hmove
    simp [references, hobjects]
  have hfinite := Edit.isFinite_perform (e := .move id p) hp h.isFinite
  rw [Edit.perform, hmove] at hfinite
  refine ⟨h.isNumbered.of_ids_eq hids, ?_, ?_, ?_, hfinite⟩
  · rw [hselected, hids]
    exact h.selected_mem
  · rw [hcatalog]
    exact h.nodup_catalog
  · rw [hcatalog, hreferences]
    exact h.mem_catalog_iff

theorem mem_references_attachScript {reference : String}
    (h : s.attachScript id reference = (.ok (), s')) (other : String) :
    other ∈ s'.references ↔ other ∈ s.references ∨ other = reference := by
  obtain ⟨before, o, after, hobjects, -, -, rfl⟩ := modifyObject_eq_ok_iff.1 h
  simp only [references, hobjects, List.flatMap_append, List.flatMap_cons, List.mem_append,
    List.mem_singleton]
  tauto

theorem mem_catalog_addScript (s : Scene) (reference other : String) :
    other ∈ (s.addScript reference).catalog ↔ other ∈ s.catalog ∨ other = reference := by
  rw [addScript]
  by_cases h : reference ∈ s.catalog
  · rw [if_pos h]
    constructor
    · exact Or.inl
    · rintro (hother | rfl)
      · exact hother
      · exact h
  · rw [if_neg h]
    simp

theorem nodup_catalog_addScript (h : s.catalog.Nodup) (reference : String) :
    (s.addScript reference).catalog.Nodup := by
  rw [addScript]
  by_cases hmem : reference ∈ s.catalog
  · rwa [if_pos hmem]
  · rw [if_neg hmem]
    refine List.nodup_append.2 ⟨h, by simp, ?_⟩
    rintro other hother _ hlast rfl
    exact hmem (List.mem_singleton.1 hlast ▸ hother)

/-- Attaching a script and listing it keeps a scene tidy; the first of the two alone
    does not. -/
theorem IsTidy.attachListed (h : s.IsTidy) {reference : String}
    (hattach : s.attachScript id reference = (.ok (), s')) : (s'.addScript reference).IsTidy := by
  obtain ⟨hids, hselected, hcatalog⟩ := ids_modifyObject
    (f := fun o => { o with scripts := o.scripts ++ [reference] }) (fun _ => rfl) hattach
  have hlisted : (s'.addScript reference).objects = s'.objects ∧
      (s'.addScript reference).selected = s'.selected := by
    rw [addScript]
    split <;> exact ⟨rfl, rfl⟩
  have hids' : (s'.addScript reference).ids = s.ids := by
    rw [ids, hlisted.1]
    exact hids
  have hfinite := Edit.isFinite_perform (e := .attach id reference) trivial h.isFinite
  rw [Edit.perform, hattach] at hfinite
  refine ⟨h.isNumbered.of_ids_eq hids', ?_, ?_, fun other => ?_, ?_⟩
  · rw [hlisted.2, hselected, hids']
    exact h.selected_mem
  · exact nodup_catalog_addScript (hcatalog ▸ h.nodup_catalog) reference
  · have hreferences : (s'.addScript reference).references = s'.references := by
      rw [references, hlisted.1, references]
    rw [mem_catalog_addScript, hcatalog, h.mem_catalog_iff, hreferences]
    exact (mem_references_attachScript hattach other).symm
  · rw [IsFinite, hlisted.1]
    exact hfinite

/-! ## Files -/

/-- A tidy scene is read from its text as a tidy scene, although the coordinates may
    be others. -/
theorem IsTidy.exists_read (h : s.IsTidy) :
    ∃ s', Scene.read (s.text .pretty) = .ok s' ∧ s'.IsTidy := by
  have hread : Scene.read (s.text .pretty) = .ok (s.mapCoordinates Binary64.afterReading) := by
    rw [s.read_text_eq.2, reread_of_isFinite h.isFinite]
  have hids : (s.mapCoordinates Binary64.afterReading).ids = s.ids := by
    simp [mapCoordinates, ids, SceneObject.mapCoordinates]
  have hreferences : (s.mapCoordinates Binary64.afterReading).references = s.references := by
    simp [mapCoordinates, references, SceneObject.mapCoordinates, List.flatMap_map]
  refine ⟨_, hread, h.isNumbered.of_ids_eq hids, ?_, h.nodup_catalog, ?_, isFinite_of_read hread⟩
  · rw [hids]
    exact h.selected_mem
  · rw [hreferences]
    exact h.mem_catalog_iff

/-! ## Issues -/

end Scene

theorem SceneObject.uncatalogued_eq_nil_iff {catalog : List String} {o : SceneObject} :
    o.uncatalogued catalog = [] ↔ ∀ reference ∈ o.scripts, reference ∈ catalog := by
  rw [uncatalogued, List.eq_nil_iff_forall_not_mem]
  simp [List.mem_filter]

namespace Scene

variable {s : Scene}

theorem idIssues_eq_nil_iff : s.idIssues = [] ↔ s.ids.Nodup := by
  rw [idIssues, List.map_eq_nil_iff, repetitions_eq_nil_iff]
  simp

theorem selectionIssues_eq_nil_iff : s.selectionIssues = [] ↔ ∀ id ∈ s.selected, id ∈ s.ids := by
  rw [selectionIssues]
  cases s.selected with
  | none => simp
  | some id => by_cases h : id ∈ s.ids <;> simp [h]

/-- **When a scene has no issues**: its ids are distinct, its selection names an
    object, and its catalog lists all scripts that are attached. -/
theorem issues_eq_nil_iff : s.issues = [] ↔ s.ids.Nodup ∧ (∀ id ∈ s.selected, id ∈ s.ids) ∧
    ∀ reference ∈ s.references, reference ∈ s.catalog := by
  have hcatalog : s.catalogIssues = [] ↔ ∀ reference ∈ s.references, reference ∈ s.catalog := by
    simp only [catalogIssues, references, List.flatMap_eq_nil_iff, List.map_eq_nil_iff,
      SceneObject.uncatalogued_eq_nil_iff, List.mem_flatMap]
    exact ⟨fun h r ⟨o, ho, hr⟩ => h o ho r hr, fun h o ho r hr => h r ⟨o, ho, hr⟩⟩
  rw [issues, List.append_eq_nil_iff, List.append_eq_nil_iff, idIssues_eq_nil_iff,
    selectionIssues_eq_nil_iff, hcatalog, and_assoc]

theorem IsTidy.issues_eq_nil (h : s.IsTidy) (hlt : s.objects.length < UInt64.size) :
    s.issues = [] :=
  issues_eq_nil_iff.2 ⟨h.isNumbered.nodup_ids hlt, h.selected_mem,
    fun reference => (h.mem_catalog_iff reference).2⟩

end Scene

end SpriteScene
