/-
  The issues of a scene, told by what stands before.

  * `Scene.idIssues_eq`: an object is reported if an earlier one has its id;
  * `Scene.selectionIssues_eq`: a selection is reported if no object has it;
  * `SceneObject.uncatalogued_eq`: a script is reported if the catalog lacks it, where
    it is attached first;
  * `Scene.issues_eq_pick`: a scene has these issues and no others, in this order.
-/
import Mathlib.Data.List.Count
import SpriteScene.Proofs.Scene.Tidy

namespace SpriteScene

theorem SceneObject.uncatalogued_eq (catalog : List String) (o : SceneObject) :
    o.uncatalogued catalog =
      pick (fun earlier reference => reference ∉ earlier ∧ reference ∉ catalog) o.scripts := by
  rw [uncatalogued, eraseDups_filter, eraseDups_eq, filter_pick]
  exact pick_congr (fun _ _ => (Bool.decide_and _ _).symm) _

namespace Scene

theorem idIssues_eq (s : Scene) : s.idIssues =
    (pick (fun earlier o => ∃ o' ∈ earlier, o'.id = o.id) s.objects).map
      fun o => .duplicateId o.id := by
  rw [idIssues, repetitions_eq, ids, pick_map, List.map_map]
  refine congrArg (List.map _) (pick_congr (fun earlier o => ?_) s.objects)
  simp

theorem selectionIssues_eq (s : Scene) : s.selectionIssues =
    (s.selected.filter fun id => ∀ o ∈ s.objects, o.id ≠ id).toList.map .unknownSelection := by
  rw [selectionIssues]
  cases s.selected with
  | none => rfl
  | some id =>
    have hmem : id ∈ s.ids ↔ ¬ ∀ o ∈ s.objects, o.id ≠ id := by simp [ids]
    by_cases h : ∀ o ∈ s.objects, o.id ≠ id
    · rw [Option.filter_some, if_pos (decide_eq_true h)]
      exact if_neg (hmem.not.2 (not_not_intro h))
    · rw [Option.filter_some, if_neg (by simpa using h)]
      exact if_pos (hmem.2 h)

/-- Other passes report no ids. -/
theorem count_duplicateId (s : Scene) (id : UInt64) :
    s.issues.count (.duplicateId id) = s.ids.count id - 1 := by
  have hids : s.idIssues.count (.duplicateId id) = s.ids.count id - 1 := by
    rw [idIssues, List.count_map_of_injective _ _ (fun _ _ => Issue.duplicateId.inj),
      count_repetitions, if_neg List.not_mem_nil]
  have hselection : s.selectionIssues.count (.duplicateId id) = 0 := by
    simp [selectionIssues_eq, List.count_eq_zero]
  have hcatalog : s.catalogIssues.count (.duplicateId id) = 0 := by
    simp [catalogIssues, List.count_eq_zero]
  rw [issues, List.count_append, List.count_append, hids, hselection, hcatalog, Nat.add_zero]

/-- **The issues of a scene**: every object whose id an earlier object has, so that an id
    of `k` objects is reported `k - 1` times; then the selection, if no object has it;
    then for every object the scripts that the catalog lacks, each where it is attached
    first.  There are none if and only if the ids are distinct, the selection names an
    object, and the catalog lists all scripts. -/
theorem issues_eq_pick (s : Scene) :
    s.issues =
        (pick (fun earlier o => ∃ o' ∈ earlier, o'.id = o.id) s.objects).map
          (fun o => .duplicateId o.id) ++
        (s.selected.filter fun id => ∀ o ∈ s.objects, o.id ≠ id).toList.map .unknownSelection ++
        s.objects.flatMap (fun o =>
          (pick (fun earlier reference => reference ∉ earlier ∧ reference ∉ s.catalog)
            o.scripts).map (.uncataloguedScript o.id)) ∧
      (∀ id, s.issues.count (.duplicateId id) = s.ids.count id - 1) ∧
      (s.issues = [] ↔ s.ids.Nodup ∧ (∀ id ∈ s.selected, ∃ o ∈ s.objects, o.id = id) ∧
        ∀ o ∈ s.objects, ∀ reference ∈ o.scripts, reference ∈ s.catalog) := by
  refine ⟨?_, s.count_duplicateId, ?_⟩
  · rw [issues, idIssues_eq, selectionIssues_eq, catalogIssues]
    simp only [SceneObject.uncatalogued_eq]
  · rw [issues_eq_nil_iff]
    simp only [ids, references, List.mem_map, List.mem_flatMap]
    refine and_congr_right fun _ => and_congr_right fun _ => ?_
    constructor
    · intro h o ho r hr
      exact h r ⟨o, ho, hr⟩
    · rintro h r ⟨o, ho, hr⟩
      exact h o ho r hr

end Scene

end SpriteScene
