/-
  What edits do to a scene.

  * `Scene.modifyObject_eq_ok_iff` and `Scene.select_eq_ok_iff`: when an edit by
    id succeeds, and with what; `Scene.modifyObject_eq_error_iff` and
    `Scene.select_eq_error_iff`: when it is refused;
  * `Scene.toNat_nextId`: the id of a new object;
  * `Edit.eq_of_refused`: an edit that is refused leaves the scene as it was;
  * `Edit.runAll_eq_error_iff`: edits in order are refused at the first of them
    that is refused, and leave the scene as the edits before it made it;
  * `Edit.forall_coordinates_perform` and `Edit.forall_coordinates_runAll`: the only
    coordinates that an edit brings in are its own and those of the origin.
-/
import SpriteScene.Proofs.Scene.RoundTrip
import SpriteScene.Scene.Edit

namespace SpriteScene

/-! ## Objects by id -/

/-- The element that is changed is the first one that satisfies the predicate. -/
theorem modifyFirst?_eq_some_iff {p : α → Bool} {f : α → α} {as bs : List α} :
    modifyFirst? p f as = some bs ↔ ∃ before a after, as = before ++ a :: after ∧
      (∀ b ∈ before, p b = false) ∧ p a = true ∧ bs = before ++ f a :: after := by
  induction as generalizing bs with
  | nil => simp [modifyFirst?]
  | cons a as ih =>
    by_cases h : p a
    · rw [modifyFirst?, if_pos h]
      constructor
      · intro hbs
        cases hbs
        exact ⟨[], a, as, rfl, by simp, h, rfl⟩
      · rintro ⟨before, a', after, has, hbefore, -, rfl⟩
        cases before with
        | nil =>
          cases has
          rfl
        | cons b before =>
          cases has
          rw [hbefore a List.mem_cons_self] at h
          cases h
    · rw [modifyFirst?, if_neg h, Option.map_eq_some_iff]
      constructor
      · rintro ⟨bs', hbs', rfl⟩
        obtain ⟨before, a', after, rfl, hbefore, ha', rfl⟩ := ih.1 hbs'
        exact ⟨a :: before, a', after, rfl,
          List.forall_mem_cons.2 ⟨Bool.eq_false_iff.2 h, hbefore⟩, ha', rfl⟩
      · rintro ⟨before, a', after, has, hbefore, ha', rfl⟩
        cases before with
        | nil =>
          cases has
          exact absurd ha' h
        | cons b before =>
          cases has
          rw [List.forall_mem_cons] at hbefore
          exact ⟨_, ih.2 ⟨before, a', after, rfl, hbefore.2, ha', rfl⟩, rfl⟩

theorem modifyFirst?_eq_none_iff {p : α → Bool} {f : α → α} {as : List α} :
    modifyFirst? p f as = none ↔ ∀ a ∈ as, p a = false := by
  induction as with
  | nil => simp [modifyFirst?]
  | cons a as ih => by_cases h : p a <;> simp [modifyFirst?, h, ih]

instance instLawfulOrderMaxUInt64 : Std.LawfulOrderMax UInt64 where
  max_eq_or a b := by
    change (if a ≤ b then b else a) = a ∨ (if a ≤ b then b else a) = b
    split
    · exact Or.inr rfl
    · exact Or.inl rfl
  max_le_iff a b c := by
    change (if a ≤ b then b else a) ≤ c ↔ a ≤ c ∧ b ≤ c
    simp only [UInt64.le_iff_toNat_le]
    split <;> omega

namespace Scene

variable {s s' : Scene} {id : UInt64} {f : SceneObject → SceneObject}

theorem modifyObject_eq_ok_iff :
    s.modifyObject id f = (.ok (), s') ↔ ∃ before o after, s.objects = before ++ o :: after ∧
      (∀ b ∈ before, b.id ≠ id) ∧ o.id = id ∧
      s' = { s with objects := before ++ f o :: after } := by
  rw [modifyObject]
  constructor
  · intro h
    split at h
    · rename_i objects hobjects
      cases h
      obtain ⟨before, o, after, hs, hbefore, ho, rfl⟩ := modifyFirst?_eq_some_iff.1 hobjects
      exact ⟨before, o, after, hs, by simpa using hbefore, by simpa using ho, rfl⟩
    · cases h
  · rintro ⟨before, o, after, hs, hbefore, ho, rfl⟩
    have hobjects : modifyFirst? (·.id = id) f s.objects = some (before ++ f o :: after) :=
      modifyFirst?_eq_some_iff.2
        ⟨before, o, after, hs, by simpa using hbefore, by simpa using ho, rfl⟩
    rw [hobjects]

theorem modifyObject_eq_error_iff {fault : EditFault} :
    s.modifyObject id f = (.error fault, s') ↔
      id ∉ s.ids ∧ fault = .unknownObject id ∧ s' = s := by
  have hnone : modifyFirst? (·.id = id) f s.objects = none ↔ id ∉ s.ids := by
    simp [modifyFirst?_eq_none_iff, ids]
  rw [modifyObject, ← hnone]
  cases modifyFirst? (·.id = id) f s.objects <;> simp [eq_comm]

theorem isSome_object?_iff : (s.object? id).isSome ↔ id ∈ s.ids := by
  simp [object?, ids]

theorem select_eq_ok_iff :
    s.select id = (.ok (), s') ↔ id ∈ s.ids ∧ s' = { s with selected := some id } := by
  simp only [select, isSome_object?_iff]
  split <;> simp_all [eq_comm (a := s')]

theorem select_eq_error_iff {fault : EditFault} :
    s.select id = (.error fault, s') ↔ id ∉ s.ids ∧ fault = .unknownObject id ∧ s' = s := by
  simp only [select, isSome_object?_iff]
  split <;> simp_all [eq_comm (a := fault), eq_comm (a := s')]

/-- What holds of all objects still holds after one of them is changed, if the
    change keeps it. -/
theorem forall_objects_modifyObject {P : SceneObject → Prop} (hf : ∀ o, P o → P (f o))
    (hs : ∀ o ∈ s.objects, P o) (h : s.modifyObject id f = (.ok (), s')) :
    ∀ o ∈ s'.objects, P o := by
  obtain ⟨before, o, after, hobjects, -, -, rfl⟩ := modifyObject_eq_ok_iff.1 h
  rw [hobjects] at hs
  intro o' ho'
  rcases List.mem_append.1 ho' with hmem | hmem
  · exact hs o' (List.mem_append_left _ hmem)
  · rcases List.mem_cons.1 hmem with rfl | hmem
    · exact hf o (hs o (List.mem_append_right _ List.mem_cons_self))
    · exact hs o' (List.mem_append_right _ (List.mem_cons_of_mem _ hmem))

/-- A change that keeps the ids of objects keeps those of the scene, and it keeps
    the selection and the catalog in any case. -/
theorem ids_modifyObject (hf : ∀ o, (f o).id = o.id) (h : s.modifyObject id f = (.ok (), s')) :
    s'.ids = s.ids ∧ s'.selected = s.selected ∧ s'.catalog = s.catalog := by
  obtain ⟨before, o, after, hobjects, -, -, rfl⟩ := modifyObject_eq_ok_iff.1 h
  simp [ids, hobjects, hf]

/-- A new object gets the number behind the largest id, if it is in range. -/
theorem toNat_nextId {largest : UInt64} (hmem : largest ∈ s.ids)
    (hle : ∀ id ∈ s.ids, id ≤ largest) (hlt : largest.toNat + 1 < UInt64.size) :
    s.nextId.toNat = largest.toNat + 1 := by
  rw [nextId, List.max?_eq_some_iff.2 ⟨hmem, hle⟩]
  dsimp only
  rw [UInt64.toNat_add]
  exact Nat.mod_eq_of_lt hlt

end Scene

/-! ## One edit -/

namespace Edit

variable {s s' : Scene} {e : Edit} {answer : Answer} {fault : EditFault}

theorem answered_eq_ok_iff {r : Except EditFault Unit × Scene} :
    answered r = (.ok answer, s) ↔ answer = .done ∧ r = (.ok (), s) := by
  obtain ⟨_ | ⟨⟩, _⟩ := r <;> simp [answered, eq_comm]

theorem answered_eq_error_iff {r : Except EditFault Unit × Scene} :
    answered r = (.error fault, s) ↔ r = (.error fault, s) := by
  obtain ⟨_ | ⟨⟩, _⟩ := r <;> simp [answered]

theorem run_eq_ok_iff : e.run s = .ok (answer, s') ↔ e.perform s = (.ok answer, s') := by
  rw [run]
  obtain ⟨_ | _, _⟩ := e.perform s <;> simp

/-- **An edit that is refused leaves the scene as it was.** -/
theorem eq_of_refused (h : e.perform s = (.error fault, s')) : s' = s := by
  cases e with
  | add | catalog | append => cases h
  | select => exact (Scene.select_eq_error_iff.1 (answered_eq_error_iff.1 h)).2.2
  | move | attach => exact (Scene.modifyObject_eq_error_iff.1 (answered_eq_error_iff.1 h)).2.2

theorem run_eq_error_iff : e.run s = .error fault ↔ e.perform s = (.error fault, s) := by
  rw [run]
  cases h : e.perform s with
  | mk result s' =>
    cases result with
    | error fault' => simp [eq_of_refused h]
    | ok answer => simp

/-- An edit is refused, or it is carried out. -/
theorem perform_cases (s : Scene) (e : Edit) :
    (∃ fault, e.perform s = (.error fault, s)) ∨ ∃ answer s', e.perform s = (.ok answer, s') := by
  cases h : e.perform s with
  | mk result s' =>
    cases result with
    | error fault =>
      rw [eq_of_refused h]
      exact Or.inl ⟨fault, rfl⟩
    | ok answer => exact Or.inr ⟨answer, s', rfl⟩

/-! ## Edits in order -/

theorem runAll_cons_error (h : e.perform s = (.error fault, s')) (es : List Edit) :
    runAll s (e :: es) = (.error fault, s') := by
  rw [runAll, h]

theorem runAll_cons_ok (h : e.perform s = (.ok answer, s')) (es : List Edit) :
    runAll s (e :: es) = ((runAll s' es).1.map (answer :: ·), (runAll s' es).2) := by
  rw [runAll, h]
  dsimp only
  cases runAll s' es with
  | mk result scene => cases result <;> rfl

/-- **Edits in order are refused at the first of them that is refused**, and leave
    the scene as the edits before it made it. -/
theorem runAll_eq_error_iff {es : List Edit} :
    runAll s es = (.error fault, s') ↔ ∃ made e later answers, es = made ++ e :: later ∧
      runAll s made = (.ok answers, s') ∧ e.perform s' = (.error fault, s') := by
  induction es generalizing s with
  | nil => simp [runAll]
  | cons e es ih =>
    rcases e.perform_cases s with ⟨fault', he⟩ | ⟨answer, s₁, he⟩
    · rw [runAll_cons_error he]
      constructor
      · intro h
        cases h
        exact ⟨[], e, es, [], rfl, rfl, he⟩
      · rintro ⟨made, e', later, answers, hes, hmade, he'⟩
        cases made with
        | nil =>
          cases hes
          cases hmade
          rw [he] at he'
          cases he'
          rfl
        | cons _ made =>
          cases hes
          rw [runAll_cons_error he] at hmade
          cases hmade
    · have hlater : runAll s (e :: es) = (.error fault, s') ↔
          runAll s₁ es = (.error fault, s') := by
        rw [runAll_cons_ok he, Prod.ext_iff, Prod.ext_iff]
        cases (runAll s₁ es).1 <;> simp [Except.map]
      rw [hlater, ih]
      constructor
      · rintro ⟨made, e', later, answers, rfl, hmade, he'⟩
        refine ⟨e :: made, e', later, answer :: answers, rfl, ?_, he'⟩
        rw [runAll_cons_ok he, hmade]
        rfl
      · rintro ⟨made, e', later, answers, hes, hmade, he'⟩
        cases made with
        | nil =>
          cases hes
          cases hmade
          rw [he] at he'
          cases he'
        | cons _ made =>
          cases hes
          rw [runAll_cons_ok he] at hmade
          cases hfirst : runAll s₁ made with
          | mk result scene =>
            rw [hfirst] at hmade
            cases result with
            | error => cases hmade
            | ok answers' =>
              cases hmade
              exact ⟨made, e', later, answers', rfl, hfirst, he'⟩

/-! ## Coordinates -/

/-- The coordinates that an edit brings with it. -/
def coordinates : Edit → List Binary64
  | .move _ p => [p.x, p.y]
  | .append o => [o.position.x, o.position.y]
  | _ => []

/-- **An edit brings in no coordinates** but its own and those of the origin. -/
theorem forall_coordinates_perform {p : Binary64 → Prop} (hzero : p .zero)
    (he : ∀ v ∈ e.coordinates, p v) (hs : ∀ v ∈ s.coordinates, p v) :
    ∀ v ∈ (e.perform s).2.coordinates, p v := by
  rcases e.perform_cases s with ⟨fault, h⟩ | ⟨answer, s', h⟩
  · rwa [h]
  rw [h]
  rw [Scene.forall_coordinates] at hs ⊢
  have happend (o : SceneObject) (ho : p o.position.x ∧ p o.position.y) :
      ∀ o' ∈ (s.appendObject o).objects, p o'.position.x ∧ p o'.position.y := by
    intro o' ho'
    rcases List.mem_append.1 ho' with hmem | hmem
    · exact hs o' hmem
    · rw [List.mem_singleton.1 hmem]
      exact ho
  cases e with
  | add name =>
    cases h
    exact happend _ ⟨hzero, hzero⟩
  | select id =>
    rw [(Scene.select_eq_ok_iff.1 (answered_eq_ok_iff.1 h).2).2]
    exact hs
  | move id q =>
    have hq : p q.x ∧ p q.y := by simpa [coordinates] using he
    exact Scene.forall_objects_modifyObject (f := fun o => { o with position := q })
      (fun _ _ => hq) hs (answered_eq_ok_iff.1 h).2
  | attach id reference =>
    exact Scene.forall_objects_modifyObject
      (f := fun o => { o with scripts := o.scripts ++ [reference] }) (fun _ ho => ho) hs
      (answered_eq_ok_iff.1 h).2
  | catalog reference =>
    cases h
    rw [Scene.addScript]
    split <;> exact hs
  | append o =>
    cases h
    exact happend o (by simpa [coordinates] using he)

/-- Nor do edits in order, also when one of them is refused. -/
theorem forall_coordinates_runAll {p : Binary64 → Prop} (hzero : p .zero) {es : List Edit}
    (hes : ∀ e ∈ es, ∀ v ∈ e.coordinates, p v) {s : Scene} (hs : ∀ v ∈ s.coordinates, p v) :
    ∀ v ∈ (runAll s es).2.coordinates, p v := by
  induction es generalizing s with
  | nil => exact hs
  | cons e es ih =>
    rw [List.forall_mem_cons] at hes
    have hfirst := forall_coordinates_perform hzero hes.1 hs
    rcases e.perform_cases s with ⟨fault, he⟩ | ⟨answer, s', he⟩
    · rw [runAll_cons_error he]
      exact hs
    · rw [runAll_cons_ok he]
      rw [he] at hfirst
      exact ih hes.2 hfirst

end Edit

end SpriteScene
