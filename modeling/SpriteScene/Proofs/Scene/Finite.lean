/-
  Scenes with finite coordinates.

  * `Scene.isFinite_of_read`: a scene that is read has finite coordinates only;
  * `Scene.reread_of_isFinite` and `Scene.reread_eq_error`: the text of a scene is
    read iff its coordinates are finite;
  * `Edit.isFinite_perform` and `Edit.isFinite_runAll`: edits keep them finite unless
    they bring in others.
-/
import SpriteScene.Proofs.Json.Yields
import SpriteScene.Proofs.Scene.Edit

namespace SpriteScene

open Json

/-- Whether both coordinates are finite. -/
def SceneObject.IsFinite (o : SceneObject) : Prop := o.position.x.isFinite ∧ o.position.y.isFinite

/-- Whether all coordinates are finite. -/
def Scene.IsFinite (s : Scene) : Prop := ∀ o ∈ s.objects, o.IsFinite

theorem Scene.isFinite_iff {s : Scene} : s.IsFinite ↔ ∀ v ∈ s.coordinates, v.isFinite :=
  (forall_coordinates (p := fun v => v.isFinite)).symm

/-! ## Numbers -/

/-- Whether what is found is finite, if it is a coordinate. -/
def Json.Found.IsFinite (found : Found) : Prop := ∀ v, found.coordinate = .ok v → v.isFinite

namespace Json

theorem absorb_lt {s : Nat} (h : s < UInt64.size) (cs : List Char) :
    (absorb s cs).1 < UInt64.size := by
  induction cs generalizing s with
  | nil => exact h
  | cons c cs ih =>
    rw [absorb]
    split
    · exact ih ‹_›
    · exact h

theorem isFinite_of_double? {negative : Bool} {s : Nat} {e : Int} {n : Number}
    (h : double? negative s e = some n) : (Found.number n).IsFinite := by
  simp only [double?, Option.bind_eq_bind, Option.bind_eq_some_iff] at h
  obtain ⟨_, -, m, -, h⟩ := h
  cases h
  intro v hv
  cases hv
  rfl

/-- The integers of 64 bits are in range. -/
theorem isFinite_whole {n : Int} (h : n.natAbs < UInt64.size) :
    (Found.number (.whole n)).IsFinite := by
  obtain ⟨top, htop⟩ := Option.isSome_iff_exists.1
    (by decide +kernel : (Magnitude.ofNat UInt64.size).isSome = true)
  obtain ⟨m, hm, -⟩ := Magnitude.ofNat_mono h.le htop
  intro v hv
  cases hv
  rw [Binary64.ofInt, hm]
  rfl

/-- **Every number that is read is finite.** -/
theorem isFinite_of_value? {negative : Bool} {n : Numeral} {v : Number}
    (h : n.value? negative = some v) : (Found.number v).IsFinite := by
  have hlt := absorb_lt (s := 0) (by decide) n.whole
  unfold Numeral.value? at h
  generalize absorb 0 n.whole = r at *
  obtain ⟨s, extra⟩ := r
  dsimp only at h hlt
  split at h
  · rename_i hwhole
    rw [hwhole.1] at h
    dsimp only at h
    split at h
    · split at h
      · cases h
        exact isFinite_whole (by omega)
      · exact isFinite_of_double? h
    · cases h
      exact isFinite_whole (by simpa using hlt)
  · exact isFinite_of_double? h

theorem yields_number (negative : Bool) :
    Yields (takeNumber negative) fun n => (Found.number n).IsFinite := by
  intro cs n rest hn
  rw [takeNumber] at hn
  split at hn
  · cases hn
  · cases hn
  · split at hn
    · rename_i hvalue
      cases hn
      exact isFinite_of_value? hvalue
    · cases hn

/-- What is no coordinate is no infinite one either. -/
theorem isFinite_of_coordinate_eq_error {found : Found} {fault : Mismatch}
    (h : found.coordinate = .error fault) : found.IsFinite := by
  intro v hv
  rw [h] at hv
  cases hv

theorem yields_scalar (c : Char) : Yields (takeScalar c) Found.IsFinite := by
  have hnumber (negative : Bool) :
      Yields (fun cs => (takeNumber negative cs).map fun p => (Found.number p.1, p.2))
        Found.IsFinite :=
    (yields_number negative).map fun _ _ hn => hn
  intro cs found rest h
  rw [takeScalar] at h
  split at h
  · exact of_map_eq_ok (fun _ => isFinite_of_coordinate_eq_error rfl) h
  split at h
  · exact of_map_eq_ok (fun _ => isFinite_of_coordinate_eq_error rfl) h
  split at h
  · exact of_map_eq_ok (fun _ => isFinite_of_coordinate_eq_error rfl) h
  split at h
  · exact hnumber true _ _ _ h
  split at h
  · exact hnumber false _ _ _ h
  split at h
  · exact of_map_eq_ok (fun _ => isFinite_of_coordinate_eq_error rfl) h
  · cases h

theorem yields_skimValue (depth : Nat) : Yields (skimValue depth) Found.IsFinite := by
  cases depth with
  | zero =>
    refine yields_atValue fun c cs found rest h => ?_
    split at h
    · cases h
    · exact yields_scalar c _ _ _ h
  | succ depth =>
    refine yields_atValue fun c cs found rest h => ?_
    split at h
    · exact of_map_eq_ok (fun _ => isFinite_of_coordinate_eq_error rfl) h
    split at h
    · exact of_map_eq_ok (fun _ => isFinite_of_coordinate_eq_error rfl) h
    · exact yields_scalar c _ _ _ h

end Json

/-! ## Objects and scenes that are read -/

theorem Position.isFinite_ofMembers {members : List (String × Found)}
    (h : ∀ m ∈ members, m.2.IsFinite) {x y : Option Binary64} (hx : ∀ v ∈ x, v.isFinite)
    (hy : ∀ v ∈ y, v.isFinite) {p : Position} (hp : ofMembers x y members = .ok p) :
    p.x.isFinite ∧ p.y.isFinite := by
  induction members generalizing x y with
  | nil =>
    obtain ⟨x', hx', hp⟩ := bind_eq_ok_iff.1 hp
    obtain ⟨y', hy', hp⟩ := bind_eq_ok_iff.1 hp
    cases hp
    cases x <;> cases hx'
    cases y <;> cases hy'
    exact ⟨hx _ rfl, hy _ rfl⟩
  | cons m members ih =>
    obtain ⟨key, found⟩ := m
    rw [List.forall_mem_cons] at h
    rw [ofMembers] at hp
    split at hp
    · split at hp
      · cases hp
      · obtain ⟨v, hv, hp⟩ := bind_eq_ok_iff.1 hp
        exact ih h.2 (fun w hw => by cases hw; exact h.1 _ hv) hy hp
    split at hp
    · split at hp
      · cases hp
      · obtain ⟨v, hv, hp⟩ := bind_eq_ok_iff.1 hp
        exact ih h.2 hx (fun w hw => by cases hw; exact h.1 _ hv) hp
    · exact ih h.2 hx hy hp

/-- Whether what is kept for the coordinates of an object is finite. -/
def SceneObject.Draft.IsFinite (d : Draft) : Prop := ∀ m ∈ d.others, m.2.IsFinite

theorem SceneObject.yields_member {d : Draft} {key : String} {read : Reader Draft}
    (hd : d.IsFinite) (h : member d key = .value read) : Yields read Draft.IsFinite := by
  rw [member] at h
  split at h
  · split at h <;> cases h
    exact yields_map fun _ _ => hd
  split at h
  · split at h <;> cases h
    exact yields_map fun _ _ => hd
  split at h
  · split at h <;> cases h
    exact yields_map fun _ _ => hd
  · cases h
    refine (yields_skimValue _).map fun found _ hfound m hm => ?_
    rcases List.mem_append.1 hm with hm | hm
    · exact hd m hm
    · obtain rfl := List.mem_singleton.1 hm
      exact hfound

theorem SceneObject.yields_read : Yields SceneObject.read SceneObject.IsFinite := by
  refine yields_atValue fun c cs o rest ho => ?_
  split at ho
  · obtain ⟨⟨d, _⟩, hd, ho⟩ := bind_eq_ok_iff.1 ho
    have hothers : d.IsFinite :=
      yields_members (fun _ _ _ => yields_member) (fun m hm => absurd hm List.not_mem_nil) _ _ _ hd
    refine yields_finish (fun o ho => ?_) _ _ _ ho
    obtain ⟨_, -, ho⟩ := bind_eq_ok_iff.1 ho
    obtain ⟨_, -, ho⟩ := bind_eq_ok_iff.1 ho
    obtain ⟨p, hp, ho⟩ := bind_eq_ok_iff.1 ho
    cases ho
    exact Position.isFinite_ofMembers hothers (fun _ h => by cases h) (fun _ h => by cases h) hp
  · cases ho

namespace Scene

/-- Whether the objects of a draft are finite. -/
def Draft.IsFinite (d : Draft) : Prop := ∀ objects ∈ d.objects, ∀ o ∈ objects, o.IsFinite

theorem Draft.isFinite_ofDraft {d : Draft} (h : d.IsFinite) : (ofDraft d).IsFinite := by
  cases hd : d.objects with
  | none =>
    intro o ho
    rw [ofDraft, hd] at ho
    exact absurd ho List.not_mem_nil
  | some objects =>
    intro o ho
    rw [ofDraft, hd] at ho
    exact h objects hd o ho

theorem yields_field {field : Json.Field Draft} (hfield : field ∈ record.fields) {d : Draft}
    (hd : d.IsFinite) : Yields (field.read d) Draft.IsFinite := by
  simp only [record, List.mem_cons, List.not_mem_nil, or_false] at hfield
  rcases hfield with rfl | rfl | rfl | rfl
  · exact yields_map fun _ _ => hd
  · refine (yields_sequence SceneObject.yields_read).map fun objects _ hobjects _ ho => ?_
    cases ho
    exact hobjects
  · exact yields_map fun _ _ => hd
  · exact yields_map fun _ _ => hd

/-- **A scene that is read has finite coordinates only.** -/
theorem isFinite_of_read {text : String} {s : Scene} (h : Scene.read text = .ok s) :
    s.IsFinite := by
  have hrecord : Yields record.read Scene.IsFinite := by
    refine yields_record (Q := Draft.IsFinite) (fun _ h => by cases h)
      (fun field hfield d hd => yields_field hfield hd) ?_ ?_
    · rintro d s hd hs
      cases hs
      exact Draft.isFinite_ofDraft hd
    · rintro n d s hd hs
      cases hs
      exact Draft.isFinite_ofDraft hd
  exact hrecord.readText h

end Scene

/-! ## Scenes that are written -/

theorem SceneObject.reread_eq_error {o : SceneObject} (h : ¬ o.IsFinite) :
    o.reread = .error (.mismatch (.wrongKind .null "f64")) := by
  rw [reread]
  cases hx : o.position.x.isFinite with
  | false =>
    rw [Binary64.reread_eq_error hx]
    rfl
  | true =>
    have hy : o.position.y.isFinite = false := Bool.eq_false_iff.2 fun hy => h ⟨hx, hy⟩
    rw [(Binary64.reread_eq_ok hx).1, Binary64.reread_eq_error hy]
    rfl

/-- The first object that is not finite stops the reading of all. -/
theorem SceneObject.mapM_reread_eq_error {objects : List SceneObject}
    (h : ¬ ∀ o ∈ objects, o.IsFinite) :
    objects.mapM SceneObject.reread = .error (.mismatch (.wrongKind .null "f64")) := by
  induction objects with
  | nil => exact absurd (fun o ho => absurd ho List.not_mem_nil) h
  | cons o objects ih =>
    rw [List.mapM_cons]
    by_cases ho : o.IsFinite
    · have hlater : ¬ ∀ o ∈ objects, o.IsFinite := fun hall =>
        h (List.forall_mem_cons.2 ⟨ho, hall⟩)
      rw [reread_eq_ok (Binary64.reread_eq_ok ho.1).1 (Binary64.reread_eq_ok ho.2).1, ih hlater]
      rfl
    · rw [reread_eq_error ho]
      rfl

namespace Scene

/-- The text of a scene with finite coordinates is read. -/
theorem reread_of_isFinite {s : Scene} (h : s.IsFinite) :
    s.reread = .ok (s.mapCoordinates Binary64.afterReading) :=
  reread_eq_ok fun v hv => (Binary64.reread_eq_ok (isFinite_iff.1 h v hv)).1

/-- The text of any other scene is refused for a `null` that should be a number. -/
theorem reread_eq_error {s : Scene} (h : ¬ s.IsFinite) :
    s.reread = .error (.mismatch (.wrongKind .null "f64")) := by
  rw [reread, SceneObject.mapM_reread_eq_error h]
  rfl

theorem mapCoordinates_eq_self_iff {f : Binary64 → Binary64} {s : Scene} :
    s.mapCoordinates f = s ↔ ∀ v ∈ s.coordinates, f v = v := by
  have hobject (o : SceneObject) :
      o.mapCoordinates f = o ↔ f o.position.x = o.position.x ∧ f o.position.y = o.position.y := by
    obtain ⟨id, name, ⟨x, y⟩, scripts⟩ := o
    simp [SceneObject.mapCoordinates]
  have hscene : s.mapCoordinates f = s ↔
      s.objects.map (SceneObject.mapCoordinates f) = s.objects := by
    obtain ⟨project, objects, selected, catalog⟩ := s
    simp [mapCoordinates]
  have hmap : s.objects.map (SceneObject.mapCoordinates f) = s.objects.map id ↔
      ∀ o ∈ s.objects, o.mapCoordinates f = o := List.map_inj_left
  rw [hscene, forall_coordinates]
  rw [List.map_id] at hmap
  exact hmap.trans (forall₂_congr fun o _ => hobject o)

end Scene

/-! ## Edits -/

/-- Whether the coordinates that an edit brings in are finite. -/
def Edit.IsFinite : Edit → Prop
  | .move _ p => p.x.isFinite ∧ p.y.isFinite
  | .append o => o.IsFinite
  | _ => True

namespace Edit

theorem isFinite_iff {e : Edit} : e.IsFinite ↔ ∀ v ∈ e.coordinates, v.isFinite := by
  cases e <;> simp [IsFinite, SceneObject.IsFinite, coordinates]

/-- **An edit keeps the coordinates finite** unless it brings in others. -/
theorem isFinite_perform {e : Edit} (he : e.IsFinite) {s : Scene} (hs : s.IsFinite) :
    (e.perform s).2.IsFinite := by
  rw [Scene.isFinite_iff] at hs ⊢
  exact forall_coordinates_perform (p := fun v => v.isFinite) rfl (isFinite_iff.1 he) hs

/-- So do edits one after the other, also when one of them is refused. -/
theorem isFinite_runAll {es : List Edit} (hes : ∀ e ∈ es, e.IsFinite) {s : Scene}
    (hs : s.IsFinite) : (runAll s es).2.IsFinite := by
  rw [Scene.isFinite_iff] at hs ⊢
  exact forall_coordinates_runAll (p := fun v => v.isFinite) rfl
    (fun e he => isFinite_iff.1 (hes e he)) hs

end Edit

end SpriteScene
