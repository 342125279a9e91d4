/-
  Scenes that are written and read back.

  * `SceneObject.reread` and `Scene.reread`: an object and a scene with each
    coordinate as its text is read;
  * `SceneObject.takes_write` and `Scene.takes_write`: a written object and a
    written scene are taken for that, in every layout that puts nothing but
    white space between the parts;
  * `Scene.read_text`: so a scene is read back from its compact and its pretty
    text, with nothing but its coordinates changed (`Scene.mapCoordinates`);
  * `Scene.read_text_eq`: and this is all that reading a written scene does.
-/
import SpriteScene.Proofs.Scene.Coordinate
import SpriteScene.Proofs.Steps

namespace SpriteScene

open Json

/-! ## Scenes up to the texts of their coordinates -/

namespace SceneObject

/-- The object with other coordinates. -/
def mapCoordinates (f : Binary64 → Binary64) (o : SceneObject) : SceneObject :=
  { o with position := ⟨f o.position.x, f o.position.y⟩ }

/-- The object with each coordinate as its text is read. -/
def reread (o : SceneObject) : Except Fault SceneObject := do
  let x ← o.position.x.reread
  let y ← o.position.y.reread
  return { o with position := ⟨x, y⟩ }

theorem reread_eq_ok {o : SceneObject} {rd : Binary64 → Binary64}
    (hx : o.position.x.reread = .ok (rd o.position.x))
    (hy : o.position.y.reread = .ok (rd o.position.y)) : o.reread = .ok (o.mapCoordinates rd) := by
  rw [reread, hx, hy]
  rfl

end SceneObject

namespace Scene

/-- The coordinates of the objects, in order. -/
def coordinates (s : Scene) : List Binary64 :=
  s.objects.flatMap fun o => [o.position.x, o.position.y]

/-- The scene with other coordinates. -/
def mapCoordinates (f : Binary64 → Binary64) (s : Scene) : Scene :=
  { s with objects := s.objects.map (SceneObject.mapCoordinates f) }

/-- The scene with each coordinate as its text is read. -/
def reread (s : Scene) : Except Fault Scene := do
  let objects ← s.objects.mapM SceneObject.reread
  return { s with objects }

theorem forall_coordinates {s : Scene} {p : Binary64 → Prop} :
    (∀ v ∈ s.coordinates, p v) ↔ ∀ o ∈ s.objects, p o.position.x ∧ p o.position.y := by
  simp only [coordinates, List.mem_flatMap, List.mem_cons, List.not_mem_nil, or_false]
  constructor
  · exact fun h o ho => ⟨h _ ⟨o, ho, Or.inl rfl⟩, h _ ⟨o, ho, Or.inr rfl⟩⟩
  · rintro h _ ⟨o, ho, rfl | rfl⟩
    · exact (h o ho).1
    · exact (h o ho).2

theorem reread_eq_ok {s : Scene} {rd : Binary64 → Binary64}
    (h : ∀ v ∈ s.coordinates, v.reread = .ok (rd v)) : s.reread = .ok (s.mapCoordinates rd) := by
  rw [forall_coordinates] at h
  rw [reread, mapM_eq_ok fun o ho => SceneObject.reread_eq_ok (h o ho).1 (h o ho).2]
  rfl

end Scene

/-! ## Written containers -/

theorem Json.writeElements_eq_map (l : Layout) (depth : Nat) (vs : List Value) :
    writeElements l depth vs = vs.map (Value.write l depth) := by
  induction vs with
  | nil => rfl
  | cons v vs ih => rw [writeElements, ih, List.map_cons]

theorem Json.writeMembers_eq_map (l : Layout) (depth : Nat) (ms : List (String × Value)) :
    writeMembers l depth ms =
      (ms.map fun m => (m.1, m.2.write l depth)).map (memberText l) := by
  induction ms with
  | nil => rfl
  | cons m ms ih => rw [writeMembers, ih, List.map_cons, List.map_cons, memberText]

section
variable {l : Layout} (hl : l.IsSpaced) (depth : Nat)

include hl

/-- A list of values is taken for what each of them is taken for. -/
theorem Json.takes_list {read : Reader β} {as : List α} {write : α → Value}
    {f : α → Except Fault β}
    (h : ∀ a ∈ as, Takes read ((write a).write l (depth + 1)) (f a)) :
    Takes (readSequence read) ((Value.sequence (as.map write)).write l depth) (as.mapM f) := by
  have hresults : Takes (readSequence read) ((Value.sequence (as.map write)).write l depth)
      ((as.map f).mapM id) := by
    rw [Value.write, writeElements_eq_map, List.map_map]
    refine takes_sequence hl depth ?_
    rw [List.forall₂_map_left_iff, List.forall₂_map_right_iff, List.forall₂_same]
    exact h
  rwa [List.mapM_map, Function.id_comp] at hresults

theorem Json.reads_strings (ss : List String) :
    Reads (readSequence (readString "a string")) ((Value.strings ss).write l depth) ss := by
  have hstring : ∀ s ∈ ss, Reads (readString "a string")
      ((Value.string s).write l (depth + 1)) s := by
    intro s _
    rw [Value.write]
    exact reads_string "a string" s
  have h := takes_list hl depth hstring
  have hall : ss.mapM (.ok : String → Except Fault String) = .ok (ss.map id) :=
    mapM_eq_ok fun _ _ => rfl
  rwa [hall, List.map_id] at h

/-! ## Objects -/

omit hl in
theorem Position.ofMembers_found (x y : Found) :
    Position.ofMembers none none [("x", x), ("y", y)] = (do
      let x ← x.coordinate
      let y ← y.coordinate
      return ⟨x, y⟩) := rfl

/-- **A written object is taken for the object** with each coordinate as its text
    is read. -/
theorem SceneObject.takes_write (o : SceneObject) :
    Takes SceneObject.read (o.toJson.write l depth) o.reread := by
  obtain ⟨x, hx, hxread⟩ := o.position.x.exists_found l (depth + 1)
  obtain ⟨y, hy, hyread⟩ := o.position.y.exists_found l (depth + 1)
  have hmembers : TakesMembers SceneObject.member ⟨none, none, none, []⟩
      [("id", toString o.id.toNat), ("name", writeString o.name),
        ("x", o.position.x.toJson.write l (depth + 1)),
        ("y", o.position.y.toJson.write l (depth + 1)),
        ("scripts", (Value.strings o.scripts).write l (depth + 1))]
      (.ok ⟨some o.id, some o.name, some o.scripts, [("x", x), ("y", y)]⟩) := by
    refine .cons rfl ((reads_unsigned o.id).map fun id => Draft.mk (some id) none none []) ?_
    refine .cons rfl ((reads_string "a string" o.name).map fun name =>
      Draft.mk (some o.id) (some name) none []) ?_
    refine .cons rfl (hx.map fun found => Draft.mk (some o.id) (some o.name) none [("x", found)]) ?_
    refine .cons rfl (hy.map fun found =>
      Draft.mk (some o.id) (some o.name) none [("x", x), ("y", found)]) ?_
    refine .cons rfl ((reads_strings hl (depth + 1) o.scripts).map fun ss =>
      Draft.mk (some o.id) (some o.name) (some ss) [("x", x), ("y", y)]) ?_
    exact .nil _
  obtain ⟨cs, hcs, hread⟩ := members_parts hl depth hmembers
  rw [toJson, Value.write, writeMembers_eq_map]
  refine takes_atValue hcs (by decide) (by decide) fun rest _ => ?_
  rw [if_pos rfl, hread]
  have hfinish : (ofDraft ⟨some o.id, some o.name, some o.scripts, [("x", x), ("y", y)]⟩).mapError
      Fault.mismatch = o.reread := by
    rw [reread, ← hxread, ← hyread, ofDraft, Position.ofMembers_found]
    cases x.coordinate <;> cases y.coordinate <;> rfl
  rw [← hfinish]
  exact Record.finish_eq _ rest

/-! ## Scenes -/

theorem projectRecord_reads_write (name : String) :
    Reads (readOptional projectRecord.read)
      ((Value.map [("name", .string name)]).write l depth) (some name) := by
  have hmembers : TakesMembers projectRecord.member none [("name", writeString name)]
      (.ok (some name)) :=
    .cons rfl ((reads_string "a string" name).map some) (.nil _)
  rw [Value.write, writeMembers_eq_map]
  refine reads_optional (takes_record projectRecord hl depth hmembers) ?_
  obtain ⟨cs, hcs, -⟩ := members_parts hl depth hmembers
  rw [List.map_cons, List.map_nil, Value.write, hcs, List.head?_cons]
  decide

omit hl in
theorem Scene.selected_reads_write (selected : Option UInt64) :
    Reads (readOptional readUnsigned)
      ((match selected with
        | some id => Value.whole id.toNat
        | none => Value.null).write l depth) selected := by
  cases selected with
  | none => exact reads_null readUnsigned
  | some id =>
    refine reads_optional (reads_unsigned id) ?_
    change (toString id.toNat).toList.head? ≠ some 'n'
    rw [Nat.toString_eq_ofList_toDigits, String.toList_ofList]
    intro hc
    exact absurd ((isDigits_toDigits id.toNat).2 'n' (List.mem_of_mem_head? hc)) (by decide)

/-- The members behind the project. -/
theorem Scene.takesMembers (s : Scene) (project : Option (Option String)) :
    TakesMembers Scene.record.member ⟨project, none, none, none⟩
      [("gameObjects", (Value.sequence (s.objects.map SceneObject.toJson)).write l depth),
        ("selectedObjectId", (match s.selected with
          | some id => Value.whole id.toNat
          | none => Value.null).write l depth),
        ("scripts", (Value.strings s.catalog).write l depth)]
      ((s.objects.mapM SceneObject.reread).map fun objects =>
        ⟨project, some objects, some s.selected, some s.catalog⟩) := by
  have hobjects : Takes (readSequence SceneObject.read)
      ((Value.sequence (s.objects.map SceneObject.toJson)).write l depth)
      (s.objects.mapM SceneObject.reread) :=
    takes_list hl depth fun o _ => o.takes_write hl (depth + 1)
  replace hobjects := hobjects.map fun objects => Draft.mk project (some objects) none none
  cases hread : s.objects.mapM SceneObject.reread with
  | error fault =>
    rw [hread] at hobjects
    exact .refused rfl hobjects
  | ok objects =>
    rw [hread] at hobjects
    refine .cons rfl hobjects ?_
    refine .cons rfl ((selected_reads_write depth s.selected).map fun selected =>
      Draft.mk project (some objects) (some selected) none) ?_
    refine .cons rfl ((reads_strings hl depth s.catalog).map fun catalog =>
      Draft.mk project (some objects) (some s.selected) (some catalog)) ?_
    exact .nil _

omit hl in
/-- A scene that is complete but for its objects. -/
theorem Scene.finish_objects (s : Scene) (project : Option (Option String))
    (hp : project.getD none = s.project) :
    ((s.objects.mapM SceneObject.reread).map fun objects =>
      Draft.mk project (some objects) (some s.selected) (some s.catalog)).bind
        (fun d => (record.ofMap d).mapError Fault.mismatch) = s.reread := by
  rw [reread]
  cases s.objects.mapM SceneObject.reread with
  | error => rfl
  | ok objects => exact congrArg (fun p => Except.ok { s with project := p, objects }) hp

/-- **A written scene is taken for the scene** with each coordinate as its text is
    read. -/
theorem Scene.takes_write (s : Scene) :
    Takes Scene.record.read (s.toJson.write l depth) s.reread := by
  rw [toJson, Value.write, writeMembers_eq_map, projectMembers]
  cases hp : s.project with
  | none =>
    rw [← s.finish_objects none (by rw [hp]; rfl)]
    exact takes_record Scene.record hl depth (s.takesMembers hl (depth + 1) none)
  | some name =>
    have hmembers : TakesMembers Scene.record.member Scene.record.start (("project", _) :: _) _ :=
      .cons rfl ((projectRecord_reads_write hl (depth + 1) name).map fun project =>
        Draft.mk (some project) none none none) (s.takesMembers hl (depth + 1) (some (some name)))
    rw [← s.finish_objects (some (some name)) (by rw [hp]; rfl)]
    exact takes_record Scene.record hl depth hmembers

end

/-- **Reading a written scene** does nothing but to read the texts of its
    coordinates. -/
theorem Scene.read_text_eq (s : Scene) :
    Scene.read (s.text .compact) = s.reread ∧ Scene.read (s.text .pretty) = s.reread :=
  ⟨(s.takes_write isSpaced_compact 0).readText, (s.takes_write isSpaced_pretty 0).readText⟩

/-- **Scenes survive the compact and the pretty layout**, up to what the texts of
    their coordinates are read as. -/
theorem Scene.read_text {s : Scene} {rd : Binary64 → Binary64}
    (hread : ∀ v ∈ s.coordinates, v.reread = .ok (rd v)) :
    Scene.read (s.text .compact) = .ok (s.mapCoordinates rd) ∧
      Scene.read (s.text .pretty) = .ok (s.mapCoordinates rd) := by
  obtain ⟨hcompact, hpretty⟩ := s.read_text_eq
  rw [hcompact, hpretty, reread_eq_ok hread]
  exact ⟨rfl, rfl⟩

/-- A scene with much that could be lost: an empty project name, quotes and control
    characters, the largest id, an id and a script twice, a selection that names
    no object, and a coordinate that is read as another. -/
def crowdedScene : Scene where
  project := some ""
  objects := [
    ⟨0xffffffffffffffff, "\"\\\n\x01", ⟨.nearlyOne, .zero⟩, ["A.ts", "A.ts"]⟩,
    ⟨0xffffffffffffffff, "]\x7d, null", ⟨.finite true .zero, .nearlyOne⟩, []⟩]
  selected := some 7
  catalog := ["", "\t"]

/-- What the coordinates of the crowded scene are read as. -/
def crowdedReading (v : Binary64) : Binary64 := if v = .nearlyOne then .one else v

theorem read_text_crowdedScene :
    (∀ v ∈ crowdedScene.coordinates, v.reread = .ok (crowdedReading v)) ∧
      Scene.read (crowdedScene.text .compact) = .ok (crowdedScene.mapCoordinates crowdedReading) ∧
      Scene.read (crowdedScene.text .pretty) = .ok (crowdedScene.mapCoordinates crowdedReading) := by
  have hzero (negative : Bool) : Binary64.IsShort (.finite negative .zero) :=
    ⟨negative, 0, 0, by decide, Or.inl rfl, rfl⟩
  have h : ∀ v ∈ crowdedScene.coordinates, v.reread = .ok (crowdedReading v) := by
    refine Scene.forall_coordinates.2 (List.forall_mem_cons.2
      ⟨⟨?_, ?_⟩, List.forall_mem_singleton.2 ⟨?_, ?_⟩⟩)
    · exact Binary64.reread_nearlyOne
    · exact (hzero false).reread_eq_ok
    · exact (hzero true).reread_eq_ok
    · exact Binary64.reread_nearlyOne
  exact ⟨h, Scene.read_text h⟩

end SpriteScene
