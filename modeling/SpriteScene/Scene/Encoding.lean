/-
  Scenes as JSON text.

  * `Scene.toJson` is the JSON value of a scene, `Scene.text` its text in a
    layout;
  * `Scene.read` reads a scene from a text.

  A scene is a record, or a sequence of its fields, and every field may be left
  out.  An object has to be a map.  Its id, name and scripts are checked where
  they stand; its coordinates stand among its other members, which are read in
  full, and are checked when the object ends.
-/
import SpriteScene.Json.Record
import SpriteScene.Json.Writer
import SpriteScene.Scene.Basic

namespace SpriteScene

open Json

/-! ## Writing -/

/-- The JSON value of a coordinate; JSON has no numbers for the values that are
    not finite. -/
def Binary64.toJson (v : Binary64) : Value := if v.isFinite then .double v else .null

def SceneObject.toJson (o : SceneObject) : Value :=
  .map [("id", .whole o.id.toNat), ("name", .string o.name), ("x", o.position.x.toJson),
    ("y", o.position.y.toJson), ("scripts", .strings o.scripts)]

/-- The members of the project, which is left out if there is none. -/
def Scene.projectMembers (s : Scene) : List (String × Value) :=
  match s.project with
  | some name => [("project", .map [("name", .string name)])]
  | none => []

def Scene.toJson (s : Scene) : Value :=
  .map (s.projectMembers ++
    [("gameObjects", .sequence (s.objects.map SceneObject.toJson)),
      ("selectedObjectId", match s.selected with
        | some id => .whole id.toNat
        | none => .null),
      ("scripts", .strings s.catalog)])

/-- The text of a scene. -/
def Scene.text (l : Layout) (s : Scene) : String := s.toJson.text l

/-! ## Reading -/

/-- The double of a coordinate. -/
def Json.Found.coordinate : Found → Except Mismatch Binary64
  | .number (.whole n) => .ok (.ofInt n)
  | .number (.double v) => .ok v
  | found => .error (.wrongKind found "f64")

/-- A position from the other members of an object, in their order; `x` and `y`
    are the coordinates found before. -/
def Position.ofMembers (x y : Option Binary64) : List (String × Found) → Except Mismatch Position
  | [] => do
    let x ← required "x" x
    let y ← required "y" y
    return ⟨x, y⟩
  | (key, found) :: rest =>
    if key = "x" then
      if x.isSome then .error (.repeated key)
      else do
        let v ← found.coordinate
        ofMembers (some v) y rest
    else if key = "y" then
      if y.isSome then .error (.repeated key)
      else do
        let v ← found.coordinate
        ofMembers x (some v) rest
    else ofMembers x y rest

/-- An object that is being read. -/
@[ext]
structure SceneObject.Draft where
  id : Option UInt64
  name : Option String
  scripts : Option (List String)
  /-- The other members, in order. -/
  others : List (String × Found)

namespace SceneObject

/-- The object of a draft. -/
def ofDraft (d : Draft) : Except Mismatch SceneObject := do
  let id ← required "id" d.id
  let name ← required "name" d.name
  let position ← Position.ofMembers none none d.others
  return ⟨id, name, position, d.scripts.getD []⟩

/-- What a key of the map of an object means.  Three containers are open around
    the values of an object. -/
def member (d : Draft) (key : String) : Member Draft :=
  if key = "id" then
    if d.id.isSome then .repeated
    else .value fun cs => (readUnsigned cs).map fun (id, cs) => ({ d with id := some id }, cs)
  else if key = "name" then
    if d.name.isSome then .repeated
    else .value fun cs =>
      (readString "a string" cs).map fun (name, cs) => ({ d with name := some name }, cs)
  else if key = "scripts" then
    if d.scripts.isSome then .repeated
    else .value fun cs =>
      (readSequence (readString "a string") cs).map fun (ss, cs) =>
        ({ d with scripts := some ss }, cs)
  else .value fun cs =>
    (skimValue (nestingLimit - 3) cs).map fun (found, cs) =>
      ({ d with others := d.others ++ [(key, found)] }, cs)

/-- Reads an object. -/
def read : Reader SceneObject :=
  atValue fun c cs =>
    if c = '\x7b' then do
      let (d, cs) ← members member ⟨none, none, none, []⟩ cs
      Record.finish (ofDraft d) cs
    else .error (wrongKind "struct SceneObject" c cs)

end SceneObject

/-- How the record of a project is read; it holds a name. -/
def projectRecord : Record (Option String) String where
  wanted := "struct Project"
  start := none
  fields := [⟨"name", Option.isSome, fun _ cs =>
    (readString "a string" cs).map fun (name, cs) => (some name, cs)⟩]
  ofMap := required "name"
  ofSequence count
    | some name => .ok name
    | none => .error (.tooShort count "struct Project with 1 element")

/-- A scene that is being read. -/
@[ext]
structure Scene.Draft where
  project : Option (Option String)
  objects : Option (List SceneObject)
  selected : Option (Option UInt64)
  catalog : Option (List String)

namespace Scene

/-- The scene of a draft; what is not there has its default. -/
def ofDraft (d : Draft) : Scene :=
  ⟨d.project.getD none, d.objects.getD [], d.selected.getD none, d.catalog.getD []⟩

/-- How the record of a scene is read. -/
def record : Record Draft Scene where
  wanted := "struct Scene"
  start := ⟨none, none, none, none⟩
  fields := [
    ⟨"project", (·.project.isSome), fun d cs =>
      (readOptional projectRecord.read cs).map fun (v, cs) => ({ d with project := some v }, cs)⟩,
    ⟨"gameObjects", (·.objects.isSome), fun d cs =>
      (readSequence SceneObject.read cs).map fun (v, cs) => ({ d with objects := some v }, cs)⟩,
    ⟨"selectedObjectId", (·.selected.isSome), fun d cs =>
      (readOptional readUnsigned cs).map fun (v, cs) => ({ d with selected := some v }, cs)⟩,
    ⟨"scripts", (·.catalog.isSome), fun d cs =>
      (readSequence (readString "a string") cs).map fun (v, cs) =>
        ({ d with catalog := some v }, cs)⟩]
  ofMap d := .ok (ofDraft d)
  ofSequence _ d := .ok (ofDraft d)

/-- Reads a scene from a text. -/
def read (text : String) : Except Fault Scene := readText record.read text

end Scene

end SpriteScene
