/-
  Scenes: what a game level holds.

  A scene lists named objects at positions, each with the scripts attached to
  it.  Beside the objects it may name a project, mark one object as selected,
  and keep a catalog of known scripts.  Ids are meant to be distinct, the
  selection to name an object and the catalog to list every attached script,
  but a scene read from a file need not be so (`Scene.issues` finds out).

  * `Scene.object?` is the object of an id: the first one that has it;
  * `Scene.references` are the script references of all objects in order.
-/
import SpriteScene.Number.Binary64

namespace SpriteScene

/-- A point of the level. -/
structure Position where
  x : Binary64
  y : Binary64
deriving DecidableEq

/-- The origin, where new objects are put. -/
def Position.origin : Position := ⟨.zero, .zero⟩

/-- An object of a scene.  Each of its script references becomes an instance of
    its own, so a reference may occur more than once. -/
structure SceneObject where
  id : UInt64
  name : String
  position : Position
  scripts : List String
deriving DecidableEq

/-- A scene. -/
structure Scene where
  /-- The name of the project, if there is one. -/
  project : Option String
  /-- The objects, in the order in which they are compiled. -/
  objects : List SceneObject
  /-- The id of the selected object. -/
  selected : Option UInt64
  /-- The scripts known to the editor. -/
  catalog : List String
deriving DecidableEq

namespace Scene

/-- The scene with nothing in it. -/
def empty : Scene := ⟨none, [], none, []⟩

instance : Inhabited Scene := ⟨empty⟩

/-- The empty scene of a project. -/
def ofProject (name : String) : Scene := { empty with project := some name }

/-- The ids of the objects. -/
def ids (s : Scene) : List UInt64 := s.objects.map (·.id)

/-- The first object with an id. -/
def object? (s : Scene) (id : UInt64) : Option SceneObject := s.objects.find? (·.id = id)

/-- The selected object. -/
def selectedObject? (s : Scene) : Option SceneObject := s.selected.bind s.object?

/-- The script references of all objects, with their repetitions. -/
def references (s : Scene) : List String := s.objects.flatMap (·.scripts)

end Scene

end SpriteScene
