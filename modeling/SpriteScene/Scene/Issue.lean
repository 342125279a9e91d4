/-
  Issues of a scene: what an editor would have prevented.

  Issues are advice; they do not stop compilation.  `Scene.issues` lists them:
  every id that an earlier object has, then a selection that names no object,
  then for every object the scripts that the catalog lacks, each once.
-/
import SpriteScene.Scene.Basic

namespace SpriteScene

/-- Something that is not as it should be in a scene. -/
inductive Issue where
  | duplicateId (id : UInt64)
  | unknownSelection (id : UInt64)
  | uncataloguedScript (id : UInt64) (reference : String)
deriving DecidableEq

def Issue.message : Issue → String
  | duplicateId id => "Duplicate object id: " ++ toString id
  | unknownSelection id => "Selected object " ++ toString id ++ " does not exist"
  | uncataloguedScript id reference =>
    "Object " ++ toString id ++ " references '" ++ reference ++
      "', which is not in the script catalog"

/-- The elements that are among those before them; `seen` are the elements
    before the list. -/
def repetitions [DecidableEq α] : (seen : List α) → List α → List α
  | _, [] => []
  | seen, a :: as => if a ∈ seen then a :: repetitions seen as else repetitions (a :: seen) as

/-- The distinct scripts of an object that a catalog lacks. -/
def SceneObject.uncatalogued (catalog : List String) (o : SceneObject) : List String :=
  (o.scripts.filter (· ∉ catalog)).eraseDups

namespace Scene

/-- The issues with ids. -/
def idIssues (s : Scene) : List Issue := (repetitions [] s.ids).map .duplicateId

/-- The issue with the selection, if there is one. -/
def selectionIssues (s : Scene) : List Issue :=
  match s.selected with
  | some id => if id ∈ s.ids then [] else [.unknownSelection id]
  | none => []

/-- The issues with the catalog. -/
def catalogIssues (s : Scene) : List Issue :=
  s.objects.flatMap fun o => (o.uncatalogued s.catalog).map (.uncataloguedScript o.id)

/-- All issues of a scene. -/
def issues (s : Scene) : List Issue := s.idIssues ++ s.selectionIssues ++ s.catalogIssues

end Scene

end SpriteScene
