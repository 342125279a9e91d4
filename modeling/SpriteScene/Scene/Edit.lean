/-
  Editing scenes.

  * `Scene.addObject`, `select`, `moveObject`, `attachScript`, `addScript` and
    `appendObject` are the single edits;
  * `Edit` has them as data, with `Edit.perform` to carry one out;
  * `Edit.runAll` carries out a list of them and stops at the first fault; what
    was done before the fault stays done.

  An edit by id goes to the first object that has the id.  An edit that can be
  refused gives the scene after it in either case.
-/
import SpriteScene.Scene.Basic

namespace SpriteScene

/-- Why an edit is refused. -/
inductive EditFault where
  | unknownObject (id : UInt64)
deriving DecidableEq

def EditFault.message : EditFault → String
  | unknownObject id => "no object with id " ++ toString id

/-- Changes the first element that satisfies a predicate; none if there is no
    such element. -/
def modifyFirst? (p : α → Bool) (f : α → α) : List α → Option (List α)
  | [] => none
  | a :: as => if p a then some (f a :: as) else (modifyFirst? p f as).map (a :: ·)

namespace Scene

/-- The id for a new object: one past the largest id there is. -/
def nextId (s : Scene) : UInt64 :=
  match s.ids.max? with
  | some largest => largest + 1
  | none => 1

/-- Appends an object. -/
def appendObject (s : Scene) (o : SceneObject) : Scene := { s with objects := s.objects ++ [o] }

/-- Appends a new object of a given name at the origin. -/
def addObject (s : Scene) (name : String) : Scene :=
  s.appendObject ⟨s.nextId, name, .origin, []⟩

/-- Selects the object of an id. -/
def select (s : Scene) (id : UInt64) : Except EditFault Unit × Scene :=
  if (s.object? id).isSome then (.ok (), { s with selected := some id })
  else (.error (.unknownObject id), s)

/-- Changes the object of an id. -/
def modifyObject (s : Scene) (id : UInt64) (f : SceneObject → SceneObject) :
    Except EditFault Unit × Scene :=
  match modifyFirst? (·.id = id) f s.objects with
  | some objects => (.ok (), { s with objects })
  | none => (.error (.unknownObject id), s)

/-- Moves the object of an id. -/
def moveObject (s : Scene) (id : UInt64) (p : Position) : Except EditFault Unit × Scene :=
  s.modifyObject id fun o => { o with position := p }

/-- Attaches a script to the object of an id, behind those it has. -/
def attachScript (s : Scene) (id : UInt64) (reference : String) : Except EditFault Unit × Scene :=
  s.modifyObject id fun o => { o with scripts := o.scripts ++ [reference] }

/-- Adds a script to the catalog unless it is listed. -/
def addScript (s : Scene) (reference : String) : Scene :=
  if reference ∈ s.catalog then s else { s with catalog := s.catalog ++ [reference] }

end Scene

/-! ## Edits as data -/

/-- An edit of a scene. -/
inductive Edit where
  | add (name : String)
  | select (id : UInt64)
  | move (id : UInt64) (p : Position)
  | attach (id : UInt64) (reference : String)
  | catalog (reference : String)
  | append (o : SceneObject)
deriving DecidableEq

/-- What an edit answers. -/
inductive Answer where
  | done
  /-- The id of the object that was added. -/
  | added (id : UInt64)
  /-- Whether the script was new to the catalog. -/
  | catalogued (fresh : Bool)
deriving DecidableEq

namespace Edit

/-- The answer of an edit that has nothing to tell. -/
def answered : Except EditFault Unit × Scene → Except EditFault Answer × Scene
  | (.ok (), s) => (.ok .done, s)
  | (.error fault, s) => (.error fault, s)

/-- Carries out an edit: what it answers, or why it is refused, and the scene after it. -/
def perform (s : Scene) : Edit → Except EditFault Answer × Scene
  | .add name => (.ok (.added s.nextId), s.addObject name)
  | .select id => answered (s.select id)
  | .move id p => answered (s.moveObject id p)
  | .attach id reference => answered (s.attachScript id reference)
  | .catalog reference => (.ok (.catalogued (reference ∉ s.catalog)), s.addScript reference)
  | .append o => (.ok .done, s.appendObject o)

/-- What an edit answers that is carried out, with the scene that it makes. -/
def run (s : Scene) (e : Edit) : Except EditFault (Answer × Scene) :=
  match e.perform s with
  | (.ok answer, s) => .ok (answer, s)
  | (.error fault, _) => .error fault

/-- Carries out edits in order up to the first fault, and gives the scene as it
    stands then. -/
def runAll (s : Scene) : List Edit → Except EditFault (List Answer) × Scene
  | [] => (.ok [], s)
  | e :: es =>
    match e.perform s with
    | (.error fault, s) => (.error fault, s)
    | (.ok answer, s) =>
      match runAll s es with
      | (.ok answers, s) => (.ok (answer :: answers), s)
      | (.error fault, s) => (.error fault, s)

end Edit

end SpriteScene
