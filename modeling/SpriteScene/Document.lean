/-
  Documents: scenes that live in a file.

  A document is opened from a path, edited, and saved to the same path.  It is
  dirty from the first successful edit until it is saved.  A path that leads to
  nothing opens as the empty scene, and the first save makes the file.

  * `Document.open?` and `Document.store` tie a document to a tree of files; a
    save that fails leaves both as they were, and `Document.save` is what one
    that succeeds gives;
  * `Document.edit` hands the scene to an action.  An action that fails leaves
    the dirty mark as it was, and the scene as the action left it.
-/
import SpriteScene.Files.Tree
import SpriteScene.Scene.Encoding
import SpriteScene.Scene.Edit

namespace SpriteScene

/-- A file that could not be used, and what was to be done with it. -/
inductive FileError where
  | reading (path : String) (fault : FileFault)
  | writing (path : String) (fault : FileFault)
  | creating (path : String) (fault : FileFault)
deriving DecidableEq

def FileError.message : FileError → String
  | reading path fault => "Failed to read " ++ path ++ ": " ++ fault.message
  | writing path fault => "Failed to write " ++ path ++ ": " ++ fault.message
  | creating path fault => "Failed to create " ++ path ++ ": " ++ fault.message

/-- Why a scene could not be had from a file. -/
inductive LoadError where
  | file (e : FileError)
  /-- The text of the file is no scene. -/
  | text (path : String) (fault : Json.Fault)
deriving DecidableEq

/-- What was being done when the error came up. -/
def LoadError.context : LoadError → String
  | file e => e.message
  | text path _ => "Failed to parse " ++ path

/-- The text of a file. -/
def FileTree.readText (t : FileTree) (path : String) : Except FileError String :=
  match t.read path with
  | .ok text => .ok text
  | .error fault => .error (.reading path fault)

/-- Replaces the text of a file. -/
def FileTree.writeText (t : FileTree) (path text : String) (disk : Disk := .willing) :
    Except FileError FileTree :=
  match t.write path text disk with
  | .ok t => .ok t
  | .error fault => .error (.writing path fault)

/-- The scene in a file. -/
def FileTree.loadScene (t : FileTree) (path : String) : Except LoadError Scene :=
  match t.readText path with
  | .error e => .error (.file e)
  | .ok text =>
    match Scene.read text with
    | .ok s => .ok s
    | .error fault => .error (.text path fault)

/-- A scene with the file it belongs to. -/
structure Document where
  scene : Scene
  path : String
  /-- Whether the scene was edited since it was opened or saved. -/
  dirty : Bool
deriving DecidableEq

namespace Document

/-- Opens the document of a path. -/
def open? (t : FileTree) (path : String) : Except LoadError Document :=
  if t.exists? path then
    match t.loadScene path with
    | .ok scene => .ok ⟨scene, path, false⟩
    | .error e => .error e
  else .ok ⟨.empty, path, false⟩

/-- Lets an action work on the scene. -/
def edit (d : Document) (action : Scene → Except ε α × Scene) : Except ε α × Document :=
  match action d.scene with
  | (.ok a, scene) => (.ok a, { d with scene, dirty := true })
  | (.error e, scene) => (.error e, { d with scene })

/-- Writes the scene to the file. -/
def store (t : FileTree) (d : Document) (disk : Disk := .willing) :
    Except FileError Unit × Document × FileTree :=
  match t.writeText d.path (d.scene.text .pretty) disk with
  | .ok t => (.ok (), { d with dirty := false }, t)
  | .error e => (.error e, d, t)

/-- The document and the files after a save that succeeds. -/
def save (t : FileTree) (d : Document) (disk : Disk := .willing) :
    Except FileError (Document × FileTree) :=
  match d.store t disk with
  | (.ok (), d, t) => .ok (d, t)
  | (.error e, _) => .error e

end Document

end SpriteScene
