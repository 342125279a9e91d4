/-
  Compiling to a file.

  * `FileTree.persist` writes a module, making the directories above it;
  * `Scene.compileTo` compiles a scene and persists the module;
  * `Report` tells what was written and where, and has a JSON form.

  A scene that does not compile changes nothing.  Otherwise only the file at the
  path changes, and only if the write succeeds.
-/
import SpriteScene.Document
import SpriteScene.Module.Compile

namespace SpriteScene

open Json

/-! ## Reports -/

/-- What was compiled, and where it was written to. -/
structure Report where
  message : String
  filePath : String
  code : String
deriving DecidableEq

/-- A report that is being read. -/
structure Report.Draft where
  message : Option String
  filePath : Option String
  code : Option String

namespace Report

/-- The report of a module that was written. -/
def success (filePath code : String) : Report := ⟨"Scene compiled successfully!", filePath, code⟩

/-- The JSON value of a report. -/
def toJson (r : Report) : Value :=
  .map [("message", .string r.message), ("filePath", .string r.filePath), ("code", .string r.code)]

/-- The text of a report in a layout. -/
def text (l : Layout) (r : Report) : String := r.toJson.text l

/-- How the record of a report is read; all its fields are required. -/
def record : Record Draft Report where
  wanted := "struct CompileReport"
  start := ⟨none, none, none⟩
  fields := [
    ⟨"message", (·.message.isSome), fun d cs =>
      (readString "a string" cs).map fun (v, cs) => ({ d with message := some v }, cs)⟩,
    ⟨"filePath", (·.filePath.isSome), fun d cs =>
      (readString "path string" cs).map fun (v, cs) => ({ d with filePath := some v }, cs)⟩,
    ⟨"code", (·.code.isSome), fun d cs =>
      (readString "a string" cs).map fun (v, cs) => ({ d with code := some v }, cs)⟩]
  ofMap d := do
    let message ← required "message" d.message
    let filePath ← required "filePath" d.filePath
    let code ← required "code" d.code
    return ⟨message, filePath, code⟩
  ofSequence count d :=
    match d with
    | ⟨some message, some filePath, some code⟩ => .ok ⟨message, filePath, code⟩
    | _ => .error (.tooShort count "struct CompileReport with 3 elements")

/-- Reads a report from a text. -/
def read (text : String) : Except Fault Report := readText record.read text

end Report

/-! ## Writing modules -/

/-- Writes a text to a path after making the directories above it.  They stay
    even if the text cannot be written. -/
def FileTree.persist (t : FileTree) (path text : String) (disk : Disk := .willing) :
    Except FileError Unit × FileTree :=
  match (Path.parent? path).filter (· ≠ "") with
  | none => write t
  | some above =>
    match t.makeDirectories above disk with
    | (.ok (), t) => write t
    | (.error fault, t) => (.error (.creating above fault), t)
where
  /-- Writes the text. -/
  write (t : FileTree) : Except FileError Unit × FileTree :=
    match t.writeText path text disk with
    | .ok t => (.ok (), t)
    | .error e => (.error e, t)

/-- Why a scene was not compiled to a file. -/
inductive OutputError where
  | compile (fault : CompileFault)
  | file (e : FileError)
deriving DecidableEq

def OutputError.message : OutputError → String
  | compile fault => fault.message
  | file e => e.message

/-- Compiles a scene and writes the module to a path. -/
def Scene.compileTo (s : Scene) (t : FileTree) (path : String) (disk : Disk := .willing) :
    Except OutputError Report × FileTree :=
  match s.compile with
  | .error fault => (.error (.compile fault), t)
  | .ok code =>
    match t.persist path code disk with
    | (.ok (), t) => (.ok (.success path code), t)
    | (.error e, t) => (.error (.file e), t)

end SpriteScene
