/-
  The command line.

  * `Command.parse` makes a command of arguments; ids and coordinates are read
    here, so a command that is run has good ones;
  * `Command.run` carries out a command on a tree of files, as far as the disk
    takes the changes;
  * `runArguments` does both, and is the whole program but for the reading and
    writing of real files.

  Every run ends with status 0, or with status 1 and a message.
-/
import SpriteScene.Config
import SpriteScene.Number.Reading
import SpriteScene.Preview
import SpriteScene.Report
import SpriteScene.Scene.Issue

namespace SpriteScene

/-! ## Arguments -/

/-- What the program can be asked to do. -/
inductive Command where
  | compile (path : String) (output : Option String) (asJson : Bool)
  | check (path : String)
  | preview (path : String)
  | create (path : String) (project : Option String)
  | add (path name : String)
  | select (path : String) (id : UInt64)
  | move (path : String) (id : UInt64) (p : Position)
  | attach (path : String) (id : UInt64) (reference : String)
deriving DecidableEq

/-- How the commands are called. -/
structure Usage where
  compile : String := "phaser-scene-compiler compile <scene.json> [output.tsx] [--json]"
  check : String := "phaser-scene-compiler check <scene.json>"
  preview : String := "phaser-scene-compiler show <scene.json>"
  create : String := "phaser-scene-compiler new <scene.json> [project]"
  add : String := "phaser-scene-compiler add <scene.json> <name>"
  select : String := "phaser-scene-compiler select <scene.json> <id>"
  move : String := "phaser-scene-compiler move <scene.json> <id> <x> <y>"
  attach : String := "phaser-scene-compiler attach <scene.json> <id> <script>"

/-- The calls of the commands. -/
def usage : Usage := {}

/-- The calls of all commands. -/
def overview : String :=
  "Phaser scene compiler\n\nUsage:\n  " ++ "\n  ".intercalate
    [usage.compile, usage.check, usage.preview, usage.create, usage.add, usage.select, usage.move,
     usage.attach]

/-- Why arguments are no command. -/
inductive ArgumentFault where
  /-- An argument is missing; the text tells how the command is called. -/
  | incomplete (text : String)
  | badId (argument : String) (fault : WholeFault)
  | badCoordinate (argument : String) (fault : DecimalFault)
  /-- A coordinate that is a number, but not a finite one. -/
  | notFinite (argument : String)
deriving DecidableEq

def ArgumentFault.message : ArgumentFault → String
  | incomplete text => text
  | badId argument fault => "Invalid object id '" ++ argument ++ "': " ++ fault.message
  | badCoordinate argument fault =>
    "Invalid coordinate '" ++ argument ++ "': " ++ fault.message
  | notFinite argument => "Invalid coordinate '" ++ argument ++ "'"

/-- The first argument and those behind it. -/
def takeArgument (text : String) : List String → Except ArgumentFault (String × List String)
  | [] => .error (.incomplete text)
  | a :: as => .ok (a, as)

/-- An id and the arguments behind it. -/
def takeId (text : String) (as : List String) : Except ArgumentFault (UInt64 × List String) := do
  let (a, as) ← takeArgument text as
  match readWhole a with
  | .ok id => return (id, as)
  | .error fault => throw (.badId a fault)

/-- A coordinate and the arguments behind it. -/
def takeCoordinate (text : String) (as : List String) :
    Except ArgumentFault (Binary64 × List String) := do
  let (a, as) ← takeArgument text as
  match readDecimal a with
  | .ok v => if v.isFinite then return (v, as) else throw (.notFinite a)
  | .error fault => throw (.badCoordinate a fault)

namespace Command

/-- The mark of a report in JSON; it can stand anywhere among the arguments. -/
def jsonMark : String := "--json"

/-- The command that arguments call for.  Arguments behind those of the command
    are ignored. -/
def parse : List String → Except ArgumentFault Command
  | "compile" :: as => do
    let (path, rest) ← takeArgument usage.compile (as.filter (· ≠ jsonMark))
    return .compile path rest.head? (as.contains jsonMark)
  | "check" :: as => do
    let (path, _) ← takeArgument usage.check as
    return .check path
  | "show" :: as => do
    let (path, _) ← takeArgument usage.preview as
    return .preview path
  | "new" :: as => do
    let (path, rest) ← takeArgument usage.create as
    return .create path rest.head?
  | "add" :: as => do
    let (path, as) ← takeArgument usage.add as
    let (name, _) ← takeArgument usage.add as
    return .add path name
  | "select" :: as => do
    let (path, as) ← takeArgument usage.select as
    let (id, _) ← takeId usage.select as
    return .select path id
  | "move" :: as => do
    let (path, as) ← takeArgument usage.move as
    let (id, as) ← takeId usage.move as
    let (x, as) ← takeCoordinate usage.move as
    let (y, _) ← takeCoordinate usage.move as
    return .move path id ⟨x, y⟩
  | "attach" :: as => do
    let (path, as) ← takeArgument usage.attach as
    let (id, as) ← takeId usage.attach as
    let (reference, _) ← takeArgument usage.attach as
    return .attach path id reference
  | _ => .error (.incomplete overview)

end Command

/-! ## Runs -/

/-- How a run ended. -/
structure Outcome where
  status : UInt32
  /-- What was written to the standard output. -/
  output : String
  /-- What was written to the standard error. -/
  errors : String
  files : FileTree

namespace Outcome

/-- A run that did what it was asked to. -/
def done (t : FileTree) (output errors : String) : Outcome := ⟨0, output, errors, t⟩

/-- A run that failed, after some output. -/
def failed (t : FileTree) (output errors message : String) : Outcome :=
  ⟨1, output, errors ++ "Error: " ++ message ++ "\n", t⟩

end Outcome

namespace Command

/-- Compiles the scene of a file to a module. -/
def runCompile (home : String) (t : FileTree) (path : String) (output : Option String)
    (asJson : Bool) (disk : Disk) : Outcome :=
  match t.loadScene path with
  | .error e => .failed t "" "" e.context
  | .ok s =>
    let target := output.getD (Config.load t (Config.pathIn home)).outputPath
    match s.compileTo t target disk with
    | (.error e, t) => .failed t "" "" ("Failed to compile " ++ path ++ ": " ++ e.message)
    | (.ok report, t) =>
      if asJson then .done t (report.text .pretty ++ "\n") ""
      else
        .done t "" ("Compiled " ++ toString s.objects.length ++ " objects from " ++ path ++ " -> " ++
          report.filePath ++ "\n")

/-- Lists the issues of a scene and tries to compile it. -/
def runCheck (t : FileTree) (path : String) : Outcome :=
  match t.loadScene path with
  | .error e => .failed t "" "" e.context
  | .ok s =>
    let warnings := String.join (s.issues.map fun issue => "warning: " ++ issue.message ++ "\n")
    match s.compile with
    | .error fault => .failed t "" warnings (path ++ " does not compile: " ++ fault.message)
    | .ok _ =>
      .done t "" (warnings ++ path ++ ": ok (" ++ toString s.issues.length ++ " warnings)\n")

/-- Shows a scene and its module. -/
def runPreview (t : FileTree) (path : String) : Outcome :=
  match t.loadScene path with
  | .error e => .failed t "" "" e.context
  | .ok s =>
    let shown := s.hierarchy ++ "\n"
    match s.compile with
    | .error fault => .failed t shown "" fault.message
    | .ok code => .done t (shown ++ sourcePreview code) ""

/-- Saves a document as the end of a run. -/
def saveAndReport (t : FileTree) (d : Document) (output : String) (disk : Disk) : Outcome :=
  match d.store t disk with
  | (.error e, _, t) => .failed t "" "" e.message
  | (.ok (), _, t) => .done t output ""

/-- Makes a new file with an empty scene. -/
def runCreate (t : FileTree) (path : String) (project : Option String) (disk : Disk) :
    Outcome :=
  if t.exists? path then .failed t "" "" (path ++ " already exists")
  else
    match Document.open? t path with
    | .error e => .failed t "" "" e.context
    | .ok d =>
      let d := match project with
        | some name => { d with scene := .ofProject name }
        | none => d
      saveAndReport t d "" disk

/-- What a run prints for the answers of its edits: the ids of new objects. -/
def printed (answers : List Answer) : String :=
  String.join <| answers.map fun answer =>
    match answer with
    | .added id => toString id ++ "\n"
    | _ => ""

/-- Opens a document, carries out edits and saves it. -/
def runEdits (t : FileTree) (path : String) (edits : List Edit) (disk : Disk) : Outcome :=
  match Document.open? t path with
  | .error e => .failed t "" "" e.context
  | .ok d =>
    match d.edit fun s => Edit.runAll s edits with
    | (.error fault, _) => .failed t "" "" fault.message
    | (.ok answers, d) => saveAndReport t d (printed answers) disk

/-- Carries out a command. -/
def run (home : String) (t : FileTree) (c : Command) (disk : Disk := .willing) : Outcome :=
  match c with
  | .compile path output asJson => runCompile home t path output asJson disk
  | .check path => runCheck t path
  | .preview path => runPreview t path
  | .create path project => runCreate t path project disk
  | .add path name => runEdits t path [.add name] disk
  | .select path id => runEdits t path [.select id] disk
  | .move path id p => runEdits t path [.move id p] disk
  | .attach path id reference => runEdits t path [.attach id reference, .catalog reference] disk

end Command

/-- Runs the program on its arguments. -/
def runArguments (home : String) (t : FileTree) (arguments : List String)
    (disk : Disk := .willing) : Outcome :=
  match Command.parse arguments with
  | .error fault => .failed t "" "" fault.message
  | .ok command => command.run home t disk

end SpriteScene
