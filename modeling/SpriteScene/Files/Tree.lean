/-
  A tree of files, and what can be done with it.

  A `FileTree` holds files and directories by their location, which is the list
  of names on the way to them from the root.  A path is walked from the root or
  from the working directory.

  * `FileTree.read`, `exists?` and `isDirectory` look at what a path leads to;
  * `FileTree.write` replaces the whole content of a file, or makes the file;
  * `FileTree.makeDirectories` makes a directory and those above it;
  * a `Disk` tells which changes are refused for reasons that the tree does not
    show, and every change asks it (`FileTree.change`).

  Reading changes nothing, and a write that fails leaves the tree as it was.
-/
import SpriteScene.Files.Path

namespace SpriteScene

/-- Why a path cannot be used. -/
inductive FileFault where
  | notFound
  | alreadyExists
  | notADirectory
  | isADirectory
  | nameTooLong
  | nulInPath
  /-- The content of the file is no text. -/
  | notText
  /-- The disk refuses a change; the text is the reason that it gives. -/
  | refused (reason : String)
deriving DecidableEq

def FileFault.message : FileFault → String
  | notFound => "No such file or directory (os error 2)"
  | alreadyExists => "File exists (os error 17)"
  | notADirectory => "Not a directory (os error 20)"
  | isADirectory => "Is a directory (os error 21)"
  | nameTooLong => "File name too long (os error 36)"
  | nulInPath => "file name contained an unexpected NUL byte"
  | notText => "stream did not contain valid UTF-8"
  | refused reason => reason

/-- The names on the way from the root to a place. -/
abbrev Location := List String

/-- What a disk makes of changes: why it refuses the one at a location, or none if it
    takes it. -/
structure Disk where
  refusal? : Location → Option String

/-- A disk that takes every change. -/
def Disk.willing : Disk := ⟨fun _ => none⟩

/-- A disk with no space left; it refuses every change. -/
def Disk.full : Disk := ⟨fun _ => some "No space left on device (os error 28)"⟩

/-- What stands at a location. -/
inductive Entry where
  | file (content : ByteArray)
  | directory

/-- Two files are equal if their bytes are. -/
instance : DecidableEq Entry
  | .directory, .directory => isTrue rfl
  | .directory, .file _ => isFalse nofun
  | .file _, .directory => isFalse nofun
  | .file a, .file b =>
    if h : a.data = b.data then isTrue (congrArg Entry.file (ByteArray.ext h))
    else isFalse fun same => h (congrArg ByteArray.data (Entry.file.inj same))

/-- Files and directories by location, and the working directory.  The root is
    always there; of two entries for one location the first counts. -/
structure FileTree where
  entries : List (Location × Entry)
  workingDirectory : Location

namespace FileTree

/-- The entry at a location. -/
def get? (t : FileTree) (place : Location) : Option Entry :=
  if place = [] then some .directory else t.entries.lookup place

/-- The tree with an entry put at a location. -/
def put (t : FileTree) (place : Location) (e : Entry) : FileTree :=
  { t with entries := (place, e) :: t.entries.filter fun entry => entry.1 ≠ place }

theorem lookup_filter_ne {place other : Location} (h : other ≠ place)
    (entries : List (Location × Entry)) :
    (entries.filter fun entry => entry.1 ≠ place).lookup other = entries.lookup other := by
  induction entries with
  | nil => rfl
  | cons entry entries ih =>
    obtain ⟨here, e⟩ := entry
    by_cases hp : here = place
    · rw [List.filter_cons_of_neg (by simp [hp]), ih, List.lookup_cons, hp,
        beq_eq_false_iff_ne.2 h]
    · rw [List.filter_cons_of_pos (by simp [hp]), List.lookup_cons, List.lookup_cons, ih]

/-- Putting an entry changes what stands at its location and nothing else. -/
theorem get?_put (t : FileTree) {place : Location} (h : place ≠ []) (e : Entry)
    (other : Location) :
    (t.put place e).get? other = if other = place then some e else t.get? other := by
  unfold get? put
  by_cases ho : other = place
  · subst ho; simp [h]
  · simp only [List.lookup_cons, beq_eq_false_iff_ne.2 ho, lookup_filter_ne ho, if_neg ho]

/-! ## Walking -/

/-- The longest name of a step, in bytes. -/
def longestName : Nat := 255

/-- The longest path, in bytes. -/
def longestPath : Nat := 4095

/-- Whether a directory stands at a location, as a fault if not. -/
def enter (t : FileTree) (place : Location) : Except FileFault Unit :=
  match t.get? place with
  | some .directory => .ok ()
  | some (.file _) => .error .notADirectory
  | none => .error .notFound

/-- The location that a step leads to from a directory.  Above the root there is
    the root. -/
def step (place : Location) (name : String) : Except FileFault Location :=
  if name = "." then .ok place
  else if name = ".." then .ok place.dropLast
  else if longestName < name.utf8ByteSize then .error .nameTooLong
  else .ok (place ++ [name])

/-- The location that steps lead to; nothing has to stand there. -/
def walk (t : FileTree) : Location → List String → Except FileFault Location
  | place, [] => .ok place
  | place, name :: names => do
    t.enter place
    let next ← step place name
    t.walk next names

/-- Whether a text can be a path at all. -/
def checkPath (path : String) : Except FileFault Unit :=
  if '\x00' ∈ path.toList then .error .nulInPath
  else if longestPath < path.utf8ByteSize then .error .nameTooLong
  else if path = "" then .error .notFound
  else .ok ()

/-- Where the walk along a path begins. -/
def startOf (t : FileTree) (path : String) : Location :=
  if Path.isAbsolute path then [] else t.workingDirectory

/-! ## Looking -/

/-- The entry that a path leads to. -/
def find (t : FileTree) (path : String) : Except FileFault Entry := do
  checkPath path
  let place ← t.walk (t.startOf path) (Path.steps path)
  match t.get? place with
  | none => throw .notFound
  | some .directory => return .directory
  | some (.file content) =>
    if Path.endsInSlash path then throw .notADirectory else return .file content

/-- Whether a path leads to anything. -/
def exists? (t : FileTree) (path : String) : Bool := (t.find path).isOk

/-- Whether a path leads to a directory. -/
def isDirectory (t : FileTree) (path : String) : Bool :=
  match t.find path with
  | .ok .directory => true
  | _ => false

/-- The text of a file. -/
def read (t : FileTree) (path : String) : Except FileFault String := do
  match ← t.find path with
  | .directory => throw .isADirectory
  | .file content =>
    match String.fromUTF8? content with
    | some text => return text
    | none => throw .notText

/-! ## Changing -/

/-- The directory in which the last step of a path is taken, and that step; none
    for a path without steps. -/
def lastStep (t : FileTree) (path : String) : Except FileFault (Option (Location × String)) := do
  checkPath path
  let names := Path.steps path
  match names.getLast? with
  | none => return none
  | some name =>
    let place ← t.walk (t.startOf path) names.dropLast
    t.enter place
    return some (place, name)

/-- Whether a name is a step to a directory that is already there. -/
def isDots (name : String) : Bool := name = "." || name = ".."

/-- Puts an entry at a location if the disk takes it. -/
def change (t : FileTree) (disk : Disk) (place : Location) (e : Entry) :
    Except FileFault FileTree :=
  match disk.refusal? place with
  | some reason => .error (.refused reason)
  | none => .ok (t.put place e)

/-- Replaces the content of the file at a path, or makes the file. -/
def write (t : FileTree) (path text : String) (disk : Disk := .willing) :
    Except FileFault FileTree := do
  match ← t.lastStep path with
  | none => throw .isADirectory
  | some (place, name) =>
    if isDots name || Path.endsInSlash path then throw .isADirectory
    let file ← step place name
    match t.get? file with
    | some .directory => throw .isADirectory
    | _ => t.change disk file (.file text.toUTF8)

/-- Makes a directory in one that is there. -/
def makeDirectory (t : FileTree) (path : String) (disk : Disk := .willing) :
    Except FileFault FileTree := do
  match ← t.lastStep path with
  | none => throw .alreadyExists
  | some (place, name) =>
    if isDots name then throw .alreadyExists
    let directory ← step place name
    match t.get? directory with
    | some _ => throw .alreadyExists
    | none => t.change disk directory .directory

/-- Makes a directory and those above it, as far as they are not there; the path
    above is tried where nothing is found.  Directories that were made before a
    fault stay.  Every path above is shorter, so `limit` can be the length of
    the path. -/
def makeAbove (disk : Disk) :
    (limit : Nat) → (path : String) → FileTree → Except FileFault Unit × FileTree
  | 0, _, t => (.ok (), t)
  | limit + 1, path, t =>
    if path = "" then (.ok (), t)
    else
      match t.makeDirectory path disk with
      | .ok t => (.ok (), t)
      | .error .notFound =>
        match (Path.parent? path).map fun above => makeAbove disk limit above t with
        | none => (.error .notFound, t)
        | some (.error fault, t) => (.error fault, t)
        | some (.ok (), t) =>
          match t.makeDirectory path disk with
          | .ok t => (.ok (), t)
          | .error fault => if t.isDirectory path then (.ok (), t) else (.error fault, t)
      | .error fault => if t.isDirectory path then (.ok (), t) else (.error fault, t)

/-- Makes a directory and those above it, as far as they are not there. -/
def makeDirectories (t : FileTree) (path : String) (disk : Disk := .willing) :
    Except FileFault Unit × FileTree :=
  makeAbove disk (path.length + 1) path t

end FileTree

end SpriteScene
