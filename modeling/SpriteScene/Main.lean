/-
  The program: the command line on the files of the disk.

  What the arguments can lead to is read into a tree of files, the run is worked
  out on the tree as if the disk took every change, and the tree's changes are
  written back.
-/
import SpriteScene.Command

namespace SpriteScene

/-- The path of a location on the disk. -/
def diskPath (place : Location) : String := "/" ++ "/".intercalate place

/-- What stands at a location of the disk. -/
def entryOnDisk? (place : Location) : IO (Option Entry) := do
  try
    let path ← IO.FS.realPath (diskPath place)
    if ← path.isDir then return some .directory
    return some (.file (← IO.FS.readBinFile path))
  catch _ => return none

/-- The locations on the way along names. -/
def placesAlong : Location → List String → List Location
  | place, [] => [place]
  | place, name :: names =>
    match FileTree.step place name with
    | .ok next => place :: placesAlong next names
    | .error _ => [place]

/-- Reads what stands along paths into a tree. -/
def readAlong (t : FileTree) (paths : List String) : IO FileTree :=
  paths.foldlM (fun t path =>
    (placesAlong [] (t.startOf path ++ Path.steps path)).foldlM (fun t place => do
      match t.get? place, ← entryOnDisk? place with
      | none, some e => return t.put place e
      | _, _ => return t) t) t

/-- Writes the changes of a tree to the disk, the oldest first. -/
def writeChanges (before after : FileTree) : IO Unit :=
  after.entries.reverse.forM fun (place, e) => do
    if before.get? place ≠ some e then
      match e with
      | .directory => IO.FS.createDirAll (diskPath place)
      | .file content => IO.FS.writeBinFile (diskPath place) content

end SpriteScene

open SpriteScene in
/-- Runs the program on its arguments. -/
def main (arguments : List String) : IO UInt32 := do
  let home := (← IO.getEnv "HOME").getD "."
  let directory ← IO.currentDir
  let config := Config.pathIn home
  let t ← readAlong ⟨[], Path.steps directory.toString⟩ ("." :: config :: arguments)
  let t ← readAlong t [(Config.load t config).outputPath]
  let outcome := runArguments home t arguments
  writeChanges t outcome.files
  IO.print outcome.output
  IO.eprint outcome.errors
  return outcome.status
