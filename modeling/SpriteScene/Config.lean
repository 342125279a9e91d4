/-
  Where compiled modules go when no path is given.

  A configuration names a directory and a file.  It is read from a file of the
  user's home directory; a file that is missing or does not hold a configuration
  stands for the default one.
-/
import SpriteScene.Files.Tree
import SpriteScene.Json.Record
import SpriteScene.Json.Writer

namespace SpriteScene

open Json

/-- A configuration. -/
structure Config where
  outputDirectory : String
  fileName : String
deriving DecidableEq

/-- A configuration that is being read. -/
structure Config.Draft where
  outputDirectory : Option String
  fileName : Option String

namespace Config

/-- The configuration of those who have none. -/
def default : Config := ⟨"output", "CompiledScene.tsx"⟩

instance : Inhabited Config := ⟨default⟩

/-- Whether a configuration is the default one, up to the spelling of its path. -/
def isDefault (c : Config) : Bool :=
  Path.same c.outputDirectory default.outputDirectory && c.fileName = default.fileName

/-- The path that modules are written to. -/
def outputPath (c : Config) : String := Path.join c.outputDirectory c.fileName

/-- The JSON value of a configuration. -/
def toJson (c : Config) : Value :=
  .map [("output_dir", .string c.outputDirectory), ("file_name", .string c.fileName)]

/-- The configuration of a draft; what is not there has its default. -/
def ofDraft (d : Draft) : Config :=
  ⟨d.outputDirectory.getD default.outputDirectory, d.fileName.getD default.fileName⟩

/-- How the record of a configuration is read. -/
def record : Record Draft Config where
  wanted := "struct CompilerConfig"
  start := ⟨none, none⟩
  fields := [
    ⟨"output_dir", (·.outputDirectory.isSome), fun d cs =>
      (readString "path string" cs).map fun (v, cs) => ({ d with outputDirectory := some v }, cs)⟩,
    ⟨"file_name", (·.fileName.isSome), fun d cs =>
      (readString "a string" cs).map fun (v, cs) => ({ d with fileName := some v }, cs)⟩]
  ofMap d := .ok (ofDraft d)
  ofSequence _ d := .ok (ofDraft d)

/-- Reads a configuration from a text. -/
def read (text : String) : Except Fault Config := readText record.read text

/-- The configuration in a file, or the default one. -/
def load (t : FileTree) (path : String) : Config :=
  match t.read path with
  | .error _ => default
  | .ok text =>
    match read text with
    | .ok c => c
    | .error _ => default

/-- The path of the configuration in a home directory. -/
def pathIn (home : String) : String :=
  [".config", "phaser-scene-compiler", "config.json"].foldl Path.join home

end Config

end SpriteScene
