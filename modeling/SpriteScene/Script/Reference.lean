/-
  Script references.

  A script is referred to by a path such as `enemies/Patrol.ts`, relative to the
  generated module.  The path without its suffix is the module it is imported
  from, and the last part of that is the name it is imported under.

  `Script.ofReference` checks a reference before any of it reaches the module:
  first its characters and segments from left to right, then the name.
-/
import SpriteScene.Script.Name
import SpriteScene.Text.Quoted
import SpriteScene.Text.Segments

namespace SpriteScene

/-- Why a reference is refused. -/
inductive ReferenceFault where
  | empty
  | leadingSlash
  | backslash
  | emptySegment
  | relativeSegment
  | invalidCharacter (c : Char)
  | invalidSymbol (symbol : String)
  | reservedWord (symbol : String)
  | moduleName (symbol : String)
deriving DecidableEq

def ReferenceFault.message : ReferenceFault → String
  | empty => "reference must not be empty"
  | leadingSlash => "reference must not start with '/'"
  | backslash => "reference must not contain '\\\\'"
  | emptySegment => "reference contains an empty path segment"
  | relativeSegment => "reference must not contain '.' or '..' segments"
  | invalidCharacter c => "reference contains invalid character " ++ quoteChar c
  | invalidSymbol symbol => "'" ++ symbol ++ "' is not a valid identifier"
  | reservedWord symbol => "'" ++ symbol ++ "' is a reserved word"
  | moduleName symbol => "'" ++ symbol ++ "' is already bound by the module template"

/-- A script that can be imported. -/
structure Script where
  /-- The reference it was found under. -/
  reference : String
  /-- The name it is imported under. -/
  symbol : String
  /-- Where it is imported from, relative to the module. -/
  modulePath : String
deriving DecidableEq

/-! ## The path -/

/-- Whether a character can stand in a segment of a reference. -/
def isSegmentChar (c : Char) : Bool :=
  c.isAlphanum || c = '_' || c = '-' || c = '$' || c = '.'

/-- The fault of a segment, if it has one. -/
def segmentFault? (segment : List Char) : Option ReferenceFault :=
  if segment = [] then some .emptySegment
  else if segment = ['.'] ∨ segment = ['.', '.'] then some .relativeSegment
  else (segment.find? fun c => !isSegmentChar c).map .invalidCharacter

/-- The fault of a reference as a path, if it has one: the first from the left,
    but a leading slash and a backslash come before all else. -/
def pathFault? (reference : List Char) : Option ReferenceFault :=
  if reference = [] then some .empty
  else if reference.head? = some '/' then some .leadingSlash
  else if '\\' ∈ reference then some .backslash
  else (segments '/' reference).findSome? segmentFault?

/-- The suffix that a reference may carry. -/
def scriptSuffix : List Char := ['.', 't', 's']

/-- A reference without its suffix, if it has one. -/
def dropScriptSuffix (reference : List Char) : List Char :=
  if scriptSuffix.isSuffixOf reference then
    reference.take (reference.length - scriptSuffix.length)
  else reference

/-! ## The name -/

/-- The last segment of a path. -/
def lastSegment (path : List Char) : List Char := (segments '/' path).getLastD []

/-- The fault of a name, if it has one. -/
def symbolFault? (symbol : String) : Option ReferenceFault :=
  if !isIdentifier symbol.toList then some (.invalidSymbol symbol)
  else if reservedWords.contains symbol then some (.reservedWord symbol)
  else if isModuleName symbol then some (.moduleName symbol)
  else none

namespace Script

/-- The script of a reference. -/
def ofReference (reference : String) : Except ReferenceFault Script :=
  match pathFault? reference.toList with
  | some fault => .error fault
  | none =>
    let path := dropScriptSuffix reference.toList
    let symbol := String.ofList (lastSegment path)
    match symbolFault? symbol with
    | some fault => .error fault
    | none => .ok ⟨reference, symbol, String.ofList path⟩

/-- The statement that imports a script. -/
def importLine (s : Script) : String :=
  "import " ++ s.symbol ++ " from './" ++ s.modulePath ++ "';"

/-- The expression that makes an instance of a script. -/
def construction (s : Script) : String := "new " ++ s.symbol ++ "()"

end Script

end SpriteScene
