/-
  The scripts of a scene under their names.

  `Scene.distinctReferences` lists the references of a scene, each at its first
  occurrence, and `bindScripts` derives the scripts of a list of references.
  Two references may not be imported under one name; the first fault in the
  order of the list counts.
-/
import SpriteScene.Scene.Basic
import SpriteScene.Script.Reference

namespace SpriteScene

/-- Why a scene does not compile. -/
inductive CompileFault where
  | invalidReference (reference : String) (reason : ReferenceFault)
  | symbolCollision (symbol first second : String)
deriving DecidableEq

def CompileFault.message : CompileFault → String
  | invalidReference reference reason =>
    "script reference '" ++ reference ++ "' is invalid: " ++ reason.message
  | symbolCollision symbol first second =>
    "script references '" ++ first ++ "' and '" ++ second ++ "' both bind the symbol '" ++
      symbol ++ "'"

/-- The references of a scene without later repetitions. -/
def Scene.distinctReferences (s : Scene) : List String := s.references.eraseDups

/-- The script of a reference, as a step of compilation. -/
def scriptOf (reference : String) : Except CompileFault Script :=
  match Script.ofReference reference with
  | .ok script => .ok script
  | .error reason => .error (.invalidReference reference reason)

/-- The scripts of references, where `bound` are the scripts before them. -/
def bindFrom : (bound : List Script) → List String → Except CompileFault (List Script)
  | _, [] => .ok []
  | bound, reference :: rest => do
    let script ← scriptOf reference
    match bound.find? (·.symbol = script.symbol) with
    | some first => throw (.symbolCollision script.symbol first.reference reference)
    | none =>
      let scripts ← bindFrom (script :: bound) rest
      return script :: scripts

/-- The scripts of references, each under a name of its own. -/
def bindScripts (references : List String) : Except CompileFault (List Script) :=
  bindFrom [] references

end SpriteScene
