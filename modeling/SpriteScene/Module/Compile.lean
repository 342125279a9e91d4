/-
  Compilation: from a scene to the text of a module.

  The distinct references of the scene become imports and every object becomes
  a block; the frame holds both.  Ids, the selection, the catalog and the
  project play no part.
-/
import SpriteScene.Module.Frame

namespace SpriteScene

/-- The blocks of objects, the first of which has a given place. -/
def blocksFrom : (index : Nat) → List SceneObject → Except CompileFault (List String)
  | _, [] => .ok []
  | index, o :: os => do
    let block ← o.block index
    let blocks ← blocksFrom (index + 1) os
    return block :: blocks

/-- The module of a scene. -/
def Scene.compile (s : Scene) : Except CompileFault String := do
  let scripts ← bindScripts s.distinctReferences
  let blocks ← blocksFrom 0 s.objects
  return Frame.fill (scripts.map Script.importLine) blocks

end SpriteScene
