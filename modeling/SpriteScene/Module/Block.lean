/-
  The statements of one object.

  Every object becomes a block of statements: one that creates its sprite, one
  that names it, and, if it has scripts, one that attaches an instance of each.
  The constant of the sprite carries the place of the object in the scene, so
  no two blocks bind the same name.
-/
import SpriteScene.Module.Literal
import SpriteScene.Script.Bindings
import SpriteScene.Text.Segments

namespace SpriteScene

/-- The image that every sprite shows. -/
def assetKey : String := "player"

/-- The indentation of statements. -/
def bodyIndent : String := "    "

namespace SceneObject

/-- The statement that creates the sprite of an object. -/
def creationLine (index : Nat) (o : SceneObject) : String :=
  bodyIndent ++ "const " ++ spriteName index ++ " = this.add.sprite(" ++ o.position.x.literal ++
    ", " ++ o.position.y.literal ++ ", '" ++ assetKey ++ "'); // Replace '" ++ assetKey ++
    "' with actual asset key"

/-- The statement that names the sprite of an object. -/
def nameLine (index : Nat) (o : SceneObject) : String :=
  bodyIndent ++ spriteName index ++ ".name = " ++ nameLiteral o.name ++ ";"

/-- The statement that attaches instances of scripts. -/
def scriptsLine (index : Nat) (scripts : List Script) : String :=
  bodyIndent ++ spriteName index ++ ".scripts = [" ++
    ", ".intercalate (scripts.map Script.construction) ++ "];"

/-- The statements of an object whose scripts are known. -/
def blockLines (index : Nat) (o : SceneObject) (scripts : List Script) : List String :=
  [o.creationLine index, o.nameLine index] ++
    (if scripts.isEmpty then [] else [scriptsLine index scripts])

/-- The block of an object; the first reference that is refused is its fault. -/
def block (index : Nat) (o : SceneObject) : Except CompileFault String := do
  let scripts ← o.scripts.mapM scriptOf
  return unlines (o.blockLines index scripts)

end SceneObject

end SpriteScene
