/-
  The frame of the generated module.

  The module is a list of lines: imports, a scene class whose `create` method
  holds the blocks of the objects, and a component that mounts the game.  Only
  the script imports and the blocks differ from scene to scene; where there are
  none, an empty line stands for them.
-/
import SpriteScene.Module.Block

namespace SpriteScene

/-- The file of the image that every sprite shows. -/
def assetPath : String := "assets/player.png"

namespace Frame

/-- The lines up to the script imports. -/
def opening : List String :=
  ["", "import Phaser from 'phaser';", "import React from 'react';"]

/-- The line behind which the blocks stand. -/
def createLine : String := "  create() \x7b"

/-- The lines between the script imports and the blocks. -/
def head : List String :=
  ["",
   "class " ++ sceneClass ++ " extends Phaser.Scene \x7b",
   "  constructor() \x7b",
   "    super('" ++ sceneClass ++ "');",
   "  \x7d",
   "",
   "  preload() \x7b",
   "    // Preload assets here",
   "    this.load.image('" ++ assetKey ++ "', '" ++ assetPath ++ "'); // Example asset",
   "  \x7d",
   "",
   createLine]

/-- The lines behind the blocks. -/
def tail : List String :=
  ["  \x7d",
   "\x7d",
   "",
   "const GameComponent = () => \x7b",
   "  const gameContainer = React.useRef(null);",
   "",
   "  React.useEffect(() => \x7b",
   "    const config = \x7b",
   "      type: Phaser.AUTO,",
   "      width: 800,",
   "      height: 600,",
   "      parent: gameContainer.current,",
   "      scene: [" ++ sceneClass ++ "],",
   "    \x7d;",
   "",
   "    const game = new Phaser.Game(config);",
   "",
   "    return () => \x7b",
   "      game.destroy(true);",
   "    \x7d;",
   "  \x7d, []);",
   "",
   "  return <div ref=\x7bgameContainer\x7d />;",
   "\x7d;",
   "",
   "export default GameComponent;",
   ""]

/-- Parts of the module, or an empty line if there are none. -/
def orBlank (parts : List String) : List String := if parts.isEmpty then [""] else parts

/-- The module with given script imports and blocks. -/
def fill (imports blocks : List String) : String :=
  unlines (opening ++ orBlank imports ++ head ++ orBlank blocks ++ tail)

end Frame

end SpriteScene
