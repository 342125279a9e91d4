/-
  Names in the generated module.

  A script is imported under a name.  The name has to be an identifier, may not
  be a reserved word, and may not be one that the module binds itself: those of
  the frame around the scene, and the numbered constants of the objects.
-/

namespace SpriteScene

/-- Whether a character can begin an identifier. -/
def isNameStart (c : Char) : Bool := c.isAlpha || c = '_' || c = '$'

/-- Whether a character can stand inside an identifier. -/
def isNameChar (c : Char) : Bool := c.isAlphanum || c = '_' || c = '$'

/-- Whether a text is an identifier, of ASCII characters. -/
def isIdentifier : List Char → Bool
  | [] => false
  | c :: cs => isNameStart c && cs.all isNameChar

/-- The words that are no names, among them those that strict mode refuses. -/
def reservedWords : List String :=
  ["arguments", "await", "break", "case", "catch", "class", "const", "continue", "debugger",
   "default", "delete", "do", "else", "enum", "eval", "export", "extends", "false", "finally",
   "for", "function", "if", "implements", "import", "in", "instanceof", "interface", "let", "new",
   "null", "package", "private", "protected", "public", "return", "static", "super", "switch",
   "this", "throw", "true", "try", "typeof", "var", "void", "while", "with", "yield"]

/-- The class of the generated scene. -/
def sceneClass : String := "Level1"

/-- The names that the frame of the module binds. -/
def frameNames : List String := ["Phaser", "React", sceneClass, "GameComponent"]

/-- What the names of the objects' constants begin with; a number follows. -/
def spriteStem : String := "sprite"

/-- The constant of the object at a place of the scene. -/
def spriteName (index : Nat) : String := spriteStem ++ toString index

/-- Whether a name is the sprite stem with digits behind it. -/
def isSpriteName (name : List Char) : Bool :=
  let stem := spriteStem.toList
  let digits := name.drop stem.length
  stem.isPrefixOf name && !digits.isEmpty && digits.all Char.isDigit

/-- Whether the module binds a name itself. -/
def isModuleName (name : String) : Bool :=
  frameNames.contains name || isSpriteName name.toList

end SpriteScene
