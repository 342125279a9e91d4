/-
  Previews for a terminal.

  * `Scene.hierarchy` shows a scene with a line for each object and highlights
    the selected ones;
  * `sourcePreview` shows a module with numbered lines and coloured imports.

  Styles are the escape sequences of terminals; every styled text is followed by
  a reset.
-/
import SpriteScene.Number.Style
import SpriteScene.Scene.Basic
import SpriteScene.Text.Segments

namespace SpriteScene

/-! ## Styles -/

/-- A style of terminal text. -/
inductive TextStyle where
  | bold
  | dim
  /-- A blue background. -/
  | highlight
  /-- A cyan foreground. -/
  | accent
deriving DecidableEq

/-- The sequence that switches a style on. -/
def TextStyle.code : TextStyle → String
  | bold => "\x1b[1m"
  | dim => "\x1b[2m"
  | highlight => "\x1b[48;5;12m"
  | accent => "\x1b[38;5;14m"

/-- The sequence that switches all styles off. -/
def resetCode : String := "\x1b[0m"

/-- A text in a style. -/
def TextStyle.apply (style : TextStyle) (s : String) : String := style.code ++ s ++ resetCode

/-! ## Scenes -/

/-- An object on one line. -/
def SceneObject.summary (o : SceneObject) : String :=
  "#" ++ toString o.id ++ " " ++ o.name ++ " (" ++ o.position.x.text .plain ++ ", " ++
    o.position.y.text .plain ++ ")" ++
    (if o.scripts.isEmpty then "" else " [" ++ ", ".intercalate o.scripts ++ "]")

namespace Scene

/-- The title of the hierarchy. -/
def title (s : Scene) : String :=
  match s.project with
  | some name => "Hierarchy (" ++ name ++ ")"
  | none => "Hierarchy"

/-- The line of an object, highlighted if its id is the selected one. -/
def objectLine (s : Scene) (o : SceneObject) : String :=
  if s.selected = some o.id then TextStyle.highlight.apply ("> " ++ o.summary) ++ "\n"
  else "  " ++ o.summary ++ "\n"

/-- The scene as a title and a line for each object. -/
def hierarchy (s : Scene) : String :=
  TextStyle.bold.apply s.title ++ "\n" ++
    (if s.objects.isEmpty then TextStyle.dim.apply "  (no objects)\n" else "") ++
    String.join (s.objects.map s.objectLine)

end Scene

/-! ## Modules -/

/-- A line without the carriage return at its end, if it has one. -/
def dropReturn (line : List Char) : List Char :=
  if line.getLast? = some '\r' then line.dropLast else line

/-- The lines of a text.  A line ends in a line feed, with an optional carriage
    return before it; what follows the last line feed is a line unless it is
    empty. -/
def linesOf (text : String) : List String :=
  let parts := segments '\n' text.toList
  let last := parts.getLastD []
  (parts.dropLast.map dropReturn ++ if last.isEmpty then [] else [last]).map String.ofList

/-- Whether a line is an import. -/
def isImport (line : String) : Bool := "import ".toList.isPrefixOf line.toList

/-- The number of a line, right-aligned, and a rule behind it. -/
def gutter (width number : Nat) : String :=
  let digits := toString number
  String.ofList (List.replicate (width - digits.length) ' ') ++ digits ++ " │ "

/-- A line of a module behind its number. -/
def sourceLine (width number : Nat) (line : String) : String :=
  TextStyle.dim.apply (gutter width number) ++
    (if isImport line then TextStyle.accent.apply line else line) ++ "\n"

/-- A module with numbered lines. -/
def sourcePreview (code : String) : String :=
  let lines := linesOf code
  let width := (toString lines.length).length
  String.join (lines.zipIdx.map fun (line, index) => sourceLine width (index + 1) line)

end SpriteScene
