/-
  Paths of files, as texts.

  * `Path.steps` are the names that a path goes through;
  * `Path.parent?` is the path of the directory that a path lies in;
  * `Path.join` is a path relative to another;
  * `Path.same` tells whether two paths differ only in spelling.

  Repeated slashes, slashes at the end and steps to `.` make no difference,
  except for a step to `.` that a path begins with.
-/
import SpriteScene.Text.Segments

namespace SpriteScene.Path

/-- The parts of a path between its slashes, the empty ones among them. -/
def parts (path : String) : List String := (segments '/' path.toList).map String.ofList

/-- The names that a path goes through. -/
def steps (path : String) : List String := (parts path).filter (· ≠ "")

/-- Whether a path starts at the root. -/
def isAbsolute (path : String) : Bool := path.toList.head? = some '/'

/-- Whether a path ends in a slash, and so has to lead to a directory. -/
def endsInSlash (path : String) : Bool := path.toList.getLast? = some '/'

/-- Whether a part behind the first leads nowhere else. -/
def isIdle (part : String) : Bool := part = "" || part = "."

/-- Parts behind the first, without those at the end that lead nowhere else. -/
def trimEnd (parts : List String) : List String := (parts.reverse.dropWhile isIdle).reverse

/-- The path without its last step; none for the root and the empty path. -/
def parent? (path : String) : Option String :=
  match parts path with
  | [] => none
  | first :: rest =>
    match trimEnd rest with
    | [] => if first = "" then none else some ""
    | step :: steps =>
      match trimEnd (step :: steps).dropLast with
      | [] => some (if first = "" then "/" else first)
      | left => some ("/".intercalate (first :: left))

/-- A path seen from another; an absolute one stands for itself. -/
def join (base path : String) : String :=
  if isAbsolute path then path
  else if base = "" || endsInSlash base then base ++ path
  else base ++ "/" ++ path

/-- The steps of a path that make a difference. -/
def significant (path : String) : List String :=
  match parts path with
  | [] => []
  | first :: rest =>
    (if first = "" then [] else [first]) ++ rest.filter fun part => !isIdle part

/-- Whether two paths are spellings of one path. -/
def same (a b : String) : Bool := isAbsolute a = isAbsolute b && significant a = significant b

end SpriteScene.Path
