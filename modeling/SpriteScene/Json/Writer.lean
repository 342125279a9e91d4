/-
  JSON values and how they are written.

  * `Value` is a JSON value as the program writes one;
  * `Value.write` gives its text in a layout: `Layout.compact` has no white
    space, `Layout.pretty` puts every element and member on a line of its own.
-/
import SpriteScene.Json.Fault
import SpriteScene.Json.Text

namespace SpriteScene.Json

/-- A JSON value. -/
inductive Value where
  | null
  | whole (n : Nat)
  | double (v : Binary64)
  | string (s : String)
  | sequence (elements : List Value)
  | map (members : List (String × Value))

/-- White space between the parts of a container. -/
structure Layout where
  /-- What stands before an element, by the number of open containers. -/
  gap : (depth : Nat) → String
  colon : String

namespace Layout

/-- No white space. -/
def compact : Layout := ⟨fun _ => "", ":"⟩

/-- A line for each element, indented by two blanks for each open container. -/
def pretty : Layout := ⟨fun depth => String.ofList ('\n' :: List.replicate (2 * depth) ' '), ": "⟩

/-- Written parts between brackets; `depth` containers are open around them. -/
def enclose (l : Layout) (depth : Nat) (opening closing : String) (parts : List String) : String :=
  if parts.isEmpty then opening ++ closing
  else
    opening ++ l.gap (depth + 1) ++ ("," ++ l.gap (depth + 1)).intercalate parts ++
      l.gap depth ++ closing

end Layout

mutual

/-- The text of a value; `depth` containers are open around it. -/
def Value.write (l : Layout) (depth : Nat) : Value → String
  | .null => "null"
  | .whole n => toString n
  | .double v => v.text .json
  | .string s => writeString s
  | .sequence vs => l.enclose depth "[" "]" (writeElements l (depth + 1) vs)
  | .map ms => l.enclose depth "\x7b" "\x7d" (writeMembers l (depth + 1) ms)

/-- The texts of the elements of a sequence. -/
def writeElements (l : Layout) (depth : Nat) : List Value → List String
  | [] => []
  | v :: vs => v.write l depth :: writeElements l depth vs

/-- The texts of the members of a map. -/
def writeMembers (l : Layout) (depth : Nat) : List (String × Value) → List String
  | [] => []
  | (key, v) :: ms => (writeString key ++ l.colon ++ v.write l depth) :: writeMembers l depth ms

end

/-- The text of a value in a layout. -/
def Value.text (l : Layout) (v : Value) : String := v.write l 0

/-- A list of strings as a sequence. -/
def Value.strings (ss : List String) : Value := .sequence (ss.map .string)

end SpriteScene.Json
