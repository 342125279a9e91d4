/-
  Characters and texts in quotes, as error messages show them.

  A quoted character escapes the single quote, a quoted text the double quote;
  both escape the backslash and the usual controls by letter, and every other
  character that does not show (`isConcealed`) by number.
-/
import SpriteScene.Text.Concealed

namespace SpriteScene

/-- A character inside quotes, where `quote` is the one that needs an escape. -/
def escapeIn (quote c : Char) : String :=
  if c = '\x00' then "\\0"
  else if c = '\t' then "\\t"
  else if c = '\n' then "\\n"
  else if c = '\r' then "\\r"
  else if c = '\\' ∨ c = quote then String.ofList ['\\', c]
  else if isConcealed c then
    "\\u\x7b" ++ String.ofList (Nat.toDigits 16 c.toNat) ++ "\x7d"
  else String.singleton c

/-- A character in single quotes. -/
def quoteChar (c : Char) : String := "'" ++ escapeIn '\'' c ++ "'"

/-- A text in double quotes. -/
def quoteText (s : String) : String := "\"" ++ String.join (s.toList.map (escapeIn '"')) ++ "\""

end SpriteScene
