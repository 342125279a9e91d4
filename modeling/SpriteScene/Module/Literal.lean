/-
  Literals of the generated module.

  * `nameLiteral` writes a text as a single-quoted string, and `takeLiteral`
    reads one from the front of a program;
  * `Binary64.literal` writes a number.

  A quoted text stays inside its quotes and on its line: quotes, backslashes,
  controls and the two line separators of Unicode are escaped.
-/
import SpriteScene.Number.Style
import SpriteScene.Text.Hex

namespace SpriteScene

/-- Whether a character is a control character. -/
def isControl (c : Char) : Bool := c.toNat < 0x20 || 0x7f ≤ c.toNat && c.toNat < 0xa0

/-- A character inside single quotes. -/
def literalChar (c : Char) : List Char :=
  match c with
  | '\\' => ['\\', '\\']
  | '\'' => ['\\', '\'']
  | '\n' => ['\\', 'n']
  | '\r' => ['\\', 'r']
  | '\t' => ['\\', 't']
  | c =>
    if isControl c || c = '\u2028' || c = '\u2029' then '\\' :: 'u' :: hexQuad c.toNat else [c]

/-- A text as a string literal. -/
def nameLiteral (s : String) : String :=
  String.ofList ('\'' :: s.toList.flatMap literalChar ++ ['\''])

/-- The character of an escape, behind its backslash. -/
def takeLiteralEscape : List Char → Option (Char × List Char)
  | 'u' :: a :: b :: c :: d :: cs => do
    let n ← ofHexQuad? a b c d
    if n.isValidChar then return (Char.ofNat n, cs) else none
  | '\\' :: cs => some ('\\', cs)
  | '\'' :: cs => some ('\'', cs)
  | 'n' :: cs => some ('\n', cs)
  | 'r' :: cs => some ('\r', cs)
  | 't' :: cs => some ('\t', cs)
  | _ => none

/-- Whether a character ends a line of a program. -/
def endsLine (c : Char) : Bool := c = '\n' || c = '\r' || c = '\u2028' || c = '\u2029'

/-- Characters up to the closing quote.  Every step takes a character, so
    `limit` can be the length of the text. -/
def takeLiteralBody : (limit : Nat) → List Char → Option (List Char × List Char)
  | 0, _ => none
  | _ + 1, [] => none
  | _ + 1, '\'' :: cs => some ([], cs)
  | limit + 1, '\\' :: cs => do
    let (c, cs) ← takeLiteralEscape cs
    let (s, cs) ← takeLiteralBody limit cs
    return (c :: s, cs)
  | limit + 1, c :: cs =>
    if endsLine c then none
    else (takeLiteralBody limit cs).map fun (s, cs) => (c :: s, cs)

/-- The text of the string literal at the front of a program, and what follows
    the literal. -/
def takeLiteral : List Char → Option (String × List Char)
  | '\'' :: cs => (takeLiteralBody (cs.length + 1) cs).map fun (s, cs) => (String.ofList s, cs)
  | _ => none

/-- A number as a literal, or as the global name that evaluates to it. -/
def Binary64.literal (v : Binary64) : String := v.text .sourceLiteral

end SpriteScene
