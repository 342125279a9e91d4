/-
  JSON strings: reading them behind the opening quote, and writing them.

  * `takeString` reads the characters of a string up to its closing quote;
  * `skipString` goes over a string by its grammar alone, so that it accepts an
    escape that stands for half of a surrogate pair;
  * `writeString` writes a string, with its quotes.
-/
import SpriteScene.Json.Fault
import SpriteScene.Text.Hex

namespace SpriteScene.Json

/-! ## Escapes by number -/

/-- The four hexadecimal digits at the front of a text.  A text of fewer than
    four bytes has ended. -/
def takeHex : List Char → Except Fault (Nat × List Char)
  | a :: b :: c :: d :: cs =>
    match ofHexQuad? a b c d with
    | some n => .ok (n, cs)
    | none => .error .malformed
  | cs => if (String.ofList cs).utf8ByteSize < 4 then .error .truncated else .error .malformed

/-- The character of an escape by number, behind the `u`.  A leading surrogate
    needs an escaped trailing one right after it. -/
def takeCodePoint (cs : List Char) : Except Fault (Char × List Char) := do
  let (n, cs) ← takeHex cs
  if 0xdc00 ≤ n ∧ n ≤ 0xdfff then throw .malformed
  if n < 0xd800 ∨ 0xdbff < n then return (Char.ofNat n, cs)
  match cs with
  | [] => throw .truncated
  | ['\\'] => throw .truncated
  | '\\' :: 'u' :: cs =>
    let (low, cs) ← takeHex cs
    if low < 0xdc00 ∨ 0xdfff < low then throw .malformed
    return (Char.ofNat ((n - 0xd800) * 0x400 + (low - 0xdc00) + 0x10000), cs)
  | _ => throw .malformed

/-! ## Reading -/

/-- The character that an escape letter stands for. -/
def escapeLetter? : Char → Option Char
  | '"' => some '"'
  | '\\' => some '\\'
  | '/' => some '/'
  | 'b' => some '\x08'
  | 'f' => some '\x0c'
  | 'n' => some '\n'
  | 'r' => some '\r'
  | 't' => some '\t'
  | _ => none

/-- Reads an escape behind its backslash. -/
def takeEscape : List Char → Except Fault (Char × List Char)
  | [] => .error .truncated
  | 'u' :: cs => takeCodePoint cs
  | c :: cs =>
    match escapeLetter? c with
    | some c => .ok (c, cs)
    | none => .error .malformed

/-- Goes over an escape behind its backslash. -/
def skipEscape : List Char → Except Fault (List Char)
  | [] => .error .truncated
  | 'u' :: cs => (takeHex cs).map (·.2)
  | c :: cs => if (escapeLetter? c).isSome then .ok cs else .error .malformed

/-- Reads characters up to the closing quote; `read` holds those before, the
    last one first.  Every step takes a character, so `limit` can be the length
    of the text. -/
def takeCharacters : (limit : Nat) → (read : List Char) → List Char →
    Except Fault (List Char × List Char)
  | 0, _, _ => .error .truncated
  | _ + 1, _, [] => .error .truncated
  | _ + 1, read, '"' :: cs => .ok (read.reverse, cs)
  | limit + 1, read, '\\' :: cs => do
    let (c, cs) ← takeEscape cs
    takeCharacters limit (c :: read) cs
  | limit + 1, read, c :: cs =>
    if c.toNat < 0x20 then .error .malformed else takeCharacters limit (c :: read) cs

/-- Reads a string behind its opening quote. -/
def takeString (cs : List Char) : Except Fault (String × List Char) :=
  (takeCharacters (cs.length + 1) [] cs).map fun (s, rest) => (String.ofList s, rest)

/-- Goes over characters up to the closing quote. -/
def skipCharacters : (limit : Nat) → List Char → Except Fault (List Char)
  | 0, _ => .error .truncated
  | _ + 1, [] => .error .truncated
  | _ + 1, '"' :: cs => .ok cs
  | limit + 1, '\\' :: cs => do
    let cs ← skipEscape cs
    skipCharacters limit cs
  | limit + 1, c :: cs =>
    if c.toNat < 0x20 then .error .malformed else skipCharacters limit cs

/-- Goes over a string behind its opening quote. -/
def skipString (cs : List Char) : Except Fault (List Char) := skipCharacters (cs.length + 1) cs

/-! ## Writing -/

/-- A character inside a string: quotes, backslashes and the controls below the
    blank are escaped, and nothing else. -/
def escapeChar (c : Char) : List Char :=
  match c with
  | '"' => ['\\', '"']
  | '\\' => ['\\', '\\']
  | '\x08' => ['\\', 'b']
  | '\x0c' => ['\\', 'f']
  | '\n' => ['\\', 'n']
  | '\r' => ['\\', 'r']
  | '\t' => ['\\', 't']
  | c => if c.toNat < 0x20 then '\\' :: 'u' :: hexQuad c.toNat else [c]

/-- A string with its quotes. -/
def writeString (s : String) : String :=
  String.ofList ('"' :: s.toList.flatMap escapeChar ++ ['"'])

end SpriteScene.Json
