/-
  Reading values whose content does not matter.

  * `skimValue` reads any value in full: its strings and numbers have to be
    readable and its containers may not nest too deep;
  * `skipValue` goes over any value by its grammar alone, however deep.
-/
import SpriteScene.Json.Reader

namespace SpriteScene.Json

/-- How many containers may be open at once in a value that is read in full. -/
def nestingLimit : Nat := 127

/-- Reads any value in full and tells what it is; at most `depth` containers
    may be open in it at once. -/
def skimValue : (depth : Nat) → Reader Found
  | 0 => atValue fun c cs =>
    if c = '[' ∨ c = '\x7b' then .error .malformed else takeScalar c cs
  | depth + 1 => atValue fun c cs =>
    if c = '[' then (elements (skimValue depth) cs).map fun (_, cs) => (.sequence, cs)
    else if c = '\x7b' then
      (members (fun _ _ => .value fun cs => (skimValue depth cs).map fun (_, cs) => ((), cs))
        () cs).map fun (_, cs) => (.map, cs)
    else takeScalar c cs

/-- Goes over a value that is not a container, by its first character. -/
def skipScalar (c : Char) (cs : List Char) : Except Fault (List Char) :=
  if c = 'n' then takeWord "ull".toList cs
  else if c = 't' then takeWord "rue".toList cs
  else if c = 'f' then takeWord "alse".toList cs
  else if c = '-' then skipNumber cs
  else if c.isDigit then skipNumber (c :: cs)
  else if c = '"' then skipString cs
  else .error .malformed

/-- Goes over members up to the closing brace. -/
def skipMembers (skip : Reader Unit) : (limit : Nat) → (first : Bool) → Reader Unit
  | 0, _, _ => .error .truncated
  | limit + 1, first, cs => do
    let (more, cs) ← nextKey first cs
    if more then
      let cs ← skipString cs
      let cs ← takeColon cs
      let (_, cs) ← skip cs
      skipMembers skip limit false cs
    else return ((), cs)

/-- Goes over any value with at most `depth` containers open at once. -/
def skipNested : (depth : Nat) → Reader Unit
  | 0 => atValue fun c cs =>
    if c = '[' ∨ c = '\x7b' then .error .malformed
    else (skipScalar c cs).map fun cs => ((), cs)
  | depth + 1 => atValue fun c cs =>
    if c = '[' then (elements (skipNested depth) cs).map fun (_, cs) => ((), cs)
    else if c = '\x7b' then skipMembers (skipNested depth) (cs.length + 1) true cs
    else (skipScalar c cs).map fun cs => ((), cs)

/-- Goes over any value.  No value nests deeper than its text is long. -/
def skipValue : Reader Unit := fun cs => skipNested cs.length cs

end SpriteScene.Json
