/-
  Readers of JSON text.

  A reader takes a value from the front of a text and gives it with the rest of
  the text, or the first fault it meets.  This module reads what all values are
  made of: white space, words, sequences and the members of maps.

  * `elements` and `members` read the inside of a sequence and of a map;
  * `wrongKind` is the fault of a value that is not of the wanted kind;
  * `readText` reads a text that holds one value and nothing else.
-/
import SpriteScene.Json.Numeral
import SpriteScene.Json.Text

namespace SpriteScene.Json

/-- Takes a value from the front of a text. -/
abbrev Reader (α : Type) := List Char → Except Fault (α × List Char)

/-- White space between the parts of a text. -/
def isSpace (c : Char) : Bool := c = ' ' || c = '\t' || c = '\n' || c = '\r'

/-- The text behind its leading white space. -/
def skipSpace (cs : List Char) : List Char := cs.dropWhile isSpace

/-! ## Words and numbers -/

/-- Goes over a given word. -/
def takeWord : (word : List Char) → List Char → Except Fault (List Char)
  | [], cs => .ok cs
  | _ :: _, [] => .error .truncated
  | w :: word, c :: cs => if c = w then takeWord word cs else .error .malformed

/-- Reads a number behind its minus sign, if it has one. -/
def takeNumber (negative : Bool) : Reader Number := fun cs =>
  match takeNumeral cs with
  | .error .ended => .error .truncated
  | .error .refused => .error .malformed
  | .ok (n, cs) =>
    match n.value? negative with
    | some v => .ok (v, cs)
    | none => .error .malformed

/-- Goes over a number by its grammar alone. -/
def skipNumber (cs : List Char) : Except Fault (List Char) :=
  match takeNumeral cs with
  | .ok (_, cs) => .ok cs
  | .error _ => .error .malformed

/-! ## Values -/

/-- Reads a value by its first character, behind white space. -/
def atValue (read : Char → Reader α) : Reader α := fun cs =>
  match skipSpace cs with
  | [] => .error .truncated
  | c :: cs => read c cs

/-- A value that is not a container, by its first character: what it is, and
    the text behind it. -/
def takeScalar (c : Char) : Reader Found := fun cs =>
  if c = 'n' then (takeWord "ull".toList cs).map fun cs => (.null, cs)
  else if c = 't' then (takeWord "rue".toList cs).map fun cs => (.bool true, cs)
  else if c = 'f' then (takeWord "alse".toList cs).map fun cs => (.bool false, cs)
  else if c = '-' then (takeNumber true cs).map fun (n, cs) => (.number n, cs)
  else if c.isDigit then (takeNumber false (c :: cs)).map fun (n, cs) => (.number n, cs)
  else if c = '"' then (takeString cs).map fun (s, cs) => (.string s, cs)
  else .error .malformed

/-- The fault of a value that is not of the wanted kind.  The value itself is
    read first, up to its opening bracket if it is a container. -/
def wrongKind (wanted : String) (c : Char) (cs : List Char) : Fault :=
  if c = '[' then .mismatch (.wrongKind .sequence wanted)
  else if c = '\x7b' then .mismatch (.wrongKind .map wanted)
  else
    match takeScalar c cs with
    | .ok (found, _) => .mismatch (.wrongKind found wanted)
    | .error fault => fault

/-- Reads a string; `wanted` is what the place calls it. -/
def readString (wanted : String) : Reader String :=
  atValue fun c cs => if c = '"' then takeString cs else .error (wrongKind wanted c cs)

/-- Reads an unsigned 64-bit integer. -/
def readUnsigned : Reader UInt64 :=
  atValue fun c cs =>
    if c = '-' ∨ c.isDigit then do
      let (found, cs) ← takeScalar c cs
      match found with
      | .number (.whole (.ofNat n)) => return (.ofNat n, cs)
      | .number (.whole n) => throw (.mismatch (.negative n))
      | found => throw (.mismatch (.wrongKind found "u64"))
    else .error (wrongKind "u64" c cs)

/-- Reads `null` as nothing, and any other value with the given reader. -/
def readOptional (read : Reader α) : Reader (Option α) := fun cs =>
  match skipSpace cs with
  | 'n' :: cs => (takeWord "ull".toList cs).map fun cs => (none, cs)
  | cs => (read cs).map fun (a, cs) => (some a, cs)

/-! ## Sequences -/

/-- Moves to the next element of a sequence, if there is one. -/
def nextElement (first : Bool) (cs : List Char) : Except Fault (Option (List Char)) :=
  match skipSpace cs with
  | [] => .error .truncated
  | c :: cs =>
    if c = ']' then .ok none
    else if first then .ok (some (c :: cs))
    else if c = ',' then
      match skipSpace cs with
      | ']' :: _ => .error .malformed
      | cs => .ok (some cs)
    else .error .malformed

/-- The text behind the bracket that ends a sequence. -/
def closeSequence (cs : List Char) : Except Fault (List Char) :=
  match skipSpace cs with
  | [] => .error .truncated
  | c :: cs => if c = ']' then .ok cs else .error .malformed

/-- Reads elements up to the closing bracket.  Every element takes a character,
    so `limit` can be the length of the text. -/
def elementsFrom (read : Reader α) : (limit : Nat) → (first : Bool) → Reader (List α)
  | 0, _, _ => .error .truncated
  | limit + 1, first, cs => do
    match ← nextElement first cs with
    | none =>
      let cs ← closeSequence cs
      return ([], cs)
    | some cs =>
      let (a, cs) ← read cs
      let (as, cs) ← elementsFrom read limit false cs
      return (a :: as, cs)

/-- Reads the elements of a sequence behind its opening bracket. -/
def elements (read : Reader α) : Reader (List α) := fun cs =>
  elementsFrom read (cs.length + 1) true cs

/-- Reads a sequence. -/
def readSequence (read : Reader α) : Reader (List α) :=
  atValue fun c cs => if c = '[' then elements read cs else .error (wrongKind "a sequence" c cs)

/-! ## Members of maps -/

/-- Moves behind the opening quote of the next key of a map, if there is one;
    otherwise behind the closing brace. -/
def nextKey (first : Bool) (cs : List Char) : Except Fault (Bool × List Char) :=
  match skipSpace cs with
  | [] => .error .truncated
  | c :: cs =>
    if c = '\x7d' then .ok (false, cs)
    else if first then
      if c = '"' then .ok (true, cs) else .error .malformed
    else if c = ',' then
      match skipSpace cs with
      | [] => .error .truncated
      | c :: cs => if c = '"' then .ok (true, cs) else .error .malformed
    else .error .malformed

/-- The text behind the colon that follows a key. -/
def takeColon (cs : List Char) : Except Fault (List Char) :=
  match skipSpace cs with
  | [] => .error .truncated
  | c :: cs => if c = ':' then .ok cs else .error .malformed

/-- What a key means to the one who reads a map. -/
inductive Member (σ : Type) where
  /-- The key has been met before, and may not be. -/
  | repeated
  /-- The value behind the key is read into the state. -/
  | value (read : Reader σ)

/-- Reads members up to the closing brace, from state to state. -/
def membersFrom (member : σ → String → Member σ) : (limit : Nat) → (first : Bool) → σ → Reader σ
  | 0, _, _, _ => .error .truncated
  | limit + 1, first, st, cs => do
    let (more, cs) ← nextKey first cs
    if more then
      let (key, cs) ← takeString cs
      match member st key with
      | .repeated => throw (.mismatch (.repeated key))
      | .value read =>
        let cs ← takeColon cs
        let (st, cs) ← read cs
        membersFrom member limit false st cs
    else return (st, cs)

/-- Reads the members of a map behind its opening brace. -/
def members (member : σ → String → Member σ) (st : σ) : Reader σ := fun cs =>
  membersFrom member (cs.length + 1) true st cs

/-! ## Whole texts -/

/-- Reads a text that holds one value and nothing else but white space. -/
def readText (read : Reader α) (text : String) : Except Fault α := do
  let (a, cs) ← read text.toList
  if skipSpace cs = [] then return a else throw .malformed

end SpriteScene.Json
