/-
  Why a JSON text is refused.

  A text is malformed, ends too early, or is well formed so far but holds
  something of the wrong shape; a `Mismatch` says what.  Readers go through a
  text from left to right and report the first fault they meet.
-/
import SpriteScene.Number.Style
import SpriteScene.Text.Quoted

namespace SpriteScene.Json

/-- A number as JSON text gives it: without a point and an exponent it is a
    whole number, if it has 64 bits; all others are doubles. -/
inductive Number where
  | whole (n : Int)
  | double (v : Binary64)
deriving DecidableEq

/-- What stands at some place of a text. -/
inductive Found where
  | null
  | bool (b : Bool)
  | number (n : Number)
  | string (s : String)
  | sequence
  | map
deriving DecidableEq

/-- A shape that is not the wanted one. -/
inductive Mismatch where
  /-- Another kind of value than the wanted one. -/
  | wrongKind (found : Found) (wanted : String)
  /-- A negative integer where an unsigned one is wanted. -/
  | negative (n : Int)
  /-- A key a second time. -/
  | repeated (key : String)
  /-- A required key that is not there. -/
  | missing (key : String)
  /-- A sequence that ends before a required field. -/
  | tooShort (length : Nat) (wanted : String)
deriving DecidableEq

/-- Why a text is refused. -/
inductive Fault where
  | malformed
  | truncated
  | mismatch (m : Mismatch)
deriving DecidableEq

/-! ## Wording -/

/-- A word in grave accents. -/
def accented (s : String) : String := "\x60" ++ s ++ "\x60"

def Found.text : Found → String
  | null => "null"
  | bool b => "boolean " ++ accented (if b then "true" else "false")
  | number (.whole n) => "integer " ++ accented (toString n)
  | number (.double v) => "floating point " ++ accented (v.text .json)
  | string s => "string " ++ quoteText s
  | sequence => "sequence"
  | map => "map"

def Mismatch.message : Mismatch → String
  | wrongKind found wanted => "invalid type: " ++ found.text ++ ", expected " ++ wanted
  | negative n =>
    "invalid value: " ++ (Found.number (.whole n)).text ++ ", expected u64"
  | repeated key => "duplicate field " ++ accented key
  | missing key => "missing field " ++ accented key
  | tooShort length wanted => "invalid length " ++ toString length ++ ", expected " ++ wanted

end SpriteScene.Json
