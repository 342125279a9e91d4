/-
  Reading numbers typed by a user.

  * `readWhole` reads an unsigned 64-bit whole number: digits, with an optional
    plus sign;
  * `readDecimal` reads a double: digits with an optional sign, point and
    exponent, or the name of a value that is not finite.  The decimal is
    rounded once, to the nearest double.
-/
import SpriteScene.Number.Binary64
import SpriteScene.Number.Decimal

namespace SpriteScene

/-! ## Whole numbers -/

/-- Why a text is not a 64-bit whole number. -/
inductive WholeFault where
  | empty
  | badDigit
  | tooLarge
deriving DecidableEq

def WholeFault.message : WholeFault → String
  | empty => "cannot parse integer from empty string"
  | badDigit => "invalid digit found in string"
  | tooLarge => "number too large to fit in target type"

/-- Reads digits behind a value already read.  The first fault from the left
    counts: a character that is no digit, or a digit that makes the value too
    large. -/
def readDigits : (value : UInt64) → List Char → Except WholeFault UInt64
  | value, [] => .ok value
  | value, c :: cs =>
    if c.isDigit then
      let next := 10 * value.toNat + (c.toNat - '0'.toNat)
      if next < UInt64.size then readDigits (.ofNat next) cs else .error .tooLarge
    else .error .badDigit

/-- Reads a whole number. -/
def readWhole (s : String) : Except WholeFault UInt64 :=
  match s.toList with
  | [] => .error .empty
  | ['+'] => .error .badDigit
  | '+' :: cs => readDigits 0 cs
  | cs => readDigits 0 cs

/-! ## Decimals -/

/-- Why a text is not a double. -/
inductive DecimalFault where
  | empty
  | malformed
deriving DecidableEq

def DecimalFault.message : DecimalFault → String
  | empty => "cannot parse float from empty string"
  | malformed => "invalid float literal"

/-- An optional minus or plus sign, and what follows it. -/
def takeSign : List Char → Bool × List Char
  | '-' :: cs => (true, cs)
  | '+' :: cs => (false, cs)
  | cs => (false, cs)

/-- The exponent behind the digits of a decimal; it is zero if there is none. -/
def readExponent : List Char → Option Int
  | [] => some 0
  | c :: cs =>
    if c = 'e' ∨ c = 'E' then
      let (negative, digits) := takeSign cs
      if digits ≠ [] ∧ digits.all Char.isDigit then
        let n : Int := Nat.ofDigitChars 10 digits 0
        some (if negative then -n else n)
      else none
    else none

/-- Reads a decimal without a sign: digits with an optional point, of which at
    least one stands on either side, and an optional exponent. -/
def readUnsignedDecimal (cs : List Char) : Option Decimal :=
  let whole := cs.takeWhile Char.isDigit
  let (fraction, rest) :=
    match cs.dropWhile Char.isDigit with
    | '.' :: r => (r.takeWhile Char.isDigit, r.dropWhile Char.isDigit)
    | r => ([], r)
  if whole = [] ∧ fraction = [] then none
  else (readExponent rest).map fun e =>
    ⟨Nat.ofDigitChars 10 (whole ++ fraction) 0, e - fraction.length⟩

/-- The value that a name stands for, in any mixture of cases. -/
def readName (negative : Bool) (cs : List Char) : Option Binary64 :=
  let name := String.ofList (cs.map Char.toLower)
  if name = "nan" then some .nan
  else if name = "inf" ∨ name = "infinity" then some (.infinite negative)
  else none

/-- Reads a double. -/
def readDecimal (s : String) : Except DecimalFault Binary64 :=
  if s.isEmpty then .error .empty
  else
    let (negative, cs) := takeSign s.toList
    match readUnsignedDecimal cs with
    | some d => .ok (.ofMagnitude? negative d.toMagnitude?)
    | none =>
      match readName negative cs with
      | some v => .ok v
      | none => .error .malformed

end SpriteScene
