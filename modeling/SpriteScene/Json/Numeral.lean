/-
  JSON numbers: their grammar, and the double that a reader takes them for.

  * `Numeral` is the written form of a number, and `takeNumeral` finds it at
    the front of a text;
  * `Numeral.value?` is the number it stands for, if it is in range.

  The double of a numeral is not its nearest one.  The leading digits that fit
  into 64 bits are rounded to a double, and that double is multiplied or
  divided by a rounded power of ten: two or more roundings (`scale?`).
-/
import SpriteScene.Json.Fault

namespace SpriteScene.Json

/-! ## Grammar -/

/-- The written form of a number behind its minus sign. -/
structure Numeral where
  whole : List Char
  fraction : Option (List Char)
  /-- Whether the exponent is negative, and its digits. -/
  exponent : Option (Bool × List Char)
deriving DecidableEq

/-- Why there is no numeral at the front of a text: the text ends inside one,
    or something else stands there. -/
inductive NumeralFault where
  | ended
  | refused
deriving DecidableEq

/-- One or more digits. -/
def takeDigits (cs : List Char) : Except NumeralFault (List Char × List Char) :=
  match cs.takeWhile Char.isDigit, cs.dropWhile Char.isDigit with
  | [], [] => .error .ended
  | [], _ :: _ => .error .refused
  | digits, rest => .ok (digits, rest)

/-- Digits of which the first is no superfluous zero. -/
def takeWhole (cs : List Char) : Except NumeralFault (List Char × List Char) :=
  match takeDigits cs with
  | .ok ('0' :: _ :: _, _) => .error .refused
  | r => r

/-- A point and digits, if there is a point. -/
def takeFraction : List Char → Except NumeralFault (Option (List Char) × List Char)
  | '.' :: cs => (takeDigits cs).map fun (digits, rest) => (some digits, rest)
  | cs => .ok (none, cs)

/-- An exponent, if its mark is there. -/
def takeExponent : List Char → Except NumeralFault (Option (Bool × List Char) × List Char)
  | c :: cs =>
    if c = 'e' ∨ c = 'E' then
      let (negative, cs) :=
        match cs with
        | '-' :: r => (true, r)
        | '+' :: r => (false, r)
        | r => (false, r)
      (takeDigits cs).map fun (digits, rest) => (some (negative, digits), rest)
    else .ok (none, c :: cs)
  | [] => .ok (none, [])

/-- The numeral at the front of a text, behind its minus sign if it has one. -/
def takeNumeral (cs : List Char) : Except NumeralFault (Numeral × List Char) := do
  let (whole, cs) ← takeWhole cs
  let (fraction, cs) ← takeFraction cs
  let (exponent, cs) ← takeExponent cs
  return (⟨whole, fraction, exponent⟩, cs)

/-! ## Value -/

/-- Takes digits into a significand as long as it stays below `2 ^ 64`, and
    gives it with the digits that were left out. -/
def absorb : (significand : Nat) → List Char → Nat × List Char
  | s, [] => (s, [])
  | s, c :: cs =>
    let next := 10 * s + (c.toNat - '0'.toNat)
    if next < UInt64.size then absorb next cs else (s, c :: cs)

/-- A power of ten, rounded; there are 309 of them. -/
def powerOfTen? (k : Nat) : Option Magnitude := Magnitude.ofNat (Nat.pow 10 k)

/-- Divides by `10 ^ k` in steps of at most `10 ^ 308`, rounding at each. -/
def shrink? (m : Magnitude) (k : Nat) : Option Magnitude :=
  if k ≤ 308 then (powerOfTen? k).bind m.div
  else if m.rank = 0 then some m
  else (powerOfTen? 308).bind m.div |>.bind fun m => shrink? m (k - 308)
termination_by k

/-- Multiplies by `10 ^ e`, rounding at each step; none if the result is beyond
    the largest magnitude. -/
def scale? (m : Magnitude) : (e : Int) → Option Magnitude
  | .ofNat e =>
    if e ≤ 308 then (powerOfTen? e).bind m.mul
    else if m.rank = 0 then some m
    else none
  | .negSucc e => shrink? m (e + 1)

/-- The double of a significand with an exponent, if it is in range. -/
def double? (negative : Bool) (significand : Nat) (e : Int) : Option Number := do
  let m ← Magnitude.ofNat significand
  let m ← scale? m e
  return .double (.finite negative m)

/-- The number that a numeral stands for, if it is in range.

    Digits of the whole part that do not fit raise the exponent; digits of the
    fraction that do not fit are dropped.  Without a point, an exponent and a
    digit that does not fit the number is whole, unless its sign leaves the
    64-bit integers; minus zero is a double. -/
def Numeral.value? (negative : Bool) (n : Numeral) : Option Number :=
  let (s, extra) := absorb 0 n.whole
  let (s, places) :=
    match n.fraction with
    | none => (s, 0)
    | some digits =>
      let (s, dropped) := absorb s digits
      (s, digits.length - dropped.length)
  let written : Int :=
    match n.exponent with
    | none => 0
    | some (true, digits) => -(Nat.ofDigitChars 10 digits 0 : Int)
    | some (false, digits) => Nat.ofDigitChars 10 digits 0
  if n.fraction = none ∧ n.exponent = none ∧ extra = [] then
    if negative then
      if 0 < s ∧ s ≤ 0x8000000000000000 then some (.whole (-s)) else double? true s 0
    else some (.whole s)
  else double? negative s (extra.length - places + written)

end SpriteScene.Json
