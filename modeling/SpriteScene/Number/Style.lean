/-
  How numbers are written.

  Every place of the program writes the same shortest decimal and differs only
  in its `NumberStyle`: where positional digits end and an exponent begins, what a
  whole number carries after its digits, and the names of the values that are
  not finite.

  * `Binary64.text` writes a number in a style;
  * `NumberStyle.sourceLiteral` is that of the generated module, `NumberStyle.plain`
    that of summaries, `NumberStyle.json` that of JSON text.
-/
import SpriteScene.Number.Binary64
import SpriteScene.Number.Decimal

namespace SpriteScene

/-- The decisions a place of the program makes about writing numbers. -/
structure NumberStyle where
  /-- Which of two equally near shortest decimals is written. -/
  tie : TieRule
  /-- Whether a number whose leading digit stands for `10 ^ k` is written
      without an exponent. -/
  positional : (k : Int) → Bool
  /-- What follows the digits of a whole number that has no exponent. -/
  wholeMark : String
  nanName : String
  infinityName : (negative : Bool) → String

namespace Decimal

/-- The digits of a decimal, without its exponent. -/
def digitText (d : Decimal) : String := String.ofList (Nat.toDigits 10 d.digits)

/-- The power of ten that the leading digit stands for. -/
def leading (d : Decimal) : Int := d.exponent + (Nat.toDigits 10 d.digits).length - 1

/-- A number of zeros. -/
def zeros (n : Nat) : String := String.ofList (List.replicate n '0')

/-- The decimal without an exponent. -/
def positionalText (wholeMark : String) (d : Decimal) : String :=
  let digits := Nat.toDigits 10 d.digits
  match d.exponent with
  | .ofNat e => d.digitText ++ zeros e ++ wholeMark
  | .negSucc e =>
    let places := e + 1
    if places < digits.length then
      String.ofList (digits.take (digits.length - places)) ++ "." ++
        String.ofList (digits.drop (digits.length - places))
    else
      "0." ++ zeros (places - digits.length) ++ d.digitText

/-- The text of an exponent, which always carries its sign. -/
def exponentText (k : Int) : String :=
  match k with
  | .ofNat n => "e+" ++ String.ofList (Nat.toDigits 10 n)
  | .negSucc n => "e-" ++ String.ofList (Nat.toDigits 10 (n + 1))

/-- The decimal with one digit before the point and an exponent. -/
def scientificText (d : Decimal) : String :=
  let digits := Nat.toDigits 10 d.digits
  String.ofList (digits.take 1) ++
    (if digits.length ≤ 1 then "" else "." ++ String.ofList (digits.drop 1)) ++
    exponentText d.leading

end Decimal

/-- The text of a magnitude. -/
def Magnitude.text (style : NumberStyle) (m : Magnitude) : String :=
  let d := m.shortest style.tie
  if m.rank = 0 || style.positional d.leading then d.positionalText style.wholeMark
  else d.scientificText

/-- The text of a number. -/
def Binary64.text (style : NumberStyle) : Binary64 → String
  | .nan => style.nanName
  | .infinite negative => style.infinityName negative
  | .finite negative m => (if negative then "-" else "") ++ m.text style

namespace NumberStyle

/-- Numeric literals of the generated module: never an exponent, and the global
    names that evaluate to the values that are not finite. -/
def sourceLiteral : NumberStyle where
  tie := .up
  positional _ := true
  wholeMark := ""
  nanName := "NaN"
  infinityName negative := if negative then "-Infinity" else "Infinity"

/-- Numbers in summaries: as literals, with short names for the infinities. -/
def plain : NumberStyle :=
  { sourceLiteral with infinityName := fun negative => if negative then "-inf" else "inf" }

/-- Numbers in JSON text: positional from `10 ^ -5` up to `10 ^ 16` with at
    least one digit after the point, an exponent elsewhere; JSON has no text
    for the values that are not finite and they become `null`. -/
def json : NumberStyle where
  tie := .toEven
  positional k := -5 ≤ k && k < 16
  wholeMark := ".0"
  nanName := "null"
  infinityName _ := "null"

end NumberStyle

end SpriteScene
