/-
  JSON strings read back.

  * `takeCharacters_escapeChar`: a character as it is written, escaped or not, is
    read as that character;
  * `takeString_writeString`: behind its opening quote, a written string is read
    back from the front of any text.
-/
import SpriteScene.Json.Text

namespace SpriteScene.Json

/-- A control character is read back from its number. -/
theorem takeEscape_hexQuad {c : Char} (h : c.toNat < 0x20) (rest : List Char) :
    takeEscape ('u' :: hexQuad c.toNat ++ rest) = .ok (c, rest) := by
  have hhex : takeHex (hexQuad c.toNat ++ rest) = .ok (c.toNat, rest) := by
    simp only [hexQuad, List.cons_append, List.nil_append, takeHex,
      ofHexQuad?_hexQuad (Nat.lt_trans h (by decide : 0x20 < 0x10000))]
  have hlow : ¬ (0xdc00 ≤ c.toNat ∧ c.toNat ≤ 0xdfff) := by omega
  have hplain : c.toNat < 0xd800 ∨ 0xdbff < c.toNat := by omega
  rw [List.cons_append, takeEscape, takeCodePoint, hhex]
  simp only [bind, Except.bind, if_neg hlow, if_pos hplain]
  exact congrArg (fun c => Except.ok (c, rest)) (Char.ofNat_toNat c)

/-- One written character is read back in front of what is left of a string. -/
theorem takeCharacters_escapeChar (limit : Nat) (c : Char) (read rest : List Char) :
    takeCharacters (limit + 1) read (escapeChar c ++ rest) =
      takeCharacters limit (c :: read) rest := by
  unfold escapeChar
  split
  case h_8 hquote hbackslash _ _ _ _ _ =>
    split
    · rename_i hc
      rw [List.cons_append, takeCharacters, takeEscape_hexQuad hc rest]
      rfl
    · rename_i hc
      rw [List.singleton_append, takeCharacters.eq_5 read limit c rest hquote hbackslash,
        if_neg hc]
  -- what is left are the escapes by letter
  all_goals rfl

theorem takeCharacters_flatMap (s rest : List Char) :
    ∀ (limit : Nat) (read : List Char), s.length < limit →
      takeCharacters limit read (s.flatMap escapeChar ++ '"' :: rest) =
        .ok (read.reverse ++ s, rest) := by
  induction s with
  | nil =>
    intro limit read h
    obtain ⟨n, rfl⟩ := Nat.exists_eq_succ_of_ne_zero (Nat.ne_of_gt h)
    rw [List.append_nil]
    rfl
  | cons c s ih =>
    intro limit read h
    obtain ⟨n, rfl⟩ := Nat.exists_eq_succ_of_ne_zero (Nat.ne_of_gt (Nat.zero_lt_of_lt h))
    rw [List.flatMap_cons, List.append_assoc, takeCharacters_escapeChar,
      ih n (c :: read) (by simpa using h), List.reverse_cons, List.append_assoc,
      List.singleton_append]

theorem escapeChar_ne_nil (c : Char) : escapeChar c ≠ [] := by
  unfold escapeChar
  repeat' split
  all_goals simp

theorem toList_writeString (s : String) :
    (writeString s).toList = '"' :: (s.toList.flatMap escapeChar ++ ['"']) := by
  simp [writeString]

/-- **A written string reads back**, whatever follows it. -/
theorem takeString_writeString (s : String) (rest : List Char) :
    takeString (s.toList.flatMap escapeChar ++ '"' :: rest) = .ok (s, rest) := by
  have hlen := length_le_flatMap escapeChar_ne_nil s.toList
  rw [takeString, takeCharacters_flatMap]
  · simp [Except.map]
  · rw [List.length_append]
    omega

end SpriteScene.Json
