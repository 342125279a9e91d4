/-
  Reading the literals of a module.

  * `takeLiteral_nameLiteral`: the literal of a name is read back from the
    front of any program, and what follows it is left; hence two names have
    the same literal only if they are equal (`nameLiteral_injective`);
  * `isPlain_nameLiteral` and `isNumberChar_of_mem_literal`: which characters
    the literals of names and of numbers hold.
-/
import SpriteScene.Proofs.Text.Lines

namespace SpriteScene

/-! ## Names -/

/-- The escapes by number stand for characters of four digits. -/
theorem lt_of_escaped {c : Char} (h : isControl c || c = '\u2028' || c = '\u2029') :
    c.toNat < 0x10000 := by
  simp only [Bool.or_eq_true, decide_eq_true_eq, isControl, Bool.and_eq_true] at h
  rcases h with ((h | ⟨-, h⟩) | rfl) | rfl
  · omega
  · omega
  · decide
  · decide

/-- The line feed and the carriage return are control characters, so what is not
    escaped by number ends no line. -/
theorem isPlainChar_of_unescaped {c : Char}
    (h : ¬ (isControl c || c = '\u2028' || c = '\u2029')) : isPlainChar c := by
  simp only [Bool.or_eq_true, decide_eq_true_eq, not_or, Bool.not_eq_true] at h
  obtain ⟨⟨hcontrol, hline⟩, hparagraph⟩ := h
  have hfeed : c ≠ '\n' := by
    rintro rfl
    revert hcontrol; decide
  have hreturn : c ≠ '\r' := by
    rintro rfl
    revert hcontrol; decide
  simp [isPlainChar, endsLine, hcontrol, hline, hparagraph, hfeed, hreturn]

theorem takeLiteralEscape_hexQuad {c : Char} (h : c.toNat < 0x10000) (rest : List Char) :
    takeLiteralEscape ('u' :: hexQuad c.toNat ++ rest) = some (c, rest) := by
  have hv : c.toNat.isValidChar := c.valid
  simp [hexQuad, takeLiteralEscape, ofHexQuad?_hexQuad h, hv]

theorem takeLiteralBody_escape {limit : Nat} {c : Char} {cs rest : List Char}
    (h : takeLiteralEscape cs = some (c, rest)) :
    takeLiteralBody (limit + 1) ('\\' :: cs) =
      (takeLiteralBody limit rest).map fun (s, cs) => (c :: s, cs) := by
  rw [takeLiteralBody, h]
  exact Option.map_eq_bind.symm

/-- One character is read back from the front of what is left of a literal. -/
theorem takeLiteralBody_literalChar (limit : Nat) (c : Char) (rest : List Char) :
    takeLiteralBody (limit + 1) (literalChar c ++ rest) =
      (takeLiteralBody limit rest).map fun (s, cs) => (c :: s, cs) := by
  unfold literalChar
  split
  case h_6 hbackslash hquote _ _ _ =>
    split
    · rename_i hc
      exact takeLiteralBody_escape (takeLiteralEscape_hexQuad (lt_of_escaped hc) rest)
    · rename_i hc
      have hend : endsLine c = false := by
        have hplain := isPlainChar_of_unescaped hc
        simp only [isPlainChar, Bool.not_eq_true', Bool.or_eq_false_iff] at hplain
        exact hplain.2
      rw [List.singleton_append, takeLiteralBody.eq_5 limit c rest hquote hbackslash, hend]
      rfl
  -- what is left are the escapes by letter
  all_goals exact takeLiteralBody_escape rfl

theorem takeLiteralBody_flatMap (s rest : List Char) :
    ∀ limit, s.length < limit →
      takeLiteralBody limit (s.flatMap literalChar ++ '\'' :: rest) = some (s, rest) := by
  induction s with
  | nil =>
    intro limit h
    obtain ⟨n, rfl⟩ := Nat.exists_eq_succ_of_ne_zero (Nat.ne_of_gt h)
    rfl
  | cons c s ih =>
    intro limit h
    obtain ⟨n, rfl⟩ := Nat.exists_eq_succ_of_ne_zero (Nat.ne_of_gt (Nat.zero_lt_of_lt h))
    rw [List.flatMap_cons, List.append_assoc, takeLiteralBody_literalChar,
      ih n (by simpa using h)]
    rfl

theorem literalChar_ne_nil (c : Char) : literalChar c ≠ [] := by
  unfold literalChar
  repeat' split
  all_goals simp

theorem toList_nameLiteral (s : String) :
    (nameLiteral s).toList = '\'' :: s.toList.flatMap literalChar ++ ['\''] := by
  simp [nameLiteral]

/-- **The literal of a name reads back**, whatever follows it. -/
theorem takeLiteral_nameLiteral (s : String) (rest : List Char) :
    takeLiteral ((nameLiteral s).toList ++ rest) = some (s, rest) := by
  have hlen := length_le_flatMap literalChar_ne_nil s.toList
  rw [toList_nameLiteral, List.cons_append, List.cons_append, List.append_assoc,
    List.singleton_append, takeLiteral, takeLiteralBody_flatMap]
  · simp
  · rw [List.length_append]; omega

theorem nameLiteral_injective {s t : String} (h : nameLiteral s = nameLiteral t) : s = t := by
  have hs := takeLiteral_nameLiteral s []
  rw [h, takeLiteral_nameLiteral t []] at hs
  simpa using hs.symm

theorem isPlainChar_digitChar : ∀ k < 16, isPlainChar (Nat.digitChar k) := by decide

theorem isPlainChar_of_mem_literalChar {c d : Char} (h : d ∈ literalChar c) : isPlainChar d := by
  unfold literalChar at h
  split at h
  case h_6 =>
    split at h
    · have hd (k : Nat) : isPlainChar (Nat.digitChar (k % 16)) :=
        isPlainChar_digitChar _ (Nat.mod_lt _ (by decide))
      simp only [hexQuad, List.mem_cons, List.not_mem_nil, or_false] at h
      rcases h with rfl | rfl | rfl | rfl | rfl | rfl
      · decide
      · decide
      all_goals exact hd _
    · rename_i hc
      rw [List.mem_singleton.1 h]
      exact isPlainChar_of_unescaped hc
  all_goals
    simp only [List.mem_cons, List.not_mem_nil, or_false] at h
    rcases h with rfl | rfl <;> decide

/-- A name leaves no control character and no end of a line in its literal. -/
theorem isPlain_nameLiteral (s : String) : IsPlain (nameLiteral s) := by
  intro d hd
  rw [toList_nameLiteral] at hd
  simp only [List.cons_append, List.mem_cons, List.mem_append, List.mem_flatMap,
    List.not_mem_nil, or_false] at hd
  rcases hd with rfl | ⟨c, -, hd⟩ | rfl
  · decide
  · exact isPlainChar_of_mem_literalChar hd
  · decide

/-! ## Numbers -/

/-- Whether a character can stand in the literal of a number. -/
def isNumberChar (c : Char) : Bool := c.isAlphanum || c = '-' || c = '.'

theorem isNumberChar_of_isDigit {c : Char} (h : c.isDigit) : isNumberChar c := by
  simp [isNumberChar, Char.isAlphanum, h]

theorem isNumberChar_zeros (n : Nat) {c : Char} (h : c ∈ (Decimal.zeros n).toList) :
    isNumberChar c := by
  simp only [Decimal.zeros, String.toList_ofList, List.mem_replicate] at h
  rw [h.2]; decide

theorem isNumberChar_positionalText (d : Decimal) {c : Char}
    (h : c ∈ (d.positionalText "").toList) : isNumberChar c := by
  have hdigits {c : Char} (h : c ∈ Nat.toDigits 10 d.digits) : isNumberChar c :=
    isNumberChar_of_isDigit (Nat.isDigit_of_mem_toDigits (by decide) (by decide) h)
  unfold Decimal.positionalText at h
  split at h
  · simp only [Decimal.digitText, String.toList_append, String.toList_ofList, String.toList_empty,
      List.append_nil, List.mem_append] at h
    rcases h with h | h
    exacts [hdigits h, isNumberChar_zeros _ h]
  · dsimp only at h
    split at h
    · simp only [String.toList_append, String.toList_ofList, List.mem_append] at h
      rcases h with (h | h) | h
      · exact hdigits (List.mem_of_mem_take h)
      · exact List.all_eq_true.1 (by decide) c h
      · exact hdigits (List.mem_of_mem_drop h)
    · simp only [Decimal.digitText, String.toList_append, String.toList_ofList,
        List.mem_append] at h
      rcases h with (h | h) | h
      · exact List.all_eq_true.1 (by decide) c h
      · exact isNumberChar_zeros _ h
      · exact hdigits h

/-- Literals have no exponent. -/
theorem Magnitude.text_sourceLiteral (m : Magnitude) :
    m.text .sourceLiteral = (m.shortest .up).positionalText "" := by
  simp [Magnitude.text, NumberStyle.sourceLiteral]

/-- The characters of a number's literal. -/
theorem isNumberChar_of_mem_literal (v : Binary64) {c : Char} (h : c ∈ v.literal.toList) :
    isNumberChar c := by
  cases v with
  | nan => exact List.all_eq_true.1 (by decide) c h
  | infinite negative => exact List.all_eq_true.1 (by cases negative <;> decide) c h
  | finite negative m =>
    simp only [Binary64.literal, Binary64.text, Magnitude.text_sourceLiteral, String.toList_append,
      List.mem_append] at h
    rcases h with h | h
    · exact List.all_eq_true.1 (by cases negative <;> decide) c h
    · exact isNumberChar_positionalText _ h

theorem isPlain_literal (v : Binary64) : IsPlain v.literal := by
  intro c hc
  have h := isNumberChar_of_mem_literal v hc
  simp only [isNumberChar, Bool.or_eq_true, decide_eq_true_eq] at h
  rcases h with (h | rfl) | rfl
  · exact isPlainChar_of_isAlphanum h
  · decide
  · decide

theorem comma_notMem_literal (v : Binary64) : ',' ∉ v.literal.toList := by
  intro h
  exact absurd (isNumberChar_of_mem_literal v h) (by decide)

end SpriteScene
