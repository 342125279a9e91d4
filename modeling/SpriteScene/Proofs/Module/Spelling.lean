/-
  The grammar of string literals.

  * `Spells body s`: between single quotes, the characters `body` stand for the
    text `s`; `BeginsWithLiteral cs s rest`: a program `cs` begins with a
    literal that stands for `s`, and `rest` follows it;
  * `takeLiteral_eq_some_iff`: `takeLiteral` finds what the grammar finds;
  * `nameLiteral_self_delimiting`: in front of any program, the literal of a
    name stands for that name alone and ends where it was written to end.
-/
import SpriteScene.Proofs.Module.Literal

namespace SpriteScene

/-- The letters of escapes, each with the character it stands for. -/
def escapeLetters : List (Char × Char) :=
  [('\\', '\\'), ('\'', '\''), ('n', '\n'), ('r', '\r'), ('t', '\t')]

/-- What characters between single quotes stand for.  The quote and the
    backslash do not stand for themselves, and what ends a line may not stand
    there at all. -/
inductive Spells : List Char → List Char → Prop
  | nil : Spells [] []
  | plain {c : Char} {body s : List Char} : c ≠ '\'' → c ≠ '\\' → endsLine c = false →
      Spells body s → Spells (c :: body) (c :: s)
  | letter {l c : Char} {body s : List Char} : (l, c) ∈ escapeLetters → Spells body s →
      Spells ('\\' :: l :: body) (c :: s)
  | number {a b c d : Char} {n : Nat} {body s : List Char} : ofHexQuad? a b c d = some n →
      n.isValidChar → Spells body s →
      Spells ('\\' :: 'u' :: a :: b :: c :: d :: body) (Char.ofNat n :: s)

/-- A program that begins with a literal of a text. -/
def BeginsWithLiteral (cs : List Char) (s : String) (rest : List Char) : Prop :=
  ∃ body, cs = '\'' :: (body ++ '\'' :: rest) ∧ Spells body s.toList

/-- An escape behind its backslash is a letter or a number. -/
theorem takeLiteralEscape_eq_some_iff {cs rest : List Char} {c : Char} :
    takeLiteralEscape cs = some (c, rest) ↔
      (∃ l, (l, c) ∈ escapeLetters ∧ cs = l :: rest) ∨
      ∃ h₁ h₂ h₃ h₄ n, cs = 'u' :: h₁ :: h₂ :: h₃ :: h₄ :: rest ∧
        ofHexQuad? h₁ h₂ h₃ h₄ = some n ∧ n.isValidChar ∧ Char.ofNat n = c := by
  constructor
  · intro h
    unfold takeLiteralEscape at h
    split at h
    case h_1 h₁ h₂ h₃ h₄ cs =>
      obtain ⟨n, hn, h⟩ := Option.bind_eq_some_iff.1 h
      split at h
      · cases h
        exact Or.inr ⟨h₁, h₂, h₃, h₄, n, rfl, hn, ‹_›, rfl⟩
      · cases h
    case h_7 => cases h
    all_goals
      cases h
      exact Or.inl ⟨_, by decide, rfl⟩
  · rintro (⟨l, hl, rfl⟩ | ⟨h₁, h₂, h₃, h₄, n, rfl, hn, hv, rfl⟩)
    · simp only [escapeLetters, List.mem_cons, List.not_mem_nil, or_false, Prod.mk.injEq] at hl
      rcases hl with ⟨rfl, rfl⟩ | ⟨rfl, rfl⟩ | ⟨rfl, rfl⟩ | ⟨rfl, rfl⟩ | ⟨rfl, rfl⟩ <;> rfl
    · simp [takeLiteralEscape, hn, hv]

/-! ## The reader and the grammar -/

/-- What the reader finds is spelled by the grammar. -/
theorem spells_of_takeLiteralBody {limit : Nat} {cs s rest : List Char}
    (h : takeLiteralBody limit cs = some (s, rest)) :
    ∃ body, cs = body ++ '\'' :: rest ∧ Spells body s := by
  fun_induction takeLiteralBody limit cs generalizing s with
  | case1 | case2 => cases h
  | case3 =>
    cases h
    exact ⟨[], rfl, .nil⟩
  | case4 limit escape ih =>
    obtain ⟨⟨c, cs⟩, hc, h⟩ := Option.bind_eq_some_iff.1 h
    obtain ⟨⟨s, rest⟩, hs, h⟩ := Option.bind_eq_some_iff.1 h
    cases h
    obtain ⟨body, rfl, hbody⟩ := ih _ hs
    rcases takeLiteralEscape_eq_some_iff.1 hc with
      ⟨l, hl, rfl⟩ | ⟨h₁, h₂, h₃, h₄, n, rfl, hn, hv, rfl⟩
    · exact ⟨'\\' :: l :: body, rfl, .letter hl hbody⟩
    · exact ⟨'\\' :: 'u' :: h₁ :: h₂ :: h₃ :: h₄ :: body, rfl, .number hn hv hbody⟩
  | case5 => cases h
  | case6 limit c cs hquote hbackslash hends ih =>
    obtain ⟨⟨s, rest⟩, hs, h⟩ := Option.map_eq_some_iff.1 h
    cases h
    obtain ⟨body, rfl, hbody⟩ := ih hs
    exact ⟨c :: body, rfl, .plain hquote hbackslash (by simpa using hends) hbody⟩

/-- What the grammar spells is found by the reader. -/
theorem Spells.takeLiteralBody {body s : List Char} (h : Spells body s) (rest : List Char) :
    ∀ limit, body.length < limit →
      takeLiteralBody limit (body ++ '\'' :: rest) = some (s, rest) := by
  induction h with
  | nil =>
    intro limit hl
    obtain ⟨n, rfl⟩ := Nat.exists_eq_succ_of_ne_zero (Nat.ne_of_gt hl)
    rfl
  | @plain c body s hquote hbackslash hends _ ih =>
    intro limit hl
    obtain ⟨n, rfl⟩ := Nat.exists_eq_succ_of_ne_zero (Nat.ne_of_gt (Nat.zero_lt_of_lt hl))
    rw [List.cons_append, takeLiteralBody.eq_5 n c _ hquote hbackslash, hends,
      ih n (by simpa using hl)]
    rfl
  | @letter l c body s hletter _ ih =>
    intro limit hl
    obtain ⟨n, rfl⟩ := Nat.exists_eq_succ_of_ne_zero (Nat.ne_of_gt (Nat.zero_lt_of_lt hl))
    have hescape : takeLiteralEscape (l :: (body ++ '\'' :: rest)) = some (c, _) :=
      takeLiteralEscape_eq_some_iff.2 (Or.inl ⟨l, hletter, rfl⟩)
    rw [List.cons_append, List.cons_append, takeLiteralBody_escape hescape,
      ih n (by simp only [List.length_cons] at hl; omega)]
    rfl
  | @number h₁ h₂ h₃ h₄ n body s hn hv _ ih =>
    intro limit hl
    obtain ⟨k, rfl⟩ := Nat.exists_eq_succ_of_ne_zero (Nat.ne_of_gt (Nat.zero_lt_of_lt hl))
    have hescape : takeLiteralEscape ('u' :: h₁ :: h₂ :: h₃ :: h₄ :: (body ++ '\'' :: rest)) =
        some (Char.ofNat n, _) :=
      takeLiteralEscape_eq_some_iff.2 (Or.inr ⟨h₁, h₂, h₃, h₄, n, rfl, hn, hv, rfl⟩)
    simp only [List.cons_append]
    rw [takeLiteralBody_escape hescape, ih k (by simp only [List.length_cons] at hl; omega)]
    rfl

/-- **The reader decides the grammar.** -/
theorem takeLiteral_eq_some_iff {cs rest : List Char} {s : String} :
    takeLiteral cs = some (s, rest) ↔ BeginsWithLiteral cs s rest := by
  constructor
  · intro h
    unfold takeLiteral at h
    split at h
    · obtain ⟨⟨s, rest⟩, hs, h⟩ := Option.map_eq_some_iff.1 h
      cases h
      obtain ⟨body, rfl, hbody⟩ := spells_of_takeLiteralBody hs
      exact ⟨body, rfl, by simpa using hbody⟩
    · cases h
  · rintro ⟨body, rfl, hbody⟩
    rw [takeLiteral, hbody.takeLiteralBody rest _ (by simp only [List.length_append]; omega)]
    simp

/-- **The literal of a name delimits itself.**  In front of any program it is
    read back as the name, with the program left over; no other reading of the
    same characters as a literal is possible; and names with one literal are
    equal. -/
theorem nameLiteral_self_delimiting (s : String) (rest : List Char) :
    takeLiteral ((nameLiteral s).toList ++ rest) = some (s, rest) ∧
      (∀ t rest', BeginsWithLiteral ((nameLiteral s).toList ++ rest) t rest' ↔
        t = s ∧ rest' = rest) ∧
      ∀ t, nameLiteral s = nameLiteral t ↔ s = t := by
  have hread := takeLiteral_nameLiteral s rest
  refine ⟨hread, fun t rest' => ?_, fun t => ⟨nameLiteral_injective, congrArg nameLiteral⟩⟩
  rw [← takeLiteral_eq_some_iff, hread, Option.some.injEq, Prod.mk.injEq]
  exact and_congr eq_comm eq_comm

end SpriteScene
