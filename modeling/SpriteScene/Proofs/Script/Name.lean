/-
  Names that do not clash.

  * `IsName`: an identifier that a script may be imported under;
  * `spriteName_injective` and `isSpriteName_spriteName`: the constants of the
    objects differ from each other and from every such identifier.
-/
import SpriteScene.Proofs.Text.Lines
import SpriteScene.Script.Name

namespace SpriteScene

/-! ## Names of scripts -/

/-- A name that a module may import a script under. -/
structure IsName (name : String) : Prop where
  /-- A letter, an underscore or a dollar sign, then these and digits. -/
  identifier : ∃ c cs, name.toList = c :: cs ∧ (c.isAlpha ∨ c = '_' ∨ c = '$') ∧
    ∀ d ∈ cs, d.isAlphanum ∨ d = '_' ∨ d = '$'
  notReserved : name ∉ reservedWords
  notFrame : name ∉ frameNames
  notSprite : isSpriteName name.toList = false

theorem IsName.isAlphanum_of_mem {name : String} (h : IsName name) {d : Char}
    (hd : d ∈ name.toList) : d.isAlphanum ∨ d = '_' ∨ d = '$' := by
  obtain ⟨c, cs, hcs, hc, hall⟩ := h.identifier
  rw [hcs] at hd
  rcases List.mem_cons.1 hd with rfl | hd
  · exact hc.imp_left fun ha => by simp [Char.isAlphanum, ha]
  · exact hall d hd

theorem IsName.notMem {name : String} (h : IsName name) {d : Char}
    (hd : ¬ (d.isAlphanum ∨ d = '_' ∨ d = '$')) : d ∉ name.toList :=
  fun hm => hd (h.isAlphanum_of_mem hm)

theorem IsName.isPlain {name : String} (h : IsName name) : IsPlain name := by
  intro d hd
  rcases h.isAlphanum_of_mem hd with hd | rfl | rfl
  · exact isPlainChar_of_isAlphanum hd
  · decide
  · decide

/-! ## Names of objects -/

theorem toList_spriteName (index : Nat) :
    (spriteName index).toList = spriteStem.toList ++ Nat.toDigits 10 index := by
  rw [spriteName, String.toList_append, Nat.toString_eq_ofList_toDigits, String.toList_ofList]

theorem spriteName_injective {i j : Nat} (h : spriteName i = spriteName j) : i = j := by
  have hdigits := congrArg String.toList h
  rw [toList_spriteName, toList_spriteName, List.append_cancel_left_eq] at hdigits
  have hvalue := congrArg (Nat.ofDigitChars 10 · 0) hdigits
  simpa using hvalue

theorem isDigit_of_mem_toDigits {index : Nat} {c : Char} (h : c ∈ Nat.toDigits 10 index) :
    c.isDigit :=
  Nat.isDigit_of_mem_toDigits (by decide) (by decide) h

theorem isSpriteName_spriteName (index : Nat) : isSpriteName (spriteName index).toList := by
  have hdigits : (Nat.toDigits 10 index).all Char.isDigit :=
    List.all_eq_true.2 fun c => isDigit_of_mem_toDigits
  simp [isSpriteName, toList_spriteName, hdigits]

theorem isAlphanum_of_mem_spriteName {index : Nat} {c : Char}
    (h : c ∈ (spriteName index).toList) : c.isAlphanum := by
  rw [toList_spriteName, List.mem_append] at h
  rcases h with h | h
  · exact List.all_eq_true.1 (by decide) c h
  · simp [Char.isAlphanum, isDigit_of_mem_toDigits h]

theorem isPlain_spriteName (index : Nat) : IsPlain (spriteName index) :=
  fun _ hc => isPlainChar_of_isAlphanum (isAlphanum_of_mem_spriteName hc)

theorem spriteName_notMem_frameNames (index : Nat) : spriteName index ∉ frameNames := by
  have hframe : ∀ name ∈ frameNames, isSpriteName name.toList = false := by decide
  intro h
  have := hframe _ h
  rw [isSpriteName_spriteName] at this
  cases this

end SpriteScene
