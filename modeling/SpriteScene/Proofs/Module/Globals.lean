/-
  Global names in coordinates.

  A coordinate that is not finite is written as the name of a global, and a script
  may have just that name: it is neither reserved nor among the names of the module.

  * `Binary64.eq_of_literal_eq_name`: the numbers that are written as a name, behind
    a sign or not, are not-a-number and the infinities;
  * `Scene.captures_of_compile`: an import captures the global of a coordinate iff
    there is such a coordinate and a script of its name, so none does in a scene with
    finite coordinates, as those that are read from a text have.
-/
import SpriteScene.Proofs.Module.Scope
import SpriteScene.Proofs.Scene.Finite

namespace SpriteScene

/-! ## Numbers that are written as names -/

theorem not_isNameStart_of_isDigit {c : Char} (h : c.isDigit) : ¬ isNameStart c := by
  intro hstart
  simp only [isNameStart, Bool.or_eq_true, decide_eq_true_eq] at hstart
  rcases hstart with (hletter | rfl) | rfl
  · have hdigit : c.val ≤ '9'.val := of_decide_eq_true (Bool.and_eq_true_iff.1 h).2
    rcases Bool.or_eq_true_iff.1 hletter with hupper | hlower
    · have hbound : 'A'.val ≤ c.val := (of_decide_eq_true hupper).1
      exact absurd (UInt32.le_trans hbound hdigit) (by decide)
    · have hbound : 'a'.val ≤ c.val := of_decide_eq_true (Bool.and_eq_true_iff.1 hlower).1
      exact absurd (UInt32.le_trans hbound hdigit) (by decide)
  · exact absurd h (by decide)
  · exact absurd h (by decide)

theorem Decimal.exists_digit_positionalText (d : Decimal) :
    ∃ c cs, (d.positionalText "").toList = c :: cs ∧ c.isDigit := by
  have of_digits {cs more : List Char} (hne : cs ≠ []) (h : ∀ c ∈ cs, c ∈ Nat.toDigits 10 d.digits) :
      ∃ c cs', cs ++ more = c :: cs' ∧ c.isDigit := by
    obtain ⟨c, cs', rfl⟩ := List.exists_cons_of_ne_nil hne
    exact ⟨c, cs' ++ more, rfl, isDigit_of_mem_toDigits (h c List.mem_cons_self)⟩
  unfold Decimal.positionalText
  dsimp only
  split
  · simp only [digitText, String.toList_append, String.toList_ofList, List.append_assoc]
    exact of_digits Nat.toDigits_ne_nil fun _ => id
  · split
    · rename_i hplaces
      simp only [String.toList_append, String.toList_ofList, List.append_assoc]
      refine of_digits ?_ fun _ => List.mem_of_mem_take
      rw [← List.length_pos_iff, List.length_take]
      omega
    · simp only [String.toList_append, List.append_assoc]
      exact ⟨'0', _, rfl, by decide⟩

namespace Binary64

/-- A number that is written as a name is not finite, and the name is that of a
    global. -/
theorem eq_of_literal_eq_name {v : Binary64} {name : String}
    (hname : ∃ c cs, name.toList = c :: cs ∧ isNameStart c)
    (h : v.literal = name ∨ v.literal = "-" ++ name) :
    name = "NaN" ∧ v = .nan ∨ name = "Infinity" ∧ ∃ negative, v = .infinite negative := by
  obtain ⟨c, cs, hcs, hc⟩ := hname
  have hsign : '-' ≠ c := by
    rintro rfl
    exact absurd hc (by decide)
  have hunsigned (h : v.literal = name) : v.literal.toList.head? ≠ some '-' := by
    rw [h, hcs]
    exact fun he => hsign (Option.some.inj he).symm
  have hsigned (h : v.literal = "-" ++ name) : v.literal.toList.head? = some '-' := by
    rw [h, String.toList_append]
    rfl
  cases v with
  | nan =>
    refine Or.inl ⟨?_, rfl⟩
    rcases h with rfl | h
    · rfl
    · exact absurd (hsigned h) (by decide)
  | infinite negative =>
    refine Or.inr ⟨?_, negative, rfl⟩
    cases negative with
    | false =>
      rcases h with rfl | h
      · rfl
      · exact absurd (hsigned h) (by decide)
    | true =>
      rcases h with h | h
      · exact absurd (hunsigned h) (by decide)
      · exact (String.append_right_inj "-").1 h.symm
  | finite negative m =>
    obtain ⟨digit, digits, htext, hdigit⟩ := (m.shortest .up).exists_digit_positionalText
    have hdigit' : ¬ isNameStart digit := not_isNameStart_of_isDigit hdigit
    have hname : digit ≠ c := fun he => hdigit' (he ▸ hc)
    have hminus : digit ≠ '-' := fun he => absurd hdigit (by rw [he]; decide)
    have hliteral : (finite negative m).literal.toList =
        (if negative then "-" else "").toList ++ digit :: digits := by
      rw [literal, text, Magnitude.text_sourceLiteral, String.toList_append, htext]
    exfalso
    rcases h with h | h
    · rw [h, hcs] at hliteral
      cases negative with
      | false => exact hname (List.cons.inj hliteral).1.symm
      | true => exact hsign (List.cons.inj hliteral).1.symm
    · rw [h, String.toList_append, hcs] at hliteral
      cases negative with
      | false => exact hminus (List.cons.inj hliteral).1.symm
      | true => exact hname (List.cons.inj (List.cons.inj hliteral).2).1.symm

end Binary64

/-! ## Imports -/

namespace Scene

/-- An import binds a name that a coordinate is written as. -/
def Captures (s : Scene) (code name : String) : Prop :=
  (∃ v ∈ s.coordinates, v.literal = name ∨ v.literal = "-" ++ name) ∧
    name ∈ (boundImports code).map Prod.fst

/-- The names that the imports of a module bind. -/
theorem mem_boundImports_iff {s : Scene} {code : String} (h : s.compile = .ok code)
    {name : String} : name ∈ (boundImports code).map Prod.fst ↔
      name ∈ ["Phaser", "React"] ∨ ∃ r ∈ s.references, symbolOf r = name := by
  rw [boundImports_compile h, List.map_append, List.mem_append, map_fst_scriptImports]
  refine or_congr Iff.rfl ?_
  rw [List.mem_map]
  exact exists_congr fun r => and_congr_left fun _ => List.mem_eraseDups

theorem isNameStart_of_mem_boundImports {s : Scene} {code : String} (h : s.compile = .ok code)
    {name : String} (hname : name ∈ (boundImports code).map Prod.fst) :
    ∃ c cs, name.toList = c :: cs ∧ isNameStart c := by
  rcases (mem_boundImports_iff h).1 hname with hframe | ⟨r, hr, rfl⟩
  · rw [List.mem_cons, List.mem_singleton] at hframe
    rcases hframe with rfl | rfl
    · exact ⟨_, _, rfl, by decide⟩
    · exact ⟨_, _, rfl, by decide⟩
  · have himp := (compile_eq_ok_iff.1 h).1
    obtain ⟨c, cs, hcs, hc, -⟩ := (isName_symbolOf (himp.valid r hr)).identifier
    exact ⟨c, cs, hcs, by simpa [isNameStart, or_assoc] using hc⟩

/-- **When an import captures a global.**  The coordinates use two globals, and a
    script may have the name of either. -/
theorem captures_of_compile {s : Scene} {code : String} (h : s.compile = .ok code) :
    (∀ name, s.Captures code name ↔
      (name = "NaN" ∧ .nan ∈ s.coordinates ∨
        name = "Infinity" ∧ ∃ negative, .infinite negative ∈ s.coordinates) ∧
      ∃ r ∈ s.references, symbolOf r = name) ∧
    (s.IsFinite → ∀ name, ¬ s.Captures code name) := by
  have hglobal {name : String} {v : Binary64} (hv : v ∈ s.coordinates)
      (hliteral : v.literal = name ∨ v.literal = "-" ++ name)
      (hbound : name ∈ (boundImports code).map Prod.fst) :
      name = "NaN" ∧ .nan ∈ s.coordinates ∨
        name = "Infinity" ∧ ∃ negative, .infinite negative ∈ s.coordinates := by
    rcases Binary64.eq_of_literal_eq_name (isNameStart_of_mem_boundImports h hbound) hliteral with
      ⟨rfl, rfl⟩ | ⟨rfl, negative, rfl⟩
    · exact Or.inl ⟨rfl, hv⟩
    · exact Or.inr ⟨rfl, negative, hv⟩
  constructor
  · intro name
    constructor
    · rintro ⟨⟨v, hv, hliteral⟩, hbound⟩
      have hnames := hglobal hv hliteral hbound
      refine ⟨hnames, ((mem_boundImports_iff h).1 hbound).resolve_left fun hframe => ?_⟩
      rcases hnames with ⟨rfl, -⟩ | ⟨rfl, -⟩ <;> exact absurd hframe (by decide)
    · rintro ⟨hnames, hr⟩
      refine ⟨?_, (mem_boundImports_iff h).2 (Or.inr hr)⟩
      rcases hnames with ⟨rfl, hv⟩ | ⟨rfl, negative, hv⟩
      · exact ⟨_, hv, Or.inl rfl⟩
      · refine ⟨_, hv, ?_⟩
        cases negative with
        | false => exact Or.inl rfl
        | true => exact Or.inr rfl
  · rintro hfinite name ⟨⟨v, hv, hliteral⟩, hbound⟩
    rcases hglobal hv hliteral hbound with ⟨-, hv⟩ | ⟨-, negative, hv⟩
    · cases isFinite_iff.1 hfinite _ hv
    · cases isFinite_iff.1 hfinite _ hv

/-- An object nowhere, with a script that is called so. -/
def lostScene : Scene :=
  { empty with objects := [⟨1, "Player", ⟨.nan, .zero⟩, ["NaN.ts"]⟩] }

theorem captures_of_compile_lostScene : ∃ code, lostScene.compile = .ok code ∧
    lostScene.Captures code "NaN" ∧ ¬ lostScene.Captures code "Infinity" := by
  obtain ⟨code, h⟩ : ∃ code, lostScene.compile = .ok code := ⟨_, rfl⟩
  obtain ⟨hcaptures, -⟩ := captures_of_compile h
  refine ⟨code, h, (hcaptures "NaN").2 ⟨Or.inl ⟨rfl, List.mem_cons_self⟩, ?_⟩, fun hinfinity => ?_⟩
  · exact ⟨"NaN.ts", by decide, by decide⟩
  · obtain ⟨-, hr⟩ := (hcaptures "Infinity").1 hinfinity
    exact absurd hr (by decide)

/-- The coordinate of the object is not-a-number no longer: it is the script. -/
theorem not_free_of_captures :
    ¬ ∀ (s : Scene) (code : String), s.compile = .ok code →
      ∀ name ∈ ["NaN", "Infinity"], ¬ s.Captures code name := by
  intro h
  obtain ⟨code, hcode⟩ : ∃ code, lostScene.compile = .ok code := ⟨_, rfl⟩
  refine h lostScene code hcode "NaN" List.mem_cons_self
    ⟨⟨.nan, List.mem_cons_self, Or.inl rfl⟩, ?_⟩
  exact (mem_boundImports_iff hcode).2 (Or.inr ⟨"NaN.ts", by decide, by decide⟩)

end Scene

end SpriteScene
