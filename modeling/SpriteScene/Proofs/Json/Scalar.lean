/-
  The grammar of scalars.

  * `StringBody` is what may stand between the quotes of a string, and `IsScalar` any
    value that is no container;
  * `exists_stringBody_of_skipString` and `exists_isScalar_of_skipScalar`: readers go over
    texts of the grammar and over nothing else;
  * `StringBody.skipString` and `IsScalar.skipScalar`: they go over all of them, whatever
    follows;
  * `keyRead` and `scalarRead` are what a key and a scalar are read as, if they can be.
    That does not depend on what follows either (`StringBody.keyRead_append`,
    `IsScalar.scalarRead_append`).
-/
import SpriteScene.Json.Skim
import SpriteScene.Proofs.Json.Reads
import SpriteScene.Proofs.Steps

namespace SpriteScene.Json

/-! ## Strings -/

/-- What may stand between the quotes of a string, whether or not its escapes stand
    for characters. -/
inductive StringBody : List Char → Prop
  | nil : StringBody []
  | plain {c : Char} {body : List Char} :
      c ≠ '"' → c ≠ '\\' → ¬ c.toNat < 0x20 → StringBody body → StringBody (c :: body)
  | letter {c : Char} {body : List Char} :
      (escapeLetter? c).isSome → StringBody body → StringBody ('\\' :: c :: body)
  | number {a b c d : Char} {body : List Char} :
      (ofHexQuad? a b c d).isSome → StringBody body →
        StringBody ('\\' :: 'u' :: a :: b :: c :: d :: body)

theorem takeHex_eq_ok {cs rest : List Char} {n : Nat} (h : takeHex cs = .ok (n, rest)) :
    ∃ a b c d, cs = a :: b :: c :: d :: rest ∧ ofHexQuad? a b c d = some n := by
  unfold takeHex at h
  split at h
  · rename_i a b c d cs
    split at h
    · rename_i hvalue
      cases h
      exact ⟨a, b, c, d, rfl, hvalue⟩
    · cases h
  · split at h <;> cases h

theorem takeHex_cons {a b c d : Char} {n : Nat} (h : ofHexQuad? a b c d = some n)
    (rest : List Char) : takeHex (a :: b :: c :: d :: rest) = .ok (n, rest) := by
  rw [takeHex, h]

/-- A string is gone over up to its closing quote. -/
theorem StringBody.skipCharacters {body : List Char} (h : StringBody body) (rest : List Char) :
    ∀ limit, body.length < limit →
      Json.skipCharacters limit (body ++ '"' :: rest) = .ok rest := by
  induction h with
  | nil =>
    intro limit hlimit
    obtain ⟨limit, rfl⟩ := Nat.exists_eq_succ_of_ne_zero (Nat.ne_of_gt hlimit)
    rfl
  | @plain c body hquote hbackslash hcontrol _ ih =>
    intro limit hlimit
    obtain ⟨limit, rfl⟩ := Nat.exists_eq_succ_of_ne_zero (Nat.ne_of_gt (Nat.zero_lt_of_lt hlimit))
    rw [List.cons_append, skipCharacters.eq_5 limit c _ hquote hbackslash, if_neg hcontrol]
    exact ih limit (Nat.lt_of_succ_lt_succ hlimit)
  | @letter c body hletter _ ih =>
    intro limit hlimit
    obtain ⟨limit, rfl⟩ := Nat.exists_eq_succ_of_ne_zero (Nat.ne_of_gt (Nat.zero_lt_of_lt hlimit))
    have hu : c = 'u' → False := by
      rintro rfl
      exact absurd hletter (by decide)
    rw [List.cons_append, List.cons_append, Json.skipCharacters, skipEscape.eq_3 c _ hu,
      if_pos hletter]
    refine ih limit ?_
    simp only [List.length_cons] at hlimit
    omega
  | @number a b c d body hnumber _ ih =>
    intro limit hlimit
    obtain ⟨limit, rfl⟩ := Nat.exists_eq_succ_of_ne_zero (Nat.ne_of_gt (Nat.zero_lt_of_lt hlimit))
    obtain ⟨n, hn⟩ := Option.isSome_iff_exists.1 hnumber
    simp only [List.cons_append]
    rw [Json.skipCharacters, skipEscape, takeHex_cons hn]
    refine ih limit ?_
    simp only [List.length_cons] at hlimit
    omega

theorem StringBody.skipString {body : List Char} (h : StringBody body) (rest : List Char) :
    Json.skipString (body ++ '"' :: rest) = .ok rest := by
  refine h.skipCharacters rest _ ?_
  rw [List.length_append]
  omega

theorem exists_stringBody_of_skipCharacters {limit : Nat} {cs rest : List Char}
    (h : skipCharacters limit cs = .ok rest) :
    ∃ body, StringBody body ∧ cs = body ++ '"' :: rest := by
  induction limit generalizing cs with
  | zero => cases h
  | succ limit ih =>
    unfold skipCharacters at h
    split at h
    · contradiction
    · cases h
    · cases h
      exact ⟨[], .nil, rfl⟩
    · rename_i heq
      cases heq
      obtain ⟨more, hescape, h⟩ := bind_eq_ok_iff.1 h
      obtain ⟨body, hbody, rfl⟩ := ih h
      unfold skipEscape at hescape
      split at hescape
      · cases hescape
      · obtain ⟨⟨n, _⟩, hhex, rfl⟩ := map_eq_ok_iff.1 hescape
        obtain ⟨a, b, c, d, rfl, hn⟩ := takeHex_eq_ok hhex
        exact ⟨_, .number (by rw [hn]; rfl) hbody, rfl⟩
      · split at hescape
        · rename_i hletter
          cases hescape
          exact ⟨_, .letter hletter hbody, rfl⟩
        · cases hescape
    · rename_i hquote hbackslash heq
      cases heq
      split at h
      · cases h
      · rename_i hcontrol
        obtain ⟨body, hbody, rfl⟩ := ih h
        exact ⟨_, .plain hquote hbackslash hcontrol hbody, rfl⟩

/-- What is gone over as a string is one. -/
theorem exists_stringBody_of_skipString {cs rest : List Char} (h : skipString cs = .ok rest) :
    ∃ body, StringBody body ∧ cs = body ++ '"' :: rest :=
  exists_stringBody_of_skipCharacters h

/-- What an escape by number is read as does not depend on what follows. -/
theorem takeCodePoint_eq_ok {cs rest : List Char} {c : Char}
    (h : takeCodePoint cs = .ok (c, rest)) :
    ∃ digits, cs = digits ++ rest ∧ (∀ rest', takeCodePoint (digits ++ rest') = .ok (c, rest')) ∧
      ∀ body, StringBody body → StringBody ('\\' :: 'u' :: (digits ++ body)) := by
  unfold takeCodePoint at h
  obtain ⟨⟨n, more⟩, hhex, hread⟩ := bind_eq_ok_iff.1 h
  obtain ⟨a₁, a₂, a₃, a₄, rfl, hn⟩ := takeHex_eq_ok hhex
  dsimp only at hread
  split at hread
  · cases hread
  rename_i hlow
  split at hread
  · rename_i hplain
    cases hread
    refine ⟨[a₁, a₂, a₃, a₄], rfl, fun rest' => ?_, fun body => .number (by rw [hn]; rfl)⟩
    simp only [List.cons_append, List.nil_append, takeCodePoint, takeHex_cons hn, bind, Except.bind,
      if_neg hlow, if_pos hplain]
    rfl
  · rename_i hlead
    split at hread
    · cases hread
    · cases hread
    · rename_i cs
      obtain ⟨⟨low, _⟩, hhex', hpair⟩ := bind_eq_ok_iff.1 hread
      obtain ⟨b₁, b₂, b₃, b₄, rfl, hlow'⟩ := takeHex_eq_ok hhex'
      dsimp only at hpair
      split at hpair
      · cases hpair
      · rename_i htrail
        obtain ⟨rfl, rfl⟩ := Prod.mk.inj (Except.ok.inj hpair)
        refine ⟨[a₁, a₂, a₃, a₄, '\\', 'u', b₁, b₂, b₃, b₄], rfl, fun rest' => ?_,
          fun body hbody => ?_⟩
        · simp only [List.cons_append, List.nil_append, takeCodePoint, takeHex_cons hn,
            takeHex_cons hlow', bind, Except.bind, if_neg hlow, if_neg hlead, if_neg htrail]
          rfl
        · exact .number (by rw [hn]; rfl) (.number (by rw [hlow']; rfl) hbody)
    · cases hread

/-- What an escape is read as does not depend on what follows. -/
theorem takeEscape_eq_ok {cs rest : List Char} {c : Char} (h : takeEscape cs = .ok (c, rest)) :
    ∃ escape, cs = escape ++ rest ∧ (∀ rest', takeEscape (escape ++ rest') = .ok (c, rest')) ∧
      ∀ body, StringBody body → StringBody ('\\' :: (escape ++ body)) := by
  unfold takeEscape at h
  split at h
  · cases h
  · obtain ⟨digits, rfl, htake, hbody⟩ := takeCodePoint_eq_ok h
    exact ⟨'u' :: digits, rfl, htake, hbody⟩
  · rename_i d cs hu
    split at h
    · rename_i hletter
      cases h
      refine ⟨[d], rfl, fun rest' => ?_, fun body => .letter (by rw [hletter]; rfl)⟩
      rw [List.singleton_append, takeEscape.eq_3 d rest' hu, hletter]
    · cases h

/-- What a string is read as does not depend on what follows. -/
theorem takeCharacters_eq_ok {limit : Nat} {read cs s rest : List Char}
    (h : takeCharacters limit read cs = .ok (s, rest)) :
    ∃ body, StringBody body ∧ cs = body ++ '"' :: rest ∧
      ∀ limit' rest', body.length < limit' →
        takeCharacters limit' read (body ++ '"' :: rest') = .ok (s, rest') := by
  induction limit generalizing read cs with
  | zero => cases h
  | succ limit ih =>
    unfold takeCharacters at h
    split at h
    · contradiction
    · cases h
    · cases h
      refine ⟨[], .nil, rfl, fun limit' rest' hlimit => ?_⟩
      obtain ⟨limit', rfl⟩ := Nat.exists_eq_succ_of_ne_zero (Nat.ne_of_gt hlimit)
      rfl
    · rename_i heq
      cases heq
      obtain ⟨⟨c, more⟩, hfirst, htake⟩ := bind_eq_ok_iff.1 h
      obtain ⟨escape, rfl, hescape, hstep⟩ := takeEscape_eq_ok hfirst
      obtain ⟨body, hbody, rfl, hrest⟩ := ih htake
      refine ⟨'\\' :: (escape ++ body), hstep body hbody, by simp, fun limit' rest' hlimit => ?_⟩
      obtain ⟨limit', rfl⟩ :=
        Nat.exists_eq_succ_of_ne_zero (Nat.ne_of_gt (Nat.zero_lt_of_lt hlimit))
      rw [List.cons_append, List.append_assoc, takeCharacters, hescape]
      refine hrest limit' rest' ?_
      simp only [List.length_cons, List.length_append] at hlimit
      omega
    · rename_i c more hquote hbackslash heq
      cases heq
      split at h
      · cases h
      · rename_i hcontrol
        obtain ⟨body, hbody, rfl, hrest⟩ := ih h
        refine ⟨c :: body, .plain hquote hbackslash hcontrol hbody, rfl,
          fun limit' rest' hlimit => ?_⟩
        obtain ⟨limit', rfl⟩ :=
          Nat.exists_eq_succ_of_ne_zero (Nat.ne_of_gt (Nat.zero_lt_of_lt hlimit))
        rw [List.cons_append, takeCharacters.eq_5 _ limit' c _ hquote hbackslash,
          if_neg hcontrol]
        exact hrest limit' rest' (Nat.lt_of_succ_lt_succ hlimit)

theorem takeString_eq_ok {cs rest : List Char} {s : String} (h : takeString cs = .ok (s, rest)) :
    ∃ body, StringBody body ∧ cs = body ++ '"' :: rest ∧
      ∀ rest', takeString (body ++ '"' :: rest') = .ok (s, rest') := by
  obtain ⟨⟨chars, more⟩, htake, hs⟩ := map_eq_ok_iff.1 h
  obtain ⟨rfl, rfl⟩ := Prod.mk.inj hs
  obtain ⟨body, hbody, rfl, hrest⟩ := takeCharacters_eq_ok htake
  refine ⟨body, hbody, rfl, fun rest' => ?_⟩
  have hlimit : body.length < (body ++ '"' :: rest').length + 1 := by
    rw [List.length_append]
    omega
  rw [takeString, hrest _ rest' hlimit]
  rfl

/-- What the text behind an opening quote is read as, if that can be. -/
def keyRead (cs : List Char) : Option String := (takeString cs).toOption.map (·.1)

theorem keyRead_eq_some_iff {cs : List Char} {s : String} :
    keyRead cs = some s ↔ ∃ rest, takeString cs = .ok (s, rest) := by
  cases h : takeString cs with
  | error fault => simp [keyRead, h, Except.toOption]
  | ok p => simp [keyRead, h, Except.toOption, Prod.ext_iff]

/-- A string is read where it is gone over and stands for characters. -/
theorem takeString_eq_ok_iff {cs rest : List Char} {s : String} :
    takeString cs = .ok (s, rest) ↔ skipString cs = .ok rest ∧ keyRead cs = some s := by
  have hskip {rest : List Char} (h : takeString cs = .ok (s, rest)) : skipString cs = .ok rest := by
    obtain ⟨body, hbody, rfl, -⟩ := takeString_eq_ok h
    exact hbody.skipString rest
  constructor
  · intro h
    exact ⟨hskip h, keyRead_eq_some_iff.2 ⟨rest, h⟩⟩
  · rintro ⟨hrest, hread⟩
    obtain ⟨rest', h⟩ := keyRead_eq_some_iff.1 hread
    obtain rfl : rest' = rest := Except.ok.inj ((hskip h).symm.trans hrest)
    exact h

theorem StringBody.keyRead_append {body : List Char} (h : StringBody body) (rest : List Char) :
    keyRead (body ++ '"' :: rest) = keyRead (body ++ ['"']) := by
  have hmove {s : String} {rest rest' : List Char}
      (hread : keyRead (body ++ '"' :: rest) = some s) :
      keyRead (body ++ '"' :: rest') = some s := by
    obtain ⟨more, htake⟩ := keyRead_eq_some_iff.1 hread
    obtain ⟨body', hbody', heq, hrest⟩ := takeString_eq_ok htake
    have hskip := h.skipString rest
    rw [heq, hbody'.skipString] at hskip
    obtain rfl : more = rest := Except.ok.inj hskip
    rw [List.append_cancel_right heq]
    exact keyRead_eq_some_iff.2 ⟨rest', hrest rest'⟩
  ext s
  exact ⟨hmove, hmove⟩

/-! ## Scalars -/

theorem takeWord_append (word rest : List Char) : takeWord word (word ++ rest) = .ok rest := by
  induction word with
  | nil => rfl
  | cons c word ih =>
    rw [List.cons_append, takeWord, if_pos rfl]
    exact ih

theorem takeWord_eq_ok {word cs rest : List Char} (h : takeWord word cs = .ok rest) :
    cs = word ++ rest := by
  induction word generalizing cs with
  | nil =>
    cases h
    rfl
  | cons c word ih =>
    cases cs with
    | nil => cases h
    | cons d cs =>
      rw [takeWord] at h
      split at h
      · rename_i hd
        rw [hd, ih h, List.cons_append]
      · cases h

/-- The texts of values that are no containers. -/
inductive IsScalar : List Char → Prop
  | null : IsScalar ('n' :: "ull".toList)
  | true : IsScalar ('t' :: "rue".toList)
  | false : IsScalar ('f' :: "alse".toList)
  | negative {n : Numeral} {text : List Char} : SpellsNumeral n text → IsScalar ('-' :: text)
  | number {n : Numeral} {text : List Char} : SpellsNumeral n text → IsScalar text
  | string {body : List Char} : StringBody body → IsScalar ('"' :: (body ++ ['"']))

/-- What a scalar at the front of a text is read as, if that can be. -/
def scalarRead : List Char → Option Found
  | [] => none
  | c :: cs => (takeScalar c cs).toOption.map (·.1)

theorem scalarRead_eq_some_iff {c : Char} {cs : List Char} {found : Found} :
    scalarRead (c :: cs) = some found ↔ ∃ rest, takeScalar c cs = .ok (found, rest) := by
  cases h : takeScalar c cs with
  | error fault => simp [scalarRead, h, Except.toOption]
  | ok p => simp [scalarRead, h, Except.toOption, Prod.ext_iff]

theorem takeNumber_eq_ok {negative : Bool} {cs rest : List Char} {v : Number}
    (h : takeNumber negative cs = .ok (v, rest)) : skipNumber cs = .ok rest := by
  rw [takeNumber] at h
  split at h
  · cases h
  · cases h
  · rename_i hnumeral
    split at h
    · cases h
      rw [skipNumber, hnumeral]
    · cases h

theorem exists_of_skipNumber {cs rest : List Char} (h : skipNumber cs = .ok rest) :
    ∃ n, takeNumeral cs = .ok (n, rest) := by
  rw [skipNumber] at h
  split at h
  · rename_i hnumeral
    cases h
    exact ⟨_, hnumeral⟩
  · cases h

/-- A scalar is read where it is gone over and stands for something. -/
theorem takeScalar_eq_ok_iff {c : Char} {cs rest : List Char} {found : Found} :
    takeScalar c cs = .ok (found, rest) ↔
      skipScalar c cs = .ok rest ∧ scalarRead (c :: cs) = some found := by
  have hskip {rest : List Char} (h : takeScalar c cs = .ok (found, rest)) :
      skipScalar c cs = .ok rest := by
    rw [takeScalar] at h
    rw [skipScalar]
    have of_map {α : Type} {x : Except Fault α} {g : α → Found × List Char}
        {y : Except Fault (List Char)} (hg : ∀ a, x = .ok a → y = .ok (g a).2)
        (h : x.map g = .ok (found, rest)) : y = .ok rest := by
      obtain ⟨a, ha, hfound⟩ := map_eq_ok_iff.1 h
      rw [hg a ha, hfound]
    split_ifs at h ⊢
    · exact of_map (fun _ => id) h
    · exact of_map (fun _ => id) h
    · exact of_map (fun _ => id) h
    · exact of_map (fun _ => takeNumber_eq_ok) h
    · exact of_map (fun _ => takeNumber_eq_ok) h
    · exact of_map (fun _ hs => (takeString_eq_ok_iff.1 hs).1) h
  constructor
  · intro h
    exact ⟨hskip h, scalarRead_eq_some_iff.2 ⟨rest, h⟩⟩
  · rintro ⟨hrest, hread⟩
    obtain ⟨rest', h⟩ := scalarRead_eq_some_iff.1 hread
    obtain rfl : rest' = rest := Except.ok.inj ((hskip h).symm.trans hrest)
    exact h

/-! ### What a scalar is read as -/

theorem toOption_map_fst {α β : Type} (x : Except Fault (α × List Char)) (f : α → β) :
    (x.map fun (a, cs) => (f a, cs)).toOption.map (·.1) = (x.toOption.map (·.1)).map f := by
  cases x <;> rfl

theorem takeNumber_toOption {negative : Bool} {cs rest : List Char} {n : Numeral}
    (h : takeNumeral cs = .ok (n, rest)) :
    (takeNumber negative cs).toOption.map (·.1) = n.value? negative := by
  rw [takeNumber, h]
  cases hvalue : n.value? negative <;> simp [hvalue, Except.toOption]

theorem scalarRead_minus {cs rest : List Char} {n : Numeral} (h : takeNumeral cs = .ok (n, rest)) :
    scalarRead ('-' :: cs) = (n.value? true).map .number := by
  rw [← takeNumber_toOption h, ← toOption_map_fst]
  rfl

theorem scalarRead_digit {c : Char} {cs rest : List Char} {n : Numeral} (hc : c.isDigit)
    (h : takeNumeral (c :: cs) = .ok (n, rest)) :
    scalarRead (c :: cs) = (n.value? false).map .number := by
  rw [← takeNumber_toOption h, ← toOption_map_fst, scalarRead, takeScalar_digit hc]

theorem scalarRead_quote (cs : List Char) : scalarRead ('"' :: cs) = (keyRead cs).map .string := by
  rw [keyRead, ← toOption_map_fst]
  rfl

/-! ### Scalars in a text -/

theorem skipScalar_digit {c : Char} (h : c.isDigit) (cs : List Char) :
    skipScalar c cs = skipNumber (c :: cs) := by
  rw [skipScalar, if_neg (ne_of_isDigit h (by decide)), if_neg (ne_of_isDigit h (by decide)),
    if_neg (ne_of_isDigit h (by decide)), if_neg (ne_of_isDigit h (by decide)), if_pos h]

theorem SpellsNumeral.exists_digit {n : Numeral} {text : List Char} (h : SpellsNumeral n text) :
    ∃ c cs, text = c :: cs ∧ c.isDigit := by
  obtain ⟨exponent, -, rfl⟩ := h.spelled
  obtain ⟨c, cs, hcs⟩ := List.exists_cons_of_ne_nil h.wellFormed.whole.1
  rw [hcs]
  exact ⟨c, _, rfl, h.wellFormed.whole.2 c (by rw [hcs]; exact List.mem_cons_self)⟩

/-- What is gone over as a scalar is one, and is read as it is where it stands alone. -/
theorem exists_isScalar_of_skipScalar {c : Char} {cs rest : List Char}
    (h : skipScalar c cs = .ok rest) :
    ∃ text, IsScalar (c :: text) ∧ cs = text ++ rest ∧
      scalarRead (c :: cs) = scalarRead (c :: text) := by
  rw [skipScalar] at h
  split at h
  · rename_i hc
    subst hc
    obtain rfl := takeWord_eq_ok h
    exact ⟨_, .null, rfl, rfl⟩
  split at h
  · rename_i hc
    subst hc
    obtain rfl := takeWord_eq_ok h
    exact ⟨_, .true, rfl, rfl⟩
  split at h
  · rename_i hc
    subst hc
    obtain rfl := takeWord_eq_ok h
    exact ⟨_, .false, rfl, rfl⟩
  split at h
  · rename_i hc
    subst hc
    obtain ⟨n, hn⟩ := exists_of_skipNumber h
    obtain ⟨text, htext, rfl⟩ := exists_spellsNumeral_of_takeNumeral hn
    refine ⟨text, .negative htext, rfl, ?_⟩
    have halone := htext.takeNumeral endsNumber_nil
    rw [List.append_nil] at halone
    rw [scalarRead_minus hn, scalarRead_minus halone]
  split at h
  · rename_i hc
    obtain ⟨n, hn⟩ := exists_of_skipNumber h
    obtain ⟨text, htext, heq⟩ := exists_spellsNumeral_of_takeNumeral hn
    obtain ⟨d, text, rfl, -⟩ := htext.exists_digit
    obtain ⟨rfl, rfl⟩ := List.cons.inj heq
    refine ⟨text, .number htext, rfl, ?_⟩
    have halone := htext.takeNumeral endsNumber_nil
    rw [List.append_nil] at halone
    rw [scalarRead_digit hc hn, scalarRead_digit hc halone]
  split at h
  · rename_i hc
    subst hc
    obtain ⟨body, hbody, rfl⟩ := exists_stringBody_of_skipString h
    refine ⟨body ++ ['"'], .string hbody, by simp, ?_⟩
    rw [scalarRead_quote, scalarRead_quote, hbody.keyRead_append]
  · cases h

namespace IsScalar

/-- Every scalar is gone over, in front of anything that ends a number. -/
theorem skipScalar {c : Char} {cs rest : List Char} (h : IsScalar (c :: cs))
    (hr : EndsNumber rest) : Json.skipScalar c (cs ++ rest) = .ok rest := by
  cases h with
  | null => exact takeWord_append _ rest
  | true => exact takeWord_append _ rest
  | false => exact takeWord_append _ rest
  | negative htext =>
    have hnumeral := htext.takeNumeral hr
    change skipNumber _ = _
    rw [skipNumber, hnumeral]
  | number htext =>
    obtain ⟨d, ds, heq, hd⟩ := htext.exists_digit
    obtain ⟨rfl, rfl⟩ := List.cons.inj heq
    have hnumeral := htext.takeNumeral hr
    rw [List.cons_append] at hnumeral
    rw [skipScalar_digit hd, skipNumber, hnumeral]
  | string hbody =>
    have hskip := hbody.skipString rest
    change skipString _ = _
    rwa [List.append_assoc]

/-- What a scalar is read as does not depend on what follows. -/
theorem scalarRead_append {c : Char} {cs rest : List Char} (h : IsScalar (c :: cs))
    (hr : EndsNumber rest) : scalarRead (c :: (cs ++ rest)) = scalarRead (c :: cs) := by
  obtain ⟨text, htext, heq, hread⟩ := exists_isScalar_of_skipScalar (h.skipScalar hr)
  rw [hread, List.append_cancel_right heq]

/-- A scalar begins with neither white space nor a bracket. -/
theorem head {text : List Char} (h : IsScalar text) :
    ∃ c cs, text = c :: cs ∧ isSpace c = Bool.false ∧ c ≠ ']' ∧ c ≠ '[' ∧ c ≠ '\x7b' := by
  cases h with
  | number htext =>
    obtain ⟨c, cs, rfl, hc⟩ := htext.exists_digit
    obtain ⟨hspace, hclose⟩ := not_isSpace_of_isDigit hc
    exact ⟨c, cs, rfl, hspace, hclose, ne_of_isDigit hc (by decide), ne_of_isDigit hc (by decide)⟩
  | null => exact ⟨_, _, rfl, by decide⟩
  | true => exact ⟨_, _, rfl, by decide⟩
  | false => exact ⟨_, _, rfl, by decide⟩
  | negative => exact ⟨_, _, rfl, by decide⟩
  | string => exact ⟨_, _, rfl, by decide⟩

end IsScalar

end SpriteScene.Json
