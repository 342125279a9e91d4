/-
  What a text says, as a tree.

  * `Tree` are values with their elements and members, the keys and the scalars as they
    are read; `Tree.Spells` are the texts of a tree: parts in brackets with commas
    between them and white space anywhere;
  * `readTree` reads any value into its tree, as deep as the value goes
    (`readTree_eq`);
  * `exists_spells_of_readTree` and `Tree.Spells.readTree`: what is read is spelled by the
    text that was gone over, and every spelling is read; so `Tree.spellsText_iff`: the
    texts of a tree are those that are read into it.
-/
import SpriteScene.Proofs.Json.Scalar

namespace SpriteScene.Json

/-! ## Trees and their texts -/

/-- A value with all that is in it.  A scalar and a key are what they are read as, if
    they can be: a number may be out of range, an escape may stand for no character. -/
inductive Tree where
  | scalar (found : Option Found)
  | sequence (elements : List Tree)
  | map (members : List (Option String × Tree))

/-- What stands in front of a part of a container: white space, and a comma if the part
    is not the first. -/
def IsGap (first : Bool) (gap : List Char) : Prop :=
  if first then IsBlank gap
  else ∃ before after, IsBlank before ∧ IsBlank after ∧ gap = before ++ ',' :: after

mutual

/-- The texts of a tree, without white space around them. -/
inductive Tree.Spells : Tree → List Char → Prop
  | scalar {text : List Char} : IsScalar text → Tree.Spells (.scalar (scalarRead text)) text
  | sequence {es : List Tree} {text : List Char} :
      Tree.SpellsElements true es text → Tree.Spells (.sequence es) ('[' :: text)
  | map {ms : List (Option String × Tree)} {text : List Char} :
      Tree.SpellsMembers true ms text → Tree.Spells (.map ms) ('\x7b' :: text)

/-- The texts of elements, up to the bracket that closes their sequence. -/
inductive Tree.SpellsElements : Bool → List Tree → List Char → Prop
  | close {first : Bool} {gap : List Char} :
      IsBlank gap → Tree.SpellsElements first [] (gap ++ [']'])
  | element {first : Bool} {e : Tree} {es : List Tree} {gap text more : List Char} :
      IsGap first gap → Tree.Spells e text → Tree.SpellsElements false es more →
        Tree.SpellsElements first (e :: es) (gap ++ (text ++ more))

/-- The texts of members, up to the brace that closes their map. -/
inductive Tree.SpellsMembers : Bool → List (Option String × Tree) → List Char → Prop
  | close {first : Bool} {gap : List Char} :
      IsBlank gap → Tree.SpellsMembers first [] (gap ++ ['\x7d'])
  | member {first : Bool} {T : Tree} {ms : List (Option String × Tree)}
      {gap body before after text more : List Char} :
      IsGap first gap → StringBody body → IsBlank before → IsBlank after → Tree.Spells T text →
        Tree.SpellsMembers false ms more →
        Tree.SpellsMembers first ((keyRead (body ++ ['"']), T) :: ms)
          (gap ++ '"' :: (body ++ '"' :: (before ++ ':' :: (after ++ (text ++ more)))))

end

/-- The texts of a tree. -/
def Tree.SpellsText (T : Tree) (text : String) : Prop :=
  ∃ before chars after, IsBlank before ∧ T.Spells chars ∧ IsBlank after ∧
    text.toList = before ++ (chars ++ after)

/-! ## Reading trees -/

/-- Reads members up to the closing brace. -/
def treeMembersFrom (read : Reader Tree) :
    (limit : Nat) → (first : Bool) → Reader (List (Option String × Tree))
  | 0, _, _ => .error .truncated
  | limit + 1, first, cs => do
    let (more, cs) ← nextKey first cs
    if more then
      let rest ← skipString cs
      let rest ← takeColon rest
      let (T, rest) ← read rest
      let (ms, rest) ← treeMembersFrom read limit false rest
      return ((keyRead cs, T) :: ms, rest)
    else return ([], cs)

/-- Goes over a scalar by its first character, and tells what it is read as. -/
def scalarAt (c : Char) : Reader (Option Found) := fun cs =>
  (skipScalar c cs).map fun rest => (scalarRead (c :: cs), rest)

/-- Reads a scalar by its first character. -/
def treeScalar (c : Char) : Reader Tree := fun cs =>
  (scalarAt c cs).map fun (found, cs) => (.scalar found, cs)

/-- Reads a value by its first character, and what is in it with a given reader. -/
def treeAt (read : Reader Tree) (c : Char) : Reader Tree := fun cs =>
  if c = '[' then (elements read cs).map fun (es, cs) => (.sequence es, cs)
  else if c = '\x7b' then
    (treeMembersFrom read (cs.length + 1) true cs).map fun (ms, cs) => (.map ms, cs)
  else treeScalar c cs

/-- Reads a value with at most `depth` containers open at once. -/
def treeNested : (depth : Nat) → Reader Tree
  | 0 => atValue fun c cs => if c = '[' ∨ c = '\x7b' then .error .malformed else treeScalar c cs
  | depth + 1 => atValue (treeAt (treeNested depth))

/-- Reads a value. -/
def readTree : Reader Tree := fun cs => treeNested cs.length cs

/-! ## Between the parts -/

theorem IsBlank.append {gap gap' : List Char} (h : IsBlank gap) (h' : IsBlank gap') :
    IsBlank (gap ++ gap') := by
  intro c hc
  rcases List.mem_append.1 hc with hc | hc
  · exact h c hc
  · exact h' c hc

theorem IsGap.append {first : Bool} {gap gap' : List Char} (h : IsGap first gap)
    (h' : IsBlank gap') : IsGap first (gap ++ gap') := by
  cases first with
  | true => exact IsBlank.append h h'
  | false =>
    obtain ⟨before, after, hbefore, hafter, rfl⟩ := h
    exact ⟨before, after ++ gap', hbefore, hafter.append h', by simp⟩

/-- White space and what stands behind it. -/
theorem exists_gap_skipSpace (cs : List Char) :
    ∃ gap, IsBlank gap ∧ cs = gap ++ skipSpace cs :=
  ⟨cs.takeWhile isSpace, fun _ hc => List.mem_takeWhile_imp hc,
    List.takeWhile_append_dropWhile.symm⟩

theorem exists_gap_of_skipSpace {cs more : List Char} {c : Char} (h : skipSpace cs = c :: more) :
    ∃ gap, IsBlank gap ∧ cs = gap ++ c :: more := by
  obtain ⟨gap, hgap, hcs⟩ := exists_gap_skipSpace cs
  rw [h] at hcs
  exact ⟨gap, hgap, hcs⟩

theorem atValue_eq_ok {read : Char → Reader α} {cs rest : List Char} {a : α}
    (h : atValue read cs = .ok (a, rest)) :
    ∃ gap c more, IsBlank gap ∧ cs = gap ++ c :: more ∧ read c more = .ok (a, rest) := by
  rw [atValue] at h
  split at h
  · cases h
  · rename_i c more hspace
    obtain ⟨gap, hgap, hcs⟩ := exists_gap_of_skipSpace hspace
    exact ⟨gap, c, more, hgap, hcs, h⟩

theorem nextElement_eq_ok {first : Bool} {cs more : List Char}
    (h : nextElement first cs = .ok (some more)) : ∃ gap, IsGap first gap ∧ cs = gap ++ more := by
  rw [nextElement] at h
  split at h
  · cases h
  · rename_i c cs' hspace
    obtain ⟨gap, hgap, rfl⟩ := exists_gap_of_skipSpace hspace
    split at h
    · cases h
    split at h
    · rename_i hfirst
      cases h
      rw [hfirst]
      exact ⟨gap, hgap, rfl⟩
    · rename_i hfirst
      split at h
      · rename_i hcomma
        split at h
        · cases h
        · obtain rfl := Option.some.inj (Except.ok.inj h)
          obtain ⟨gap', hgap', hcs'⟩ := exists_gap_skipSpace cs'
          refine ⟨gap ++ ',' :: gap', ?_, ?_⟩
          · rw [Bool.eq_false_iff.2 hfirst]
            exact ⟨gap, gap', hgap, hgap', rfl⟩
          · rw [hcomma, List.append_assoc, List.cons_append, ← hcs']
      · cases h

theorem closeSequence_eq_ok {cs rest : List Char} (h : closeSequence cs = .ok rest) :
    ∃ gap, IsBlank gap ∧ cs = gap ++ ']' :: rest := by
  rw [closeSequence] at h
  split at h
  · cases h
  · rename_i hspace
    split at h
    · rename_i hc
      cases h
      rw [hc] at hspace
      exact exists_gap_of_skipSpace hspace
    · cases h

theorem takeColon_eq_ok {cs rest : List Char} (h : takeColon cs = .ok rest) :
    ∃ gap, IsBlank gap ∧ cs = gap ++ ':' :: rest := by
  rw [takeColon] at h
  split at h
  · cases h
  · rename_i hspace
    split at h
    · rename_i hc
      cases h
      rw [hc] at hspace
      exact exists_gap_of_skipSpace hspace
    · cases h

theorem nextKey_eq_ok {first more : Bool} {cs rest : List Char}
    (h : nextKey first cs = .ok (more, rest)) :
    (more = true ∧ ∃ gap, IsGap first gap ∧ cs = gap ++ '"' :: rest) ∨
      more = false ∧ ∃ gap, IsBlank gap ∧ cs = gap ++ '\x7d' :: rest := by
  rw [nextKey] at h
  split at h
  · cases h
  · rename_i c cs' hspace
    obtain ⟨gap, hgap, rfl⟩ := exists_gap_of_skipSpace hspace
    split at h
    · rename_i hclose
      cases h
      exact Or.inr ⟨rfl, gap, hgap, by rw [hclose]⟩
    split at h
    · rename_i hfirst
      split at h
      · rename_i hquote
        cases h
        rw [hfirst, hquote]
        exact Or.inl ⟨rfl, gap, hgap, rfl⟩
      · cases h
    · rename_i hfirst
      split at h
      · rename_i hcomma
        split at h
        · cases h
        · rename_i hspace'
          split at h
          · rename_i hquote
            cases h
            rw [hquote] at hspace'
            obtain ⟨gap', hgap', rfl⟩ := exists_gap_of_skipSpace hspace'
            refine Or.inl ⟨rfl, gap ++ ',' :: gap', ?_, ?_⟩
            · rw [Bool.eq_false_iff.2 hfirst]
              exact ⟨gap, gap', hgap, hgap', rfl⟩
            · rw [hcomma, List.append_assoc, List.cons_append]
          · cases h
      · cases h

/-! ## What is read is spelled -/

/-- A reader of trees that goes over their texts only. -/
def OnlySpelled (read : Reader Tree) : Prop :=
  ∀ cs T rest, read cs = .ok (T, rest) →
    ∃ gap text, IsBlank gap ∧ T.Spells text ∧ cs = gap ++ (text ++ rest)

theorem onlySpelled_atValue {read : Char → Reader Tree}
    (h : ∀ c cs T rest, read c cs = .ok (T, rest) →
      ∃ text, T.Spells (c :: text) ∧ cs = text ++ rest) : OnlySpelled (atValue read) := by
  intro cs T rest hread
  obtain ⟨gap, c, more, hgap, rfl, hvalue⟩ := atValue_eq_ok hread
  obtain ⟨text, htext, rfl⟩ := h c more T rest hvalue
  exact ⟨gap, c :: text, hgap, htext, rfl⟩

theorem spells_of_treeScalar {c : Char} {cs rest : List Char} {T : Tree}
    (h : treeScalar c cs = .ok (T, rest)) : ∃ text, T.Spells (c :: text) ∧ cs = text ++ rest := by
  obtain ⟨⟨found, _⟩, hfound, hT⟩ := map_eq_ok_iff.1 h
  obtain ⟨rfl, rfl⟩ := Prod.mk.inj hT
  obtain ⟨_, hskip, heq⟩ := map_eq_ok_iff.1 hfound
  obtain ⟨rfl, rfl⟩ := Prod.mk.inj heq
  obtain ⟨text, htext, rfl, hread⟩ := exists_isScalar_of_skipScalar hskip
  rw [hread]
  exact ⟨text, .scalar htext, rfl⟩

theorem OnlySpelled.elementsFrom {read : Reader Tree} (h : OnlySpelled read) (limit : Nat)
    {first : Bool} {cs rest : List Char} {es : List Tree}
    (hes : Json.elementsFrom read limit first cs = .ok (es, rest)) :
    ∃ text, Tree.SpellsElements first es text ∧ cs = text ++ rest := by
  induction limit generalizing first cs es with
  | zero => cases hes
  | succ limit ih =>
    rw [Json.elementsFrom] at hes
    obtain ⟨next, hnext, hread⟩ := bind_eq_ok_iff.1 hes
    cases next with
    | none =>
      obtain ⟨_, hclose, heq⟩ := bind_eq_ok_iff.1 hread
      obtain ⟨rfl, rfl⟩ := Prod.mk.inj (Except.ok.inj heq)
      obtain ⟨gap, hgap, rfl⟩ := closeSequence_eq_ok hclose
      exact ⟨gap ++ [']'], .close hgap, by simp⟩
    | some more =>
      obtain ⟨⟨e, _⟩, he, hmore⟩ := bind_eq_ok_iff.1 hread
      obtain ⟨⟨es', _⟩, hes', heq⟩ := bind_eq_ok_iff.1 hmore
      obtain ⟨rfl, rfl⟩ := Prod.mk.inj (Except.ok.inj heq)
      obtain ⟨gap, hgap, rfl⟩ := nextElement_eq_ok hnext
      obtain ⟨gap', text, hgap', htext, rfl⟩ := h _ _ _ he
      obtain ⟨text', htext', rfl⟩ := ih hes'
      exact ⟨_, .element (hgap.append hgap') htext htext', by simp⟩

theorem OnlySpelled.treeMembersFrom {read : Reader Tree} (h : OnlySpelled read) (limit : Nat)
    {first : Bool} {cs rest : List Char} {ms : List (Option String × Tree)}
    (hms : Json.treeMembersFrom read limit first cs = .ok (ms, rest)) :
    ∃ text, Tree.SpellsMembers first ms text ∧ cs = text ++ rest := by
  induction limit generalizing first cs ms with
  | zero => cases hms
  | succ limit ih =>
    rw [Json.treeMembersFrom] at hms
    obtain ⟨⟨more, _⟩, hnext, hread⟩ := bind_eq_ok_iff.1 hms
    rcases nextKey_eq_ok hnext with ⟨rfl, gap, hgap, rfl⟩ | ⟨rfl, gap, hgap, rfl⟩
    · obtain ⟨_, hkey, hvalue⟩ := bind_eq_ok_iff.1 hread
      obtain ⟨_, hcolon, hvalue'⟩ := bind_eq_ok_iff.1 hvalue
      obtain ⟨⟨T, _⟩, hT, hmore⟩ := bind_eq_ok_iff.1 hvalue'
      obtain ⟨⟨ms', _⟩, hms', heq⟩ := bind_eq_ok_iff.1 hmore
      obtain ⟨rfl, rfl⟩ := Prod.mk.inj (Except.ok.inj heq)
      obtain ⟨body, hbody, rfl⟩ := exists_stringBody_of_skipString hkey
      obtain ⟨before, hbefore, rfl⟩ := takeColon_eq_ok hcolon
      obtain ⟨after, text, hafter, htext, rfl⟩ := h _ _ _ hT
      obtain ⟨text', htext', rfl⟩ := ih hms'
      rw [hbody.keyRead_append]
      exact ⟨_, .member hgap hbody hbefore hafter htext htext', by simp⟩
    · obtain ⟨rfl, rfl⟩ := Prod.mk.inj (Except.ok.inj hread)
      exact ⟨gap ++ ['\x7d'], .close hgap, by simp⟩

theorem OnlySpelled.treeAt {read : Reader Tree} (h : OnlySpelled read) {c : Char}
    {cs rest : List Char} {T : Tree} (hT : Json.treeAt read c cs = .ok (T, rest)) :
    ∃ text, T.Spells (c :: text) ∧ cs = text ++ rest := by
  rw [Json.treeAt] at hT
  split at hT
  · rename_i hc
    subst hc
    obtain ⟨⟨es, _⟩, hes, heq⟩ := map_eq_ok_iff.1 hT
    obtain ⟨rfl, rfl⟩ := Prod.mk.inj heq
    obtain ⟨text, htext, rfl⟩ := h.elementsFrom _ hes
    exact ⟨text, .sequence htext, rfl⟩
  split at hT
  · rename_i hc
    subst hc
    obtain ⟨⟨ms, _⟩, hms, heq⟩ := map_eq_ok_iff.1 hT
    obtain ⟨rfl, rfl⟩ := Prod.mk.inj heq
    obtain ⟨text, htext, rfl⟩ := h.treeMembersFrom _ hms
    exact ⟨text, .map htext, rfl⟩
  · exact spells_of_treeScalar hT

theorem onlySpelled_treeNested (depth : Nat) : OnlySpelled (treeNested depth) := by
  induction depth with
  | zero =>
    refine onlySpelled_atValue fun c cs T rest h => ?_
    split at h
    · cases h
    · exact spells_of_treeScalar h
  | succ depth ih => exact onlySpelled_atValue fun c cs T rest h => ih.treeAt h

/-- **What is read is spelled** by the text that was gone over. -/
theorem onlySpelled_readTree : OnlySpelled readTree :=
  fun cs => onlySpelled_treeNested cs.length cs

/-! ## Deep enough -/

/-- A value begins with neither white space nor a closing bracket. -/
theorem Tree.Spells.head {T : Tree} {text : List Char} (h : T.Spells text) :
    ∃ c cs, text = c :: cs ∧ isSpace c = false ∧ c ≠ ']' := by
  cases h with
  | scalar htext =>
    obtain ⟨c, cs, hcs, hspace, hclose, -⟩ := htext.head
    exact ⟨c, cs, hcs, hspace, hclose⟩
  | sequence => exact ⟨_, _, rfl, by decide⟩
  | map => exact ⟨_, _, rfl, by decide⟩

/-- A value takes at least a character. -/
theorem OnlySpelled.length_lt {read : Reader Tree} (h : OnlySpelled read) {cs rest : List Char}
    {T : Tree} (hT : read cs = .ok (T, rest)) : rest.length < cs.length := by
  obtain ⟨gap, text, -, htext, rfl⟩ := h cs T rest hT
  obtain ⟨c, cs, rfl, -⟩ := htext.head
  simp only [List.length_append, List.length_cons]
  omega

section
variable {read read' : Reader Tree} (hread : OnlySpelled read) {n : Nat}
  (h : ∀ cs, cs.length ≤ n → read cs = read' cs)

include hread h

theorem elementsFrom_congr (limit : Nat) {first : Bool} {cs : List Char} (hcs : cs.length ≤ n) :
    elementsFrom read limit first cs = elementsFrom read' limit first cs := by
  induction limit generalizing first cs with
  | zero => rfl
  | succ limit ih =>
    rw [elementsFrom, elementsFrom]
    rcases hnext : nextElement first cs with _ | (_ | more)
    · rfl
    · rfl
    · obtain ⟨gap, -, rfl⟩ := nextElement_eq_ok hnext
      rw [List.length_append] at hcs
      simp only [bind, Except.bind, ← h more (by omega)]
      rcases he : read more with _ | ⟨e, rest⟩
      · rfl
      · have hrest := hread.length_lt he
        dsimp only
        rw [ih (by omega)]

theorem treeMembersFrom_congr (limit : Nat) {first : Bool} {cs : List Char} (hcs : cs.length ≤ n) :
    treeMembersFrom read limit first cs = treeMembersFrom read' limit first cs := by
  induction limit generalizing first cs with
  | zero => rfl
  | succ limit ih =>
    rw [treeMembersFrom, treeMembersFrom]
    rcases hnext : nextKey first cs with _ | ⟨more, key⟩
    · rfl
    · rcases nextKey_eq_ok hnext with ⟨rfl, gap, -, rfl⟩ | ⟨rfl, -⟩
      · simp only [bind, Except.bind, if_true]
        rcases hkey : skipString key with _ | colon
        · rfl
        dsimp only
        rcases hcolon : takeColon colon with _ | value
        · rfl
        obtain ⟨body, -, rfl⟩ := exists_stringBody_of_skipString hkey
        obtain ⟨before, -, rfl⟩ := takeColon_eq_ok hcolon
        simp only [List.length_append, List.length_cons] at hcs
        dsimp only
        rw [← h value (by omega)]
        rcases hT : read value with _ | ⟨T, rest⟩
        · rfl
        · have hrest := hread.length_lt hT
          dsimp only
          rw [ih (by omega)]
      · rfl

theorem treeAt_congr {c : Char} {cs : List Char} (hcs : cs.length ≤ n) :
    treeAt read c cs = treeAt read' c cs := by
  rw [treeAt, treeAt, elements, elements, elementsFrom_congr hread h _ hcs,
    treeMembersFrom_congr hread h _ hcs]

theorem atValue_treeAt_congr {cs : List Char} (hcs : cs.length ≤ n + 1) :
    atValue (treeAt read) cs = atValue (treeAt read') cs := by
  rw [atValue, atValue]
  rcases hspace : skipSpace cs with _ | ⟨c, more⟩
  · rfl
  · obtain ⟨gap, -, rfl⟩ := exists_gap_of_skipSpace hspace
    simp only [List.length_append, List.length_cons] at hcs
    exact treeAt_congr hread h (by omega)

end

/-- One more container than a text can open makes no difference. -/
theorem treeNested_succ {depth : Nat} {cs : List Char} (h : cs.length ≤ depth) :
    treeNested (depth + 1) cs = treeNested depth cs := by
  induction depth generalizing cs with
  | zero =>
    obtain rfl : cs = [] := List.eq_nil_of_length_eq_zero (Nat.le_zero.1 h)
    rfl
  | succ depth ih =>
    -- the opening bracket takes a character, so what is inside fits into one container less
    exact atValue_treeAt_congr (onlySpelled_treeNested (depth + 1)) (fun cs => ih) h

theorem treeNested_eq_readTree {depth : Nat} {cs : List Char} (h : cs.length ≤ depth) :
    treeNested depth cs = readTree cs := by
  induction depth, h using Nat.le_induction with
  | base => rfl
  | succ depth h ih => rw [treeNested_succ h, ih]

/-- **A tree is read as deep as it goes**, by its first character. -/
theorem readTree_eq (cs : List Char) : readTree cs = atValue (treeAt readTree) cs := by
  rw [readTree, ← treeNested_succ le_rfl]
  exact atValue_treeAt_congr (onlySpelled_treeNested cs.length)
    (fun cs' => treeNested_eq_readTree) (Nat.le_succ _)

/-! ## What is spelled is read -/

theorem skipSpace_blank {gap : List Char} (h : IsBlank gap) (cs : List Char) :
    skipSpace (gap ++ cs) = skipSpace cs := by
  rw [skipSpace, skipSpace, List.dropWhile_append_of_pos h]

section
variable {first : Bool} {gap cs : List Char}

theorem nextElement_gap (hgap : IsGap first gap) {c : Char} (hc : isSpace c = false)
    (hclose : c ≠ ']') : nextElement first (gap ++ c :: cs) = .ok (some (c :: cs)) := by
  cases first with
  | true => exact nextElement_first cs hgap hc hclose
  | false =>
    obtain ⟨before, after, hbefore, hafter, rfl⟩ := hgap
    have hcomma := nextElement_comma cs hafter hc hclose
    rw [nextElement] at hcomma
    rw [nextElement, List.append_assoc, skipSpace_blank hbefore, List.cons_append]
    exact hcomma

theorem nextKey_gap (hgap : IsGap first gap) :
    nextKey first (gap ++ '"' :: cs) = .ok (true, cs) := by
  cases first with
  | true => exact nextKey_first cs hgap
  | false =>
    obtain ⟨before, after, hbefore, hafter, rfl⟩ := hgap
    have hcomma := nextKey_comma cs hafter
    rw [nextKey] at hcomma
    rw [nextKey, List.append_assoc, skipSpace_blank hbefore, List.cons_append]
    exact hcomma

theorem takeColon_gap (hgap : IsBlank gap) : takeColon (gap ++ ':' :: cs) = .ok cs := by
  rw [takeColon, skipSpace_append hgap (by decide)]
  rfl

/-- What separates parts ends a number. -/
theorem IsGap.endsNumber (h : IsGap false gap) (cs : List Char) : EndsNumber (gap ++ cs) := by
  obtain ⟨before, after, hbefore, -, rfl⟩ := h
  rw [List.append_assoc, List.cons_append]
  exact endsNumber_blank hbefore (endsNumber_cons (by decide) _)

end

theorem Tree.SpellsElements.endsNumber {es : List Tree} {text : List Char}
    (h : Tree.SpellsElements false es text) (rest : List Char) : EndsNumber (text ++ rest) := by
  cases h with
  | close hgap =>
    rw [List.append_assoc]
    exact endsNumber_blank hgap (endsNumber_cons (by decide) _)
  | element hgap =>
    rw [List.append_assoc]
    exact hgap.endsNumber _

theorem Tree.SpellsMembers.endsNumber {ms : List (Option String × Tree)} {text : List Char}
    (h : Tree.SpellsMembers false ms text) (rest : List Char) : EndsNumber (text ++ rest) := by
  cases h with
  | close hgap =>
    rw [List.append_assoc]
    exact endsNumber_blank hgap (endsNumber_cons (by decide) _)
  | member hgap =>
    rw [List.append_assoc]
    exact hgap.endsNumber _

theorem treeScalar_append {c : Char} {cs rest : List Char} (h : IsScalar (c :: cs))
    (hr : EndsNumber rest) :
    treeScalar c (cs ++ rest) = .ok (.scalar (scalarRead (c :: cs)), rest) := by
  rw [treeScalar, scalarAt, h.skipScalar hr, h.scalarRead_append hr]
  rfl

-- The three go together along the spelling.  A number is read as long as it goes on, so
-- every one of them needs what stands behind a value to end it.
mutual

theorem Tree.Spells.readTree {T : Tree} {text : List Char} (h : T.Spells text) :
    ∀ {gap rest : List Char}, IsBlank gap → EndsNumber rest →
      Json.readTree (gap ++ (text ++ rest)) = .ok (T, rest) := by
  intro gap rest hgap hr
  rw [readTree_eq, atValue]
  cases h with
  | scalar htext =>
    obtain ⟨c, cs, rfl, hspace, -, hsequence, hmap⟩ := htext.head
    rw [List.cons_append, skipSpace_append hgap hspace]
    dsimp only
    rw [treeAt, if_neg hsequence, if_neg hmap]
    exact treeScalar_append htext hr
  | @sequence es cs hes =>
    rw [List.cons_append, skipSpace_append hgap (by decide)]
    dsimp only
    rw [treeAt, if_pos rfl, elements, hes.elementsFrom (by simp)]
    rfl
  | @map ms cs hms =>
    rw [List.cons_append, skipSpace_append hgap (by decide)]
    dsimp only
    rw [treeAt, if_neg (by decide), if_pos rfl, hms.treeMembersFrom (by simp)]
    rfl

theorem Tree.SpellsElements.elementsFrom {first : Bool} {es : List Tree} {text : List Char}
    (h : Tree.SpellsElements first es text) : ∀ {limit : Nat} {rest : List Char},
      (text ++ rest).length < limit →
        Json.elementsFrom Json.readTree limit first (text ++ rest) = .ok (es, rest) := by
  intro limit rest hlimit
  obtain ⟨limit, rfl⟩ := Nat.exists_eq_succ_of_ne_zero (Nat.ne_of_gt (Nat.zero_lt_of_lt hlimit))
  cases h with
  | close hgap =>
    rw [Json.elementsFrom, List.append_assoc, List.singleton_append, nextElement_close _ _ hgap]
    simp only [bind, Except.bind, closeSequence_append _ hgap]
    rfl
  | @element _ e es gap text more hgap htext hmore =>
    obtain ⟨c, cs, hcs, hc, hclose⟩ := htext.head
    have hread := htext.readTree isBlank_nil (hmore.endsNumber rest)
    have hnext : nextElement first (gap ++ (text ++ (more ++ rest))) =
        .ok (some (text ++ (more ++ rest))) := by
      rw [hcs]
      exact nextElement_gap hgap hc hclose
    have hlength : (more ++ rest).length < limit := by
      simp only [hcs, List.length_append, List.length_cons] at hlimit ⊢
      omega
    rw [List.nil_append] at hread
    rw [Json.elementsFrom, List.append_assoc, List.append_assoc, hnext]
    simp only [bind, Except.bind, hread, hmore.elementsFrom hlength]
    rfl

theorem Tree.SpellsMembers.treeMembersFrom {first : Bool} {ms : List (Option String × Tree)}
    {text : List Char} (h : Tree.SpellsMembers first ms text) :
    ∀ {limit : Nat} {rest : List Char}, (text ++ rest).length < limit →
      Json.treeMembersFrom Json.readTree limit first (text ++ rest) = .ok (ms, rest) := by
  intro limit rest hlimit
  obtain ⟨limit, rfl⟩ := Nat.exists_eq_succ_of_ne_zero (Nat.ne_of_gt (Nat.zero_lt_of_lt hlimit))
  cases h with
  | close hgap =>
    rw [Json.treeMembersFrom, List.append_assoc, List.singleton_append, nextKey_close _ _ hgap]
    rfl
  | @member _ T ms gap body before after text more hgap hbody hbefore hafter htext hmore =>
    have hread := htext.readTree hafter (hmore.endsNumber rest)
    have hlength : (more ++ rest).length < limit := by
      simp only [List.length_append, List.length_cons] at hlimit ⊢
      omega
    simp only [List.append_assoc, List.cons_append]
    rw [Json.treeMembersFrom, nextKey_gap hgap]
    simp only [bind, Except.bind, if_true, hbody.skipString, takeColon_gap hbefore, hread,
      hmore.treeMembersFrom hlength, hbody.keyRead_append]
    rfl

end

/-- **The texts of a tree** are those that are read into it. -/
theorem Tree.spellsText_iff {T : Tree} {text : String} :
    T.SpellsText text ↔ readText readTree text = .ok T := by
  constructor
  · rintro ⟨before, chars, after, hbefore, hchars, hafter, htext⟩
    have hend : skipSpace after = [] := by
      rw [← List.append_nil after, skipSpace_blank hafter]
      rfl
    have hends : EndsNumber after := by
      rw [← List.append_nil after]
      exact endsNumber_blank hafter endsNumber_nil
    rw [readText, htext, hchars.readTree hbefore hends]
    exact if_pos hend
  · intro h
    obtain ⟨⟨T', after⟩, hread, hend⟩ := bind_eq_ok_iff.1 h
    dsimp only at hend
    split at hend
    · rename_i hblank
      cases hend
      obtain ⟨before, chars, hbefore, hchars, htext⟩ := onlySpelled_readTree _ _ _ hread
      obtain ⟨gap, hgap, hafter⟩ := exists_gap_skipSpace after
      rw [hblank, List.append_nil] at hafter
      exact ⟨before, chars, after, hbefore, hchars, hafter ▸ hgap, htext⟩
    · cases hend

end SpriteScene.Json
