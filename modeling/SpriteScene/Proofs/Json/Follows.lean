/-
  Readers that follow the trees of what they read.

  `Follows through read P`: `read` gives an `a` exactly where `through` gives a `b` with
  `P b a`, and leaves the same rest of the text.  With `readTree` as the one that is
  followed this says what a reader makes of a value, whatever the text of the value is.

  * `follows_string`, `follows_unsigned`, `follows_optional` and `follows_readSequence` are
    about the values of fields;
  * `follows_members`: members are gone through in order, from state to state;
  * `Follows.readText_eq_ok_iff`: what a text is read as, its tree is read as.
-/
import Mathlib.Data.List.DropRight
import SpriteScene.Proofs.Json.Tree
import SpriteScene.Proofs.Json.Yields

namespace SpriteScene.Json

/-- A reader gives a value exactly where another one gives something that stands for it. -/
def Follows (through : Reader β) (read : Reader α) (P : β → α → Prop) : Prop :=
  ∀ cs a rest, read cs = .ok (a, rest) ↔ ∃ b, through cs = .ok (b, rest) ∧ P b a

theorem Follows.congr {through : Reader β} {read : Reader α} {P Q : β → α → Prop}
    (h : Follows through read P) (hPQ : ∀ b a, P b a ↔ Q b a) : Follows through read Q := by
  intro cs a rest
  rw [h cs a rest]
  exact exists_congr fun b => and_congr_right fun _ => hPQ b a

theorem follows_error {through : Reader β} {fault : List Char → Fault} {P : β → α → Prop}
    (h : ∀ b a, ¬ P b a) : Follows through (fun cs => .error (fault cs)) P := by
  intro cs a rest
  refine iff_of_false (fun heq => by cases heq) ?_
  rintro ⟨b, -, hP⟩
  exact h b a hP

/-- What is made of a value that was read. -/
theorem Follows.map {through : Reader β} {read : Reader α} {P : β → α → Prop}
    (h : Follows through read P) (g : α → γ) :
    Follows through (fun cs => (read cs).map fun (a, cs) => (g a, cs))
      fun b c => ∃ a, P b a ∧ c = g a := by
  intro cs c rest
  constructor
  · intro hc
    obtain ⟨⟨a, _⟩, ha, heq⟩ := map_eq_ok_iff.1 hc
    obtain ⟨rfl, rfl⟩ := Prod.mk.inj heq
    obtain ⟨b, hb, hP⟩ := (h _ _ _).1 ha
    exact ⟨b, hb, a, hP, rfl⟩
  · rintro ⟨b, hb, a, hP, rfl⟩
    exact map_eq_ok_iff.2 ⟨_, (h _ _ _).2 ⟨b, hb, hP⟩, rfl⟩

theorem follows_atValue {through : Char → Reader β} {read : Char → Reader α} {P : β → α → Prop}
    (h : ∀ c, Follows (through c) (read c) P) : Follows (atValue through) (atValue read) P := by
  intro cs a rest
  rw [atValue, atValue]
  split
  · refine iff_of_false (fun heq => by cases heq) ?_
    rintro ⟨_, hb, -⟩
    cases hb
  · exact h _ _ _ _

/-- A value by its first character. -/
theorem follows_treeAt {tree : Reader Tree} {c : Char} {read : Reader α} {P : Tree → α → Prop}
    (hsequence : c = '[' → Follows (elements tree) read fun es => P (.sequence es))
    (hmap : c = '\x7b' →
      Follows (fun cs => treeMembersFrom tree (cs.length + 1) true cs) read fun ms => P (.map ms))
    (hscalar : c ≠ '[' → c ≠ '\x7b' → Follows (scalarAt c) read fun found => P (.scalar found)) :
    Follows (treeAt tree c) read P := by
  intro cs a rest
  rw [treeAt]
  split
  · rename_i hc
    rw [hsequence hc cs a rest]
    constructor
    · rintro ⟨es, hes, hP⟩
      exact ⟨_, map_eq_ok_iff.2 ⟨_, hes, rfl⟩, hP⟩
    · rintro ⟨T, hT, hP⟩
      obtain ⟨⟨es, _⟩, hes, heq⟩ := map_eq_ok_iff.1 hT
      obtain ⟨rfl, rfl⟩ := Prod.mk.inj heq
      exact ⟨es, hes, hP⟩
  split
  · rename_i hc
    rw [hmap hc cs a rest]
    constructor
    · rintro ⟨ms, hms, hP⟩
      exact ⟨_, map_eq_ok_iff.2 ⟨_, hms, rfl⟩, hP⟩
    · rintro ⟨T, hT, hP⟩
      obtain ⟨⟨ms, _⟩, hms, heq⟩ := map_eq_ok_iff.1 hT
      obtain ⟨rfl, rfl⟩ := Prod.mk.inj heq
      exact ⟨ms, hms, hP⟩
  · rename_i hsequence' hmap'
    rw [hscalar hsequence' hmap' cs a rest]
    constructor
    · rintro ⟨found, hfound, hP⟩
      exact ⟨_, map_eq_ok_iff.2 ⟨_, hfound, rfl⟩, hP⟩
    · rintro ⟨T, hT, hP⟩
      obtain ⟨⟨found, _⟩, hfound, heq⟩ := map_eq_ok_iff.1 hT
      obtain ⟨rfl, rfl⟩ := Prod.mk.inj heq
      exact ⟨found, hfound, hP⟩

theorem follows_readTree {read : Char → Reader α} {P : Tree → α → Prop}
    (h : ∀ c, Follows (treeAt readTree c) (read c) P) : Follows readTree (atValue read) P := by
  intro cs a rest
  rw [readTree_eq]
  exact follows_atValue h cs a rest

/-! ## Scalars -/

/-- A scalar that is read as something with a property. -/
def IsScalarOf (P : Found → α → Prop) (T : Tree) (a : α) : Prop :=
  ∃ found, T = .scalar (some found) ∧ P found a

/-- A string. -/
abbrev IsString : Tree → String → Prop := IsScalarOf fun found s => found = .string s

/-- An unsigned integer. -/
abbrev IsUnsigned : Tree → UInt64 → Prop :=
  IsScalarOf fun found n => ∃ k : Nat, found = .number (.whole k) ∧ n = .ofNat k

/-- `null`. -/
def Tree.null : Tree := .scalar (some .null)

theorem follows_takeScalar (c : Char) :
    Follows (scalarAt c) (takeScalar c) fun read found => read = some found := by
  intro cs found rest
  rw [takeScalar_eq_ok_iff]
  constructor
  · rintro ⟨hskip, hread⟩
    exact ⟨_, map_eq_ok_iff.2 ⟨_, hskip, rfl⟩, hread⟩
  · rintro ⟨_, hscalar, hread⟩
    obtain ⟨_, hskip, heq⟩ := map_eq_ok_iff.1 hscalar
    obtain ⟨rfl, rfl⟩ := Prod.mk.inj heq
    exact ⟨hskip, hread⟩

/-- A reader that follows what scalars are read as follows trees that are scalars. -/
theorem Follows.treeAt {tree : Reader Tree} {c : Char} {read : Reader α} {P : Found → α → Prop}
    (h : Follows (takeScalar c) read P) : Follows (treeAt tree c) read (IsScalarOf P) := by
  refine follows_treeAt ?_ ?_ fun _ _ cs a rest => ?_
  · rintro rfl cs a rest
    rw [h cs a rest]
    refine iff_of_false ?_ ?_
    · rintro ⟨_, hfound, -⟩
      cases hfound
    · rintro ⟨_, _, _, hT, -⟩
      cases hT
  · rintro rfl cs a rest
    rw [h cs a rest]
    refine iff_of_false ?_ ?_
    · rintro ⟨_, hfound, -⟩
      cases hfound
    · rintro ⟨_, _, _, hT, -⟩
      cases hT
  · rw [h cs a rest]
    constructor
    · rintro ⟨found, hfound, hP⟩
      obtain ⟨_, hscalar, rfl⟩ := (follows_takeScalar c _ _ _).1 hfound
      exact ⟨_, hscalar, found, rfl, hP⟩
    · rintro ⟨_, hscalar, found, hT, hP⟩
      exact ⟨found, (follows_takeScalar c _ _ _).2 ⟨_, hscalar, Tree.scalar.inj hT⟩, hP⟩

/-- How the text of a scalar begins. -/
def Found.BeginsWith (c : Char) : Found → Prop
  | .null => c = 'n'
  | .bool _ => c = 't' ∨ c = 'f'
  | .number _ => c = '-' ∨ c.isDigit
  | .string _ => c = '"'
  | .sequence | .map => False

theorem beginsWith_of_takeScalar {c : Char} {cs rest : List Char} {found : Found}
    (h : takeScalar c cs = .ok (found, rest)) : found.BeginsWith c := by
  rw [takeScalar] at h
  split_ifs at h with hnull htrue hfalse hminus hdigit hquote
  · refine of_map_eq_ok (P := Found.BeginsWith c) ?_ h
    exact fun _ => hnull
  · refine of_map_eq_ok (P := Found.BeginsWith c) ?_ h
    exact fun _ => Or.inl htrue
  · refine of_map_eq_ok (P := Found.BeginsWith c) ?_ h
    exact fun _ => Or.inr hfalse
  · refine of_map_eq_ok (P := Found.BeginsWith c) ?_ h
    exact fun _ => Or.inl hminus
  · refine of_map_eq_ok (P := Found.BeginsWith c) ?_ h
    exact fun _ => Or.inr hdigit
  · refine of_map_eq_ok (P := Found.BeginsWith c) ?_ h
    exact fun _ => hquote

theorem follows_string (wanted : String) : Follows readTree (readString wanted) IsString := by
  refine follows_readTree fun c => Follows.treeAt fun cs s rest => ?_
  split
  · rename_i hc
    subst hc
    have hquote : takeScalar '"' cs = (takeString cs).map fun read => (.string read.1, read.2) :=
      rfl
    rw [hquote]
    constructor
    · intro hs
      exact ⟨_, map_eq_ok_iff.2 ⟨_, hs, rfl⟩, rfl⟩
    · rintro ⟨_, hfound, rfl⟩
      obtain ⟨⟨s', _⟩, hs, heq⟩ := map_eq_ok_iff.1 hfound
      obtain ⟨heq, rfl⟩ := Prod.mk.inj heq
      cases heq
      exact hs
  · rename_i hc
    refine iff_of_false (fun heq => by cases heq) ?_
    rintro ⟨_, hfound, rfl⟩
    exact absurd (beginsWith_of_takeScalar hfound) hc

theorem follows_unsigned : Follows readTree readUnsigned IsUnsigned := by
  refine follows_readTree fun c => Follows.treeAt fun cs n rest => ?_
  split
  · constructor
    · intro hn
      obtain ⟨⟨found, _⟩, hfound, hvalue⟩ := bind_eq_ok_iff.1 hn
      dsimp only at hvalue
      split at hvalue
      · obtain ⟨rfl, rfl⟩ := Prod.mk.inj (Except.ok.inj hvalue)
        exact ⟨_, hfound, _, rfl, rfl⟩
      · cases hvalue
      · cases hvalue
    · rintro ⟨_, hfound, k, rfl, rfl⟩
      exact bind_eq_ok_iff.2 ⟨_, hfound, rfl⟩
  · rename_i hc
    refine iff_of_false (fun heq => by cases heq) ?_
    rintro ⟨_, hfound, k, rfl, -⟩
    exact absurd (beginsWith_of_takeScalar hfound) hc

/-- `null`, or another value that is something. -/
def IsOptional (P : Tree → α → Prop) (T : Tree) : Option α → Prop
  | none => T = .null
  | some a => T ≠ .null ∧ P T a

theorem readTree_skipSpace (cs : List Char) : readTree (skipSpace cs) = readTree cs := by
  have hspace : skipSpace (skipSpace cs) = skipSpace cs := List.dropWhile_idempotent isSpace cs
  rw [readTree_eq, readTree_eq, atValue, atValue, hspace]

/-- What begins with an `n` is nothing but `null`. -/
theorem readTree_eq_ok_iff_of_n {cs more rest : List Char} {T : Tree}
    (h : skipSpace cs = 'n' :: more) :
    readTree cs = .ok (T, rest) ↔ takeWord "ull".toList more = .ok rest ∧ T = .null := by
  have hat : readTree cs = treeScalar 'n' more := by
    rw [readTree_eq, atValue, h]
    rfl
  have hnull (hword : takeWord "ull".toList more = .ok rest) :
      treeScalar 'n' more = .ok (.null, rest) := by
    have htake : takeScalar 'n' more = .ok (.null, rest) := by
      rw [takeScalar, if_pos rfl, hword]
      rfl
    obtain ⟨_, hscalar, rfl⟩ := (follows_takeScalar 'n' _ _ _).1 htake
    exact map_eq_ok_iff.2 ⟨_, hscalar, rfl⟩
  rw [hat]
  constructor
  · intro hT
    obtain ⟨⟨found, _⟩, hfound, heq⟩ := map_eq_ok_iff.1 hT
    obtain ⟨_, hword, heq'⟩ := map_eq_ok_iff.1 hfound
    obtain ⟨-, rfl⟩ := Prod.mk.inj heq
    obtain ⟨-, rfl⟩ := Prod.mk.inj heq'
    rw [hnull hword] at hT
    exact ⟨hword, (Prod.mk.inj (Except.ok.inj hT)).1.symm⟩
  · rintro ⟨hword, rfl⟩
    exact hnull hword

/-- Only what begins with an `n` is `null`. -/
theorem ne_null_of_readTree {cs rest : List Char} {T : Tree} (h : readTree cs = .ok (T, rest))
    (hn : ∀ more, skipSpace cs ≠ 'n' :: more) : T ≠ .null := by
  rintro rfl
  rw [readTree_eq, atValue] at h
  split at h
  · cases h
  · rename_i c more hspace
    have hself : Follows (takeScalar c) (takeScalar c) Eq := fun cs found rest => by simp
    have htake := (hself.treeAt more .null rest).2 ⟨_, h, .null, rfl, rfl⟩
    exact hn more (by rw [hspace, beginsWith_of_takeScalar htake])

theorem follows_optional {read : Reader α} {P : Tree → α → Prop} (h : Follows readTree read P) :
    Follows readTree (readOptional read) (IsOptional P) := by
  intro cs a rest
  rw [readOptional]
  split
  · rename_i more hspace
    constructor
    · intro ha
      obtain ⟨_, hword, heq⟩ := map_eq_ok_iff.1 ha
      obtain ⟨rfl, rfl⟩ := Prod.mk.inj heq
      exact ⟨.null, (readTree_eq_ok_iff_of_n hspace).2 ⟨hword, rfl⟩, rfl⟩
    · rintro ⟨T, hT, hP⟩
      obtain ⟨hword, rfl⟩ := (readTree_eq_ok_iff_of_n hspace).1 hT
      cases a with
      | none => exact map_eq_ok_iff.2 ⟨_, hword, rfl⟩
      | some a => exact absurd rfl hP.1
  · rename_i hhead
    constructor
    · intro ha
      obtain ⟨⟨a', _⟩, ha', heq⟩ := map_eq_ok_iff.1 ha
      obtain ⟨rfl, rfl⟩ := Prod.mk.inj heq
      obtain ⟨T, hT, hP⟩ := (h _ _ _).1 ha'
      rw [readTree_skipSpace] at hT
      exact ⟨T, hT, ne_null_of_readTree hT hhead, hP⟩
    · rintro ⟨T, hT, hP⟩
      cases a with
      | none => exact absurd hP (ne_null_of_readTree hT hhead)
      | some a =>
        rw [← readTree_skipSpace] at hT
        exact map_eq_ok_iff.2 ⟨_, (h _ _ _).2 ⟨T, hT, hP.2⟩, rfl⟩

/-! ## Sequences -/

theorem elementsFrom_succ_eq_ok_iff {read : Reader α} {limit : Nat} {first : Bool}
    {cs rest : List Char} {as : List α} :
    elementsFrom read (limit + 1) first cs = .ok (as, rest) ↔
      (nextElement first cs = .ok none ∧ closeSequence cs = .ok rest ∧ as = []) ∨
        ∃ more a behind as', nextElement first cs = .ok (some more) ∧
          read more = .ok (a, behind) ∧
          elementsFrom read limit false behind = .ok (as', rest) ∧ as = a :: as' := by
  rw [elementsFrom]
  constructor
  · intro h
    obtain ⟨next, hnext, hread⟩ := bind_eq_ok_iff.1 h
    cases next with
    | none =>
      obtain ⟨_, hclose, heq⟩ := bind_eq_ok_iff.1 hread
      obtain ⟨rfl, rfl⟩ := Prod.mk.inj (Except.ok.inj heq)
      exact Or.inl ⟨hnext, hclose, rfl⟩
    | some more =>
      obtain ⟨⟨a, behind⟩, ha, hmore⟩ := bind_eq_ok_iff.1 hread
      obtain ⟨⟨as', _⟩, has', heq⟩ := bind_eq_ok_iff.1 hmore
      obtain ⟨rfl, rfl⟩ := Prod.mk.inj (Except.ok.inj heq)
      exact Or.inr ⟨more, a, behind, as', hnext, ha, has', rfl⟩
  · rintro (⟨hnext, hclose, rfl⟩ | ⟨more, a, behind, as', hnext, ha, has', rfl⟩)
    · exact bind_eq_ok_iff.2 ⟨_, hnext, bind_eq_ok_iff.2 ⟨_, hclose, rfl⟩⟩
    · exact bind_eq_ok_iff.2
        ⟨_, hnext, bind_eq_ok_iff.2 ⟨_, ha, bind_eq_ok_iff.2 ⟨_, has', rfl⟩⟩⟩

theorem follows_elementsFrom {through : Reader β} {read : Reader α} {P : β → α → Prop}
    (h : Follows through read P) (limit : Nat) (first : Bool) :
    Follows (elementsFrom through limit first) (elementsFrom read limit first)
      (List.Forall₂ P) := by
  induction limit generalizing first with
  | zero =>
    intro cs as rest
    refine iff_of_false (fun heq => by cases heq) ?_
    rintro ⟨_, hbs, -⟩
    cases hbs
  | succ limit ih =>
    intro cs as rest
    rw [elementsFrom_succ_eq_ok_iff]
    constructor
    · rintro (⟨hnext, hclose, rfl⟩ | ⟨more, a, behind, as', hnext, ha, has', rfl⟩)
      · exact ⟨[], elementsFrom_succ_eq_ok_iff.2 (Or.inl ⟨hnext, hclose, rfl⟩), .nil⟩
      · obtain ⟨b, hb, hP⟩ := (h _ _ _).1 ha
        obtain ⟨bs, hbs, hPs⟩ := (ih _ _ _ _).1 has'
        exact ⟨b :: bs, elementsFrom_succ_eq_ok_iff.2
          (Or.inr ⟨more, b, behind, bs, hnext, hb, hbs, rfl⟩), .cons hP hPs⟩
    · rintro ⟨bs, hbs, hPs⟩
      rcases elementsFrom_succ_eq_ok_iff.1 hbs with
        ⟨hnext, hclose, rfl⟩ | ⟨more, b, behind, bs', hnext, hb, hbs', rfl⟩
      · cases hPs
        exact Or.inl ⟨hnext, hclose, rfl⟩
      · cases hPs with
        | cons hP hPs =>
          exact Or.inr ⟨more, _, behind, _, hnext, (h _ _ _).2 ⟨b, hb, hP⟩,
            (ih _ _ _ _).2 ⟨bs', hbs', hPs⟩, rfl⟩

theorem follows_elements {through : Reader β} {read : Reader α} {P : β → α → Prop}
    (h : Follows through read P) : Follows (elements through) (elements read) (List.Forall₂ P) :=
  fun cs => follows_elementsFrom h (cs.length + 1) true cs

/-- A sequence of values. -/
def IsSequence (P : Tree → α → Prop) : Tree → List α → Prop
  | .sequence es, as => List.Forall₂ P es as
  | _, _ => False

theorem follows_readSequence {read : Reader α} {P : Tree → α → Prop} (h : Follows readTree read P) :
    Follows readTree (readSequence read) (IsSequence P) := by
  refine follows_readTree fun c => follows_treeAt ?_ ?_ fun hsequence _ => ?_
  · rintro rfl
    exact follows_elements h
  · rintro rfl
    exact follows_error fun _ _ => id
  · simp only [if_neg hsequence]
    exact follows_error fun _ _ => id

/-! ## Members -/

theorem membersFrom_succ_eq_ok_iff {member : σ → String → Member σ} {limit : Nat} {first : Bool}
    {st st' : σ} {cs rest : List Char} :
    membersFrom member (limit + 1) first st cs = .ok (st', rest) ↔
      (nextKey first cs = .ok (false, rest) ∧ st' = st) ∨
        ∃ more key colon value read next behind, nextKey first cs = .ok (true, more) ∧
          takeString more = .ok (key, colon) ∧ member st key = .value read ∧
          takeColon colon = .ok value ∧ read value = .ok (next, behind) ∧
          membersFrom member limit false next behind = .ok (st', rest) := by
  rw [membersFrom]
  constructor
  · intro h
    obtain ⟨⟨more, cs'⟩, hnext, hread⟩ := bind_eq_ok_iff.1 h
    cases more with
    | false =>
      obtain ⟨rfl, rfl⟩ := Prod.mk.inj (Except.ok.inj hread)
      exact Or.inl ⟨hnext, rfl⟩
    | true =>
      obtain ⟨⟨key, colon⟩, hkey, hmember⟩ := bind_eq_ok_iff.1 hread
      dsimp only at hmember
      split at hmember
      · cases hmember
      · rename_i read hread'
        obtain ⟨value, hcolon, hvalue⟩ := bind_eq_ok_iff.1 hmember
        obtain ⟨⟨next, behind⟩, hnext', hmore⟩ := bind_eq_ok_iff.1 hvalue
        exact Or.inr
          ⟨_, key, colon, value, read, next, behind, hnext, hkey, hread', hcolon, hnext', hmore⟩
  · rintro (⟨hnext, rfl⟩ |
      ⟨more, key, colon, value, read, next, behind, hnext, hkey, hread, hcolon, hvalue, hmore⟩)
    · exact bind_eq_ok_iff.2 ⟨_, hnext, rfl⟩
    · refine bind_eq_ok_iff.2 ⟨_, hnext, bind_eq_ok_iff.2 ⟨_, hkey, ?_⟩⟩
      dsimp only
      rw [hread]
      exact bind_eq_ok_iff.2 ⟨_, hcolon, bind_eq_ok_iff.2 ⟨_, hvalue, hmore⟩⟩

theorem treeMembersFrom_succ_eq_ok_iff {read : Reader Tree} {limit : Nat} {first : Bool}
    {cs rest : List Char} {ms : List (Option String × Tree)} :
    treeMembersFrom read (limit + 1) first cs = .ok (ms, rest) ↔
      (nextKey first cs = .ok (false, rest) ∧ ms = []) ∨
        ∃ more colon value T behind ms', nextKey first cs = .ok (true, more) ∧
          skipString more = .ok colon ∧ takeColon colon = .ok value ∧
          read value = .ok (T, behind) ∧
          treeMembersFrom read limit false behind = .ok (ms', rest) ∧
          ms = (keyRead more, T) :: ms' := by
  rw [treeMembersFrom]
  constructor
  · intro h
    obtain ⟨⟨more, cs'⟩, hnext, hread⟩ := bind_eq_ok_iff.1 h
    cases more with
    | false =>
      obtain ⟨rfl, rfl⟩ := Prod.mk.inj (Except.ok.inj hread)
      exact Or.inl ⟨hnext, rfl⟩
    | true =>
      obtain ⟨colon, hkey, hcolon⟩ := bind_eq_ok_iff.1 hread
      obtain ⟨value, hcolon', hvalue⟩ := bind_eq_ok_iff.1 hcolon
      obtain ⟨⟨T, behind⟩, hT, hmore⟩ := bind_eq_ok_iff.1 hvalue
      obtain ⟨⟨ms', _⟩, hms', heq⟩ := bind_eq_ok_iff.1 hmore
      obtain ⟨rfl, rfl⟩ := Prod.mk.inj (Except.ok.inj heq)
      exact Or.inr ⟨_, colon, value, T, behind, ms', hnext, hkey, hcolon', hT, hms', rfl⟩
  · rintro (⟨hnext, rfl⟩ | ⟨more, colon, value, T, behind, ms', hnext, hkey, hcolon, hT, hms', rfl⟩)
    · exact bind_eq_ok_iff.2 ⟨_, hnext, rfl⟩
    · exact bind_eq_ok_iff.2 ⟨_, hnext, bind_eq_ok_iff.2 ⟨_, hkey, bind_eq_ok_iff.2 ⟨_, hcolon,
        bind_eq_ok_iff.2 ⟨_, hT, bind_eq_ok_iff.2 ⟨_, hms', rfl⟩⟩⟩⟩⟩

/-- Members gone through in order, from state to state. -/
inductive Run (Step : σ → String → Tree → σ → Prop) :
    σ → List (Option String × Tree) → σ → Prop
  | nil {st : σ} : Run Step st [] st
  | cons {st next st' : σ} {key : String} {T : Tree} {ms : List (Option String × Tree)} :
      Step st key T next → Run Step next ms st' → Run Step st ((some key, T) :: ms) st'

theorem run_nil_iff {Step : σ → String → Tree → σ → Prop} {st st' : σ} :
    Run Step st [] st' ↔ st' = st := by
  constructor
  · rintro ⟨⟩
    rfl
  · rintro rfl
    exact .nil

theorem run_cons_iff {Step : σ → String → Tree → σ → Prop} {st st' : σ} {key : String} {T : Tree}
    {ms : List (Option String × Tree)} :
    Run Step st ((some key, T) :: ms) st' ↔ ∃ next, Step st key T next ∧ Run Step next ms st' := by
  constructor
  · rintro (_ | ⟨hstep, hrun⟩)
    exact ⟨_, hstep, hrun⟩
  · rintro ⟨next, hstep, hrun⟩
    exact .cons hstep hrun

/-- **What members do together** is told by what no members do and what a first one does. -/
theorem run_iff {Step : σ → String → Tree → σ → Prop}
    {After : σ → List (Option String × Tree) → σ → Prop}
    (nil : ∀ st st', After st [] st' ↔ st' = st)
    (cons : ∀ st key T ms st', After st ((some key, T) :: ms) st' ↔
      ∃ next, Step st key T next ∧ After next ms st')
    {st st' : σ} {ms : List (Option String × Tree)} :
    Run Step st ms st' ↔ (∀ m ∈ ms, m.1.isSome) ∧ After st ms st' := by
  induction ms generalizing st with
  | nil => rw [run_nil_iff, nil, and_iff_right (List.forall_mem_nil _)]
  | cons m ms ih =>
    obtain ⟨_ | key, T⟩ := m
    · refine iff_of_false (fun hrun => by cases hrun) ?_
      rintro ⟨hkeys, -⟩
      exact absurd (hkeys _ List.mem_cons_self) Bool.false_ne_true
    simp only [run_cons_iff, cons, ih, List.forall_mem_cons]
    constructor
    · rintro ⟨next, hstep, hkeys, hafter⟩
      exact ⟨⟨rfl, hkeys⟩, next, hstep, hafter⟩
    · rintro ⟨⟨-, hkeys⟩, next, hstep, hafter⟩
      exact ⟨next, hstep, hkeys, hafter⟩

/-- What a key means is what its value does to the state. -/
structure FollowsMembers (tree : Reader Tree) (member : σ → String → Member σ)
    (Step : σ → String → Tree → σ → Prop) : Prop where
  value : ∀ {st key read}, member st key = .value read → Follows tree read (Step st key)
  repeated : ∀ {st key}, member st key = .repeated → ∀ T st', ¬ Step st key T st'

theorem follows_membersFrom {tree : Reader Tree} {member : σ → String → Member σ}
    {Step : σ → String → Tree → σ → Prop} (h : FollowsMembers tree member Step) (limit : Nat)
    (first : Bool) (st : σ) :
    Follows (treeMembersFrom tree limit first) (membersFrom member limit first st)
      (Run Step st) := by
  induction limit generalizing first st with
  | zero =>
    intro cs st' rest
    refine iff_of_false (fun heq => by cases heq) ?_
    rintro ⟨_, hms, -⟩
    cases hms
  | succ limit ih =>
    intro cs st' rest
    rw [membersFrom_succ_eq_ok_iff]
    constructor
    · rintro (⟨hnext, rfl⟩ |
        ⟨more, key, colon, value, read, next, behind, hnext, hkey, hread, hcolon, hvalue, hmore⟩)
      · exact ⟨[], treeMembersFrom_succ_eq_ok_iff.2 (Or.inl ⟨hnext, rfl⟩), .nil⟩
      · obtain ⟨hskip, hkey⟩ := takeString_eq_ok_iff.1 hkey
        obtain ⟨T, hT, hstep⟩ := (h.value hread _ _ _).1 hvalue
        obtain ⟨ms, hms, hrun⟩ := (ih _ _ _ _ _).1 hmore
        refine ⟨_, treeMembersFrom_succ_eq_ok_iff.2
          (Or.inr ⟨more, colon, value, T, behind, ms, hnext, hskip, hcolon, hT, hms, rfl⟩), ?_⟩
        rw [hkey]
        exact .cons hstep hrun
    · rintro ⟨_, hms, hrun⟩
      rcases treeMembersFrom_succ_eq_ok_iff.1 hms with ⟨hnext, rfl⟩ |
        ⟨more, colon, value, T, behind, ms, hnext, hskip, hcolon, hT, hms', rfl⟩
      · cases hrun
        exact Or.inl ⟨hnext, rfl⟩
      · generalize hkey : keyRead more = read at hrun
        cases hrun with
        | @cons _ next _ key _ _ hstep hrun =>
          have hstring := takeString_eq_ok_iff.2 ⟨hskip, hkey⟩
          cases hmember : member st key with
          | repeated => exact absurd hstep (h.repeated hmember T next)
          | value read =>
            exact Or.inr ⟨more, key, colon, value, read, next, behind, hnext, hstring, hmember,
              hcolon, (h.value hmember _ _ _).2 ⟨T, hT, hstep⟩, (ih _ _ _ _ _).2 ⟨ms, hms', hrun⟩⟩

/-- **Members are gone through in order**, from state to state. -/
theorem follows_members {tree : Reader Tree} {member : σ → String → Member σ}
    {Step : σ → String → Tree → σ → Prop} (h : FollowsMembers tree member Step) (st : σ) :
    Follows (fun cs => treeMembersFrom tree (cs.length + 1) true cs) (members member st)
      (Run Step st) :=
  fun cs => follows_membersFrom h (cs.length + 1) true st cs

/-! ## Whole texts -/

/-- **What a text is read as**, its tree is read as. -/
theorem Follows.readText_eq_ok_iff {read : Reader α} {P : Tree → α → Prop}
    (h : Follows readTree read P) {text : String} {a : α} :
    readText read text = .ok a ↔ ∃ T, Tree.SpellsText T text ∧ P T a := by
  simp only [Tree.spellsText_iff, readText, bind_eq_ok_iff, Prod.exists]
  constructor
  · rintro ⟨a', rest, hread, hend⟩
    obtain ⟨T, hT, hP⟩ := (h _ _ _).1 hread
    split at hend
    · rename_i hblank
      cases hend
      exact ⟨T, ⟨T, rest, hT, if_pos hblank⟩, hP⟩
    · cases hend
  · rintro ⟨T, ⟨T', rest, hT, hend⟩, hP⟩
    split at hend
    · rename_i hblank
      cases hend
      exact ⟨a, rest, (h _ _ _).2 ⟨T, hT, hP⟩, if_pos hblank⟩
    · cases hend

end SpriteScene.Json
