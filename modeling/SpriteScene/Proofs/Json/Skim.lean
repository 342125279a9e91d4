/-
  Values whose content does not matter.

  * `follows_skimValue`: a value is read in full where its strings and numbers can be
    read and its containers do not nest too deep (`Tree.IsReadable`);
  * `follows_skipValue`: any value is gone over.
-/
import SpriteScene.Proofs.Json.Follows

namespace SpriteScene.Json

/-! ## Reading in full -/

/-- A value that can be read in full: its strings and numbers can be read, and it holds
    at most `depth` containers in one another. -/
inductive Tree.IsReadable : (depth : Nat) → Tree → Prop
  | scalar {depth : Nat} {found : Found} : IsReadable depth (.scalar (some found))
  | sequence {depth : Nat} {es : List Tree} :
      (∀ e ∈ es, IsReadable depth e) → IsReadable (depth + 1) (.sequence es)
  | map {depth : Nat} {ms : List (Option String × Tree)} :
      (∀ m ∈ ms, m.1.isSome) → (∀ m ∈ ms, IsReadable depth m.2) → IsReadable (depth + 1) (.map ms)

/-- What a value is, if it can be read. -/
def Tree.found : Tree → Option Found
  | .scalar found => found
  | .sequence _ => some .sequence
  | .map _ => some .map

theorem Tree.IsReadable.exists_found {depth : Nat} {T : Tree} (h : T.IsReadable depth) :
    ∃ found, T.found = some found := by
  cases h <;> exact ⟨_, rfl⟩

theorem exists_forall₂_found_iff {depth : Nat} {es : List Tree} :
    (∃ fs, List.Forall₂ (fun T found => T.IsReadable depth ∧ T.found = some found) es fs) ↔
      ∀ e ∈ es, e.IsReadable depth := by
  constructor
  · rintro ⟨fs, h⟩
    induction h with
    | nil => exact List.forall_mem_nil _
    | cons he _ ih => exact List.forall_mem_cons.2 ⟨he.1, ih⟩
  · intro h
    induction es with
    | nil => exact ⟨[], .nil⟩
    | cons e es ih =>
      obtain ⟨he, hes⟩ := List.forall_mem_cons.1 h
      obtain ⟨found, hfound⟩ := he.exists_found
      obtain ⟨fs, hfs⟩ := ih hes
      exact ⟨found :: fs, .cons ⟨he, hfound⟩ hfs⟩

theorem run_readable_iff {depth : Nat} {ms : List (Option String × Tree)} :
    Run (fun (_ : Unit) _ T _ => T.IsReadable depth) () ms () ↔
      (∀ m ∈ ms, m.1.isSome) ∧ ∀ m ∈ ms, m.2.IsReadable depth := by
  induction ms with
  | nil => exact iff_of_true .nil ⟨List.forall_mem_nil _, List.forall_mem_nil _⟩
  | cons m ms ih =>
    rw [List.forall_mem_cons, List.forall_mem_cons]
    constructor
    · rintro (_ | ⟨hT, hrun⟩)
      obtain ⟨hkeys, hvalues⟩ := ih.1 hrun
      exact ⟨⟨rfl, hkeys⟩, hT, hvalues⟩
    · rintro ⟨⟨hkey, hkeys⟩, hT, hvalues⟩
      obtain ⟨key, T⟩ := m
      obtain ⟨key, rfl⟩ := Option.isSome_iff_exists.1 hkey
      exact .cons hT (ih.2 ⟨hkeys, hvalues⟩)

theorem follows_skimScalar (c : Char) (depth : Nat) : Follows (scalarAt c) (takeScalar c)
    fun read found =>
      (Tree.scalar read).IsReadable depth ∧ (Tree.scalar read).found = some found := by
  refine (follows_takeScalar c).congr fun read found => ⟨?_, And.right⟩
  rintro rfl
  exact ⟨.scalar, rfl⟩

/-- The members of a map that is read in full, whatever they are. -/
theorem followsMembers_skim {depth : Nat} (h : Follows readTree (skimValue depth)
      fun T found => T.IsReadable depth ∧ T.found = some found) :
    FollowsMembers readTree
      (fun (_ : Unit) _ => .value fun cs => (skimValue depth cs).map fun read => ((), read.2))
      fun _ _ T _ => T.IsReadable depth := by
  refine ⟨fun hread => ?_, fun hrepeated => by cases hrepeated⟩
  cases hread
  refine (h.map fun _ => ()).congr fun T _ => ⟨?_, fun hT => ?_⟩
  · rintro ⟨_, ⟨hT, -⟩, -⟩
    exact hT
  · obtain ⟨found, hfound⟩ := hT.exists_found
    exact ⟨found, ⟨hT, hfound⟩, rfl⟩

/-- **A value is read in full** where everything in it can be read. -/
theorem follows_skimValue (depth : Nat) : Follows readTree (skimValue depth)
    fun T found => T.IsReadable depth ∧ T.found = some found := by
  induction depth with
  | zero =>
    refine follows_readTree fun c => follows_treeAt ?_ ?_ fun hsequence hmap => ?_
    · rintro rfl
      refine follows_error ?_
      rintro _ _ ⟨hreadable, -⟩
      cases hreadable
    · rintro rfl
      refine follows_error ?_
      rintro _ _ ⟨hreadable, -⟩
      cases hreadable
    · simp only [hsequence, hmap, or_self, if_false]
      exact follows_skimScalar c 0
  | succ depth ih =>
    refine follows_readTree fun c => follows_treeAt ?_ ?_ fun hsequence hmap => ?_
    · rintro rfl
      refine ((follows_elements ih).map fun _ => Found.sequence).congr fun es found => ?_
      rw [exists_and_right, exists_forall₂_found_iff]
      constructor
      · rintro ⟨hes, rfl⟩
        exact ⟨.sequence hes, rfl⟩
      · rintro ⟨⟨⟩, hfound⟩
        cases hfound
        exact ⟨‹_›, rfl⟩
    · rintro rfl
      refine ((follows_members (followsMembers_skim ih) ()).map fun _ => Found.map).congr
        fun ms found => ?_
      constructor
      · rintro ⟨⟨⟩, hrun, rfl⟩
        obtain ⟨hkeys, hvalues⟩ := run_readable_iff.1 hrun
        exact ⟨.map hkeys hvalues, rfl⟩
      · rintro ⟨⟨⟩, hfound⟩
        cases hfound
        exact ⟨(), run_readable_iff.2 ⟨‹_›, ‹_›⟩, rfl⟩
    · simp only [if_neg hsequence, if_neg hmap]
      exact follows_skimScalar c (depth + 1)

/-! ## Going over -/

theorem skipMembers_succ_eq_ok_iff {skip : Reader Unit} {limit : Nat} {first : Bool}
    {cs rest : List Char} :
    skipMembers skip (limit + 1) first cs = .ok ((), rest) ↔
      nextKey first cs = .ok (false, rest) ∨
        ∃ more colon value behind, nextKey first cs = .ok (true, more) ∧
          skipString more = .ok colon ∧ takeColon colon = .ok value ∧
          skip value = .ok ((), behind) ∧ skipMembers skip limit false behind = .ok ((), rest) := by
  rw [skipMembers]
  constructor
  · intro h
    obtain ⟨⟨more, cs'⟩, hnext, hread⟩ := bind_eq_ok_iff.1 h
    cases more with
    | false =>
      obtain ⟨-, rfl⟩ := Prod.mk.inj (Except.ok.inj hread)
      exact Or.inl hnext
    | true =>
      obtain ⟨colon, hkey, hcolon⟩ := bind_eq_ok_iff.1 hread
      obtain ⟨value, hcolon', hvalue⟩ := bind_eq_ok_iff.1 hcolon
      obtain ⟨⟨_, behind⟩, hskip, hmore⟩ := bind_eq_ok_iff.1 hvalue
      exact Or.inr ⟨_, colon, value, behind, hnext, hkey, hcolon', hskip, hmore⟩
  · rintro (hnext | ⟨more, colon, value, behind, hnext, hkey, hcolon, hskip, hmore⟩)
    · exact bind_eq_ok_iff.2 ⟨_, hnext, rfl⟩
    · exact bind_eq_ok_iff.2 ⟨_, hnext, bind_eq_ok_iff.2 ⟨_, hkey, bind_eq_ok_iff.2 ⟨_, hcolon,
        bind_eq_ok_iff.2 ⟨_, hskip, hmore⟩⟩⟩⟩

theorem follows_skipMembers {tree : Reader Tree} {skip : Reader Unit}
    (h : Follows tree skip fun _ _ => True) (limit : Nat) (first : Bool) :
    Follows (treeMembersFrom tree limit first) (skipMembers skip limit first)
      fun _ _ => True := by
  induction limit generalizing first with
  | zero =>
    intro cs _ rest
    refine iff_of_false (fun heq => by cases heq) ?_
    rintro ⟨_, hms, -⟩
    cases hms
  | succ limit ih =>
    intro cs _ rest
    rw [skipMembers_succ_eq_ok_iff]
    constructor
    · rintro (hnext | ⟨more, colon, value, behind, hnext, hkey, hcolon, hskip, hmore⟩)
      · exact ⟨[], treeMembersFrom_succ_eq_ok_iff.2 (Or.inl ⟨hnext, rfl⟩), trivial⟩
      · obtain ⟨T, hT, -⟩ := (h _ _ _).1 hskip
        obtain ⟨ms, hms, -⟩ := (ih _ _ _ _).1 hmore
        exact ⟨_, treeMembersFrom_succ_eq_ok_iff.2
          (Or.inr ⟨more, colon, value, T, behind, ms, hnext, hkey, hcolon, hT, hms, rfl⟩), trivial⟩
    · rintro ⟨_, hms, -⟩
      rcases treeMembersFrom_succ_eq_ok_iff.1 hms with ⟨hnext, rfl⟩ |
        ⟨more, colon, value, T, behind, ms, hnext, hkey, hcolon, hT, hms', rfl⟩
      · exact Or.inl hnext
      · exact Or.inr ⟨more, colon, value, behind, hnext, hkey, hcolon,
          (h _ _ _).2 ⟨T, hT, trivial⟩, (ih _ _ _ _).2 ⟨ms, hms', trivial⟩⟩

theorem follows_skipScalar (c : Char) :
    Follows (scalarAt c) (fun cs => (skipScalar c cs).map fun cs => ((), cs)) fun _ _ => True := by
  intro cs _ rest
  constructor
  · intro h
    obtain ⟨_, hskip, heq⟩ := map_eq_ok_iff.1 h
    obtain ⟨-, rfl⟩ := Prod.mk.inj heq
    exact ⟨_, map_eq_ok_iff.2 ⟨_, hskip, rfl⟩, trivial⟩
  · rintro ⟨_, hscalar, -⟩
    obtain ⟨_, hskip, heq⟩ := map_eq_ok_iff.1 hscalar
    obtain ⟨-, rfl⟩ := Prod.mk.inj heq
    exact map_eq_ok_iff.2 ⟨_, hskip, rfl⟩

theorem follows_skipNested (depth : Nat) :
    Follows (treeNested depth) (skipNested depth) fun _ _ => True := by
  induction depth with
  | zero =>
    refine follows_atValue fun c cs u rest => ?_
    split
    · refine iff_of_false (fun heq => by cases heq) ?_
      rintro ⟨_, hT, -⟩
      cases hT
    · rename_i hc
      rw [not_or] at hc
      have hat : treeScalar c cs = treeAt readTree c cs := by
        rw [treeAt, if_neg hc.1, if_neg hc.2]
      have hskip : Follows (treeAt readTree c) (fun cs => (skipScalar c cs).map fun cs => ((), cs))
          fun _ _ => True :=
        follows_treeAt (absurd · hc.1) (absurd · hc.2) fun _ _ => follows_skipScalar c
      rw [hat]
      exact hskip cs u rest
  | succ depth ih =>
    refine follows_atValue fun c => follows_treeAt ?_ ?_ fun hsequence hmap => ?_
    · rintro rfl
      refine ((follows_elements ih).map fun _ => ()).congr fun es _ =>
        ⟨fun _ => trivial, fun _ => ?_⟩
      refine ⟨es.map fun _ => (), ?_, rfl⟩
      rw [List.forall₂_map_right_iff, List.forall₂_same]
      exact fun _ _ => trivial
    · rintro rfl cs u rest
      exact follows_skipMembers ih (cs.length + 1) true cs u rest
    · simp only [if_neg hsequence, if_neg hmap]
      exact follows_skipScalar c

/-- **Any value is gone over.** -/
theorem follows_skipValue : Follows readTree skipValue fun _ _ => True :=
  fun cs => follows_skipNested cs.length cs

end SpriteScene.Json
