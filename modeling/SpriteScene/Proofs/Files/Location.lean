/-
  Where paths lead, and which locations a change touches.

  * `FileTree.locate` is the location that a path leads to if every step can be
    taken; whatever stands there does not matter (`FileTree.eq_destination_of_walk`);
  * `FileTree.write_eq_put`: a write changes what stands there and nothing else;
  * `FileTree.AddsDirectories`: making directories puts them where nothing stood
    (`FileTree.addsDirectories_makeDirectories`), so the files stay as they are
    (`FileTree.AddsDirectories.get?_eq_file_iff`).
-/
import SpriteScene.Proofs.Files.Write

namespace SpriteScene.FileTree

/-! ## Locations -/

/-- The location that a step leads to where it can be taken. -/
def destinationStep (place : Location) (name : String) : Location :=
  if name = "." then place else if name = ".." then place.dropLast else place ++ [name]

/-- The location that steps lead to where each of them can be taken. -/
def destination (start : Location) (names : List String) : Location :=
  names.foldl destinationStep start

/-- Steps to names lead down by these names. -/
theorem destination_of_plain (start : Location) {names : List String}
    (h : ∀ name ∈ names, name ≠ "." ∧ name ≠ "..") : destination start names = start ++ names := by
  induction names generalizing start with
  | nil => exact (List.append_nil start).symm
  | cons name names ih =>
    obtain ⟨hhere, habove⟩ := h name List.mem_cons_self
    have hstep : destinationStep start name = start ++ [name] := by
      rw [destinationStep, if_neg hhere, if_neg habove]
    rw [destination, List.foldl_cons, hstep, ← destination,
      ih _ fun other hother => h other (List.mem_cons_of_mem _ hother), List.append_assoc]
    rfl

/-- The location that a path leads to, whatever stands there and on the way. -/
def locate (t : FileTree) (path : String) : Location :=
  destination (t.startOf path) (Path.steps path)

theorem eq_destinationStep_of_step {place next : Location} {name : String}
    (h : step place name = .ok next) : next = destinationStep place name := by
  rw [step] at h
  rw [destinationStep]
  split_ifs at h ⊢ <;> cases h <;> rfl

/-- A walk leads where its steps lead. -/
theorem eq_destination_of_walk {t : FileTree} {start place : Location} {names : List String}
    (h : t.walk start names = .ok place) : place = destination start names := by
  induction names generalizing start with
  | nil =>
    cases h
    rfl
  | cons name names ih =>
    rw [walk, bind_eq_ok_iff] at h
    obtain ⟨⟨⟩, -, h⟩ := h
    obtain ⟨next, hstep, h⟩ := bind_eq_ok_iff.1 h
    rw [ih h, eq_destinationStep_of_step hstep]
    rfl

theorem locate_congr {t t' : FileTree} (h : t'.workingDirectory = t.workingDirectory)
    (path : String) : t'.locate path = t.locate path := by
  rw [locate, locate, startOf, startOf, h]

/-- A file that a path leads to stands at the location of the path. -/
theorem get?_locate_of_find {t : FileTree} {path : String} {content : ByteArray}
    (h : t.find path = .ok (.file content)) : t.get? (t.locate path) = some (.file content) := by
  rw [find, bind_eq_ok_iff] at h
  obtain ⟨⟨⟩, -, h⟩ := h
  obtain ⟨place, hwalk, h⟩ := bind_eq_ok_iff.1 h
  rw [locate, ← eq_destination_of_walk hwalk]
  split at h
  · cases h
  · cases h
  · rename_i found hfound
    split at h
    · cases h
    · cases h
      exact hfound

/-- **A write changes what stands at the location of its path** and nothing else. -/
theorem write_eq_put {t t' : FileTree} {path text : String} {disk : Disk}
    (h : t.write path text disk = .ok t') :
    t.locate path ≠ [] ∧ t' = t.put (t.locate path) (.file text.toUTF8) := by
  obtain ⟨place, names, name, -, hsteps, -, hwalk, -, hstep, -, rfl⟩ := write_eq_ok h
  have hplace : t.locate path = place ++ [name] := by
    have happend : destination (t.startOf path) (names ++ [name]) =
        destinationStep (destination (t.startOf path) names) name := List.foldl_append
    rw [locate, hsteps, happend, ← eq_destination_of_walk hwalk, eq_destinationStep_of_step hstep]
  rw [hplace]
  exact ⟨List.concat_ne_nil name place, rfl⟩

theorem get?_of_write {t t' : FileTree} {path text : String} {disk : Disk}
    (h : t.write path text disk = .ok t') (place : Location) :
    t'.get? place = if place = t.locate path then some (.file text.toUTF8) else t.get? place := by
  obtain ⟨hne, rfl⟩ := write_eq_put h
  exact t.get?_put hne _ place

/-- Whether a write succeeds does not depend on the text. -/
theorem exists_write {t t' : FileTree} {path text : String} {disk : Disk}
    (h : t.write path text disk = .ok t') (text' : String) :
    ∃ t'', t.write path text' disk = .ok t'' := by
  rw [write, bind_eq_ok_iff] at h
  obtain ⟨last, hlast, h⟩ := h
  simp only [write, bind_eq_ok_iff]
  cases last with
  | none => cases h
  | some last =>
    obtain ⟨place, name⟩ := last
    dsimp only at h
    split at h
    · cases h
    · rename_i hplain
      obtain ⟨file, hstep, h⟩ := bind_eq_ok_iff.1 h
      split at h
      · cases h
      · rename_i hfile
        refine ⟨t.put file (.file text'.toUTF8), _, hlast, ?_⟩
        dsimp only
        rw [if_neg hplain]
        refine bind_eq_ok_iff.2 ⟨file, hstep, ?_⟩
        split
        · rename_i hdirectory
          exact absurd hdirectory hfile
        · exact change_eq_ok_iff.2 ⟨(change_eq_ok_iff.1 h).1, rfl⟩

/-! ## Directories -/

/-- Whether a tree is another one with directories where nothing stood. -/
def AddsDirectories (t t' : FileTree) : Prop :=
  t'.workingDirectory = t.workingDirectory ∧
    ∀ place, t'.get? place = t.get? place ∨
      t.get? place = none ∧ t'.get? place = some .directory

theorem AddsDirectories.refl (t : FileTree) : AddsDirectories t t := ⟨rfl, fun _ => Or.inl rfl⟩

theorem AddsDirectories.trans {t₁ t₂ t₃ : FileTree} (h : AddsDirectories t₁ t₂)
    (h' : AddsDirectories t₂ t₃) : AddsDirectories t₁ t₃ := by
  refine ⟨h'.1.trans h.1, fun place => ?_⟩
  rcases h.2 place with heq | ⟨hnone, hmade⟩ <;> rcases h'.2 place with heq' | ⟨hnone', hmade'⟩
  · exact Or.inl (heq'.trans heq)
  · exact Or.inr ⟨heq ▸ hnone', hmade'⟩
  · exact Or.inr ⟨hnone, heq'.trans hmade⟩
  · rw [hmade] at hnone'
    cases hnone'

/-- The files stay as they are, and there are no others. -/
theorem AddsDirectories.get?_eq_file_iff {t t' : FileTree} (h : AddsDirectories t t')
    {place : Location} {content : ByteArray} :
    t'.get? place = some (.file content) ↔ t.get? place = some (.file content) := by
  rcases h.2 place with heq | ⟨hnone, hmade⟩
  · rw [heq]
  · simp [hnone, hmade]

theorem addsDirectories_makeDirectory {t t' : FileTree} {path : String} {disk : Disk}
    (h : t.makeDirectory path disk = .ok t') : AddsDirectories t t' := by
  rw [makeDirectory, bind_eq_ok_iff] at h
  obtain ⟨last, -, h⟩ := h
  cases last with
  | none => cases h
  | some last =>
    obtain ⟨place, name⟩ := last
    dsimp only at h
    split at h
    · cases h
    · rename_i hplain
      obtain ⟨directory, hstep, h⟩ := bind_eq_ok_iff.1 h
      split at h
      · cases h
      · rename_i hnone
        obtain ⟨-, rfl⟩ := change_eq_ok_iff.1 h
        obtain rfl := eq_of_step (Bool.eq_false_iff.2 hplain) hstep
        refine ⟨rfl, fun other => ?_⟩
        rw [t.get?_put (List.concat_ne_nil name place)]
        by_cases hother : other = place ++ [name]
        · rw [if_pos hother, hother]
          exact Or.inr ⟨hnone, rfl⟩
        · rw [if_neg hother]
          exact Or.inl rfl

theorem addsDirectories_makeAbove (disk : Disk) (limit : Nat) (path : String) (t : FileTree) :
    AddsDirectories t (makeAbove disk limit path t).2 := by
  induction limit generalizing path t with
  | zero => exact .refl t
  | succ limit ih =>
    rw [makeAbove]
    split
    · exact .refl t
    split
    · rename_i t' hmade
      exact addsDirectories_makeDirectory hmade
    · cases hparent : Path.parent? path with
      | none => exact .refl t
      | some above =>
        have habove := ih above t
        rw [Option.map_some]
        cases hresult : makeAbove disk limit above t with
        | mk result t₁ =>
          rw [hresult] at habove
          cases result with
          | error fault => exact habove
          | ok =>
            dsimp only
            split
            · rename_i t₂ hmade
              exact habove.trans (addsDirectories_makeDirectory hmade)
            · split <;> exact habove
    · split <;> exact .refl t

/-- **Making directories puts them where nothing stood** and changes nothing else. -/
theorem addsDirectories_makeDirectories (t : FileTree) (path : String) (disk : Disk) :
    AddsDirectories t (t.makeDirectories path disk).2 :=
  addsDirectories_makeAbove disk _ path t

end SpriteScene.FileTree
