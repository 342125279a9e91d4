/-
  Modules that are written to files.

  * `FileTree.persist_cases`: before a text is persisted directories are made, and
    unless the text is written nothing else happens;
  * `Scene.compileTo_cases`: a scene that does not compile changes nothing, and one
    that does is persisted.
-/
import SpriteScene.Proofs.Files.Location
import SpriteScene.Report

namespace SpriteScene

open FileTree

/-- **Directories are made first**; then the text is written, and if one of the two
    is refused the files stay as they are. -/
theorem FileTree.persist_cases (t : FileTree) (path text : String) (disk : Disk) :
    (∃ e t', t.persist path text disk = (.error e, t') ∧ AddsDirectories t t') ∨
      ∃ t₁ t', AddsDirectories t t₁ ∧ t₁.write path text disk = .ok t' ∧
        t.persist path text disk = (.ok (), t') := by
  have hwrite {t₁ : FileTree} (hmade : AddsDirectories t t₁) :
      (∃ e t', persist.write path text disk t₁ = (.error e, t') ∧ AddsDirectories t t') ∨
        ∃ t₁' t', AddsDirectories t t₁' ∧ t₁'.write path text disk = .ok t' ∧
          persist.write path text disk t₁ = (.ok (), t') := by
    rw [persist.write, writeText]
    cases hresult : t₁.write path text disk with
    | error fault => exact Or.inl ⟨_, t₁, rfl, hmade⟩
    | ok t' => exact Or.inr ⟨t₁, t', hmade, hresult, rfl⟩
  rw [persist]
  cases (Path.parent? path).filter (· ≠ "") with
  | none => exact hwrite (.refl t)
  | some above =>
    have hmade := addsDirectories_makeDirectories t above disk
    dsimp only
    cases hresult : t.makeDirectories above disk with
    | mk result t₁ =>
      rw [hresult] at hmade
      cases result with
      | error fault => exact Or.inl ⟨_, t₁, rfl, hmade⟩
      | ok => exact hwrite hmade

/-- How compiling to a path ends: a scene that does not compile changes nothing, a
    module that cannot be written changes no file, and a module that can be is
    what the report tells of. -/
theorem Scene.compileTo_cases (s : Scene) (t : FileTree) (path : String) (disk : Disk) :
    (∃ fault, s.compile = .error fault ∧
      s.compileTo t path disk = (.error (.compile fault), t)) ∨
      (∃ code e t', s.compile = .ok code ∧ s.compileTo t path disk = (.error (.file e), t') ∧
        AddsDirectories t t') ∨
      ∃ code t₁ t', s.compile = .ok code ∧ AddsDirectories t t₁ ∧
        t₁.write path code disk = .ok t' ∧
        s.compileTo t path disk = (.ok (.success path code), t') := by
  rw [compileTo]
  cases s.compile with
  | error fault => exact Or.inl ⟨fault, rfl, rfl⟩
  | ok code =>
    dsimp only
    rcases t.persist_cases path code disk with
      ⟨e, t', hpersist, hmade⟩ | ⟨t₁, t', hmade, hwrite, hpersist⟩
    · rw [hpersist]
      exact Or.inr (Or.inl ⟨code, e, t', rfl, rfl, hmade⟩)
    · rw [hpersist]
      exact Or.inr (Or.inr ⟨code, t₁, t', rfl, hmade, hwrite, rfl⟩)

end SpriteScene
