/-
  The files that a run of the program changes.

  * `FileTree.SameFileAt`: two trees have the same file at a location, or both have
    none;
  * `Command.writtenPath?`: the path of the file that a command is to write;
  * `Command.Effect.written_of_done`: a run that succeeds makes directories at most,
    and then writes this file;
  * `files_of_run`: so a run that fails changes no file, and one that succeeds changes
    one at most.
-/
import SpriteScene.Proofs.Command.Effect
import SpriteScene.Proofs.Command.Memory

namespace SpriteScene

namespace FileTree

/-- Whether two trees have the same file at a location, or both have none. -/
def SameFileAt (t t' : FileTree) (place : Location) : Prop :=
  ∀ content, t'.get? place = some (.file content) ↔ t.get? place = some (.file content)

theorem AddsDirectories.sameFileAt {t t' : FileTree} (h : AddsDirectories t t')
    (place : Location) : t.SameFileAt t' place := fun _ => h.get?_eq_file_iff

theorem SameFileAt.trans {t₁ t₂ t₃ : FileTree} {place : Location} (h : t₁.SameFileAt t₂ place)
    (h' : t₂.SameFileAt t₃ place) : t₁.SameFileAt t₃ place :=
  fun content => (h' content).trans (h content)

/-- A write changes no other file than the one at the location of its path. -/
theorem sameFileAt_of_write {t t' : FileTree} {path text : String} {disk : Disk}
    (h : t.write path text disk = .ok t') {place : Location} (hplace : place ≠ t.locate path) :
    t.SameFileAt t' place := by
  intro content
  rw [get?_of_write h, if_neg hplace]

/-- A write after directories were made at most changes the file at its path and no
    other. -/
theorem AddsDirectories.files_of_write {t t₁ t' : FileTree} {path text : String} {disk : Disk}
    (hmade : AddsDirectories t t₁) (hwrite : t₁.write path text disk = .ok t') :
    t'.get? (t.locate path) = some (.file text.toUTF8) ∧
      ∀ place, place ≠ t.locate path → t.SameFileAt t' place := by
  have hplace : t₁.locate path = t.locate path := locate_congr hmade.1 path
  constructor
  · rw [get?_of_write hwrite, if_pos hplace.symm]
  · intro place hne
    rw [← hplace] at hne
    exact (hmade.sameFileAt place).trans (sameFileAt_of_write hwrite hne)

/-- A file that can be written is found, if it is there. -/
theorem exists?_of_get?_locate {t t' : FileTree} {path text : String} {disk : Disk}
    {content : ByteArray} (hwrite : t.write path text disk = .ok t')
    (hfile : t.get? (t.locate path) = some (.file content)) : t.exists? path = true := by
  obtain ⟨place, names, name, hcheck, hsteps, hslash, hwalk, henter, hstep, -, -⟩ :=
    write_eq_ok hwrite
  have hlocate : t.walk (t.startOf path) (Path.steps path) = .ok (t.locate path) := by
    have hwalk' := walk_concat hwalk henter hstep
    rw [← hsteps] at hwalk'
    rw [hwalk', eq_destination_of_walk hwalk', locate]
  have hfind : t.find path = .ok (.file content) := by
    rw [find, bind_eq_ok_iff]
    refine ⟨(), hcheck, bind_eq_ok_iff.2 ⟨_, hlocate, ?_⟩⟩
    rw [hfile]
    simp [hslash, pure, Except.pure]
  rw [exists?, hfind]
  rfl

end FileTree

open FileTree

namespace Command

/-! ## One command -/

/-- The path of the file that a command is to write: the scene that it edits, or the
    target of the module; none if it only looks at a scene. -/
def writtenPath? (home : String) (t : FileTree) : Command → Option String
  | .compile _ output _ => some (target home t output)
  | .create path _ | .add path _ | .select path _ | .move path _ _ | .attach path _ _ => some path
  | .check _ | .preview _ => none

theorem writtenPath?_of_editedPath? {c : Command} {path : String} (h : c.editedPath? = some path)
    (home : String) (t : FileTree) : c.writtenPath? home t = some path := by
  cases c with
  | compile | check | preview => cases h
  | create | add | select | move | attach => exact h

variable {home : String} {t t' : FileTree} {disk : Disk} {c : Command} {status : UInt32}

theorem Effect.status_eq (h : Effect home t disk c status t') : status = 0 ∨ status = 1 := by
  cases h with
  | failed => exact Or.inr rfl
  | looked | edited | compiled => exact Or.inl rfl

/-- A run that succeeds makes directories at most, and then writes the file that the
    command is to write. -/
theorem Effect.written_of_done (h : Effect home t disk c status t') (hstatus : status = 0) :
    (c.writtenPath? home t = none ∧ t' = t) ∨
      ∃ path t₁ text, c.writtenPath? home t = some path ∧ AddsDirectories t t₁ ∧
        t₁.write path text disk = .ok t' := by
  cases h with
  | failed => exact absurd hstatus (by decide)
  | looked h =>
    left
    rcases h with rfl | rfl <;> exact ⟨rfl, rfl⟩
  | edited hc _ _ _ hwrite =>
    right
    exact ⟨_, t, _, writtenPath?_of_editedPath? hc home t, .refl t, hwrite⟩
  | compiled _ _ hmade hwrite =>
    right
    exact ⟨_, _, _, rfl, hmade, hwrite⟩

theorem Effect.eq_of_done (h : Effect home t disk c status t') (hstatus : status = 0)
    (hnone : c.writtenPath? home t = none) : t' = t := by
  rcases h.written_of_done hstatus with ⟨-, ht'⟩ | ⟨path, t₁, text, hpath, -⟩
  · exact ht'
  · rw [hnone] at hpath
    cases hpath

/-- **What a run that succeeds has changed**: the file that the command is to write, and
    all of that. -/
theorem Effect.files_of_done (h : Effect home t disk c status t') (hstatus : status = 0)
    {path : String} (hpath : c.writtenPath? home t = some path) :
    (∀ place, place ≠ t.locate path → t.SameFileAt t' place) ∧
    ∃ t₁ text, (∀ place, t.SameFileAt t₁ place) ∧ t₁.write path text disk = .ok t' ∧
      t'.get? (t.locate path) = some (.file text.toUTF8) := by
  rcases h.written_of_done hstatus with ⟨hnone, -⟩ | ⟨path', t₁, text, hpath', hmade, hwrite⟩
  · rw [hnone] at hpath
    cases hpath
  · rw [hpath'] at hpath
    cases hpath
    obtain ⟨hfile, hothers⟩ := hmade.files_of_write hwrite
    exact ⟨hothers, t₁, text, hmade.sameFileAt, hwrite, hfile⟩

theorem Effect.sameFileAt_of_failed (h : Effect home t disk c status t') (hstatus : status = 1)
    (place : Location) : t.SameFileAt t' place := by
  cases h with
  | failed hmade => exact hmade.sameFileAt place
  | looked | edited | compiled => exact absurd hstatus (by decide)

/-- A command that makes a new file leaves the files alone that are there. -/
theorem Effect.get?_of_create {path : String} {project : Option String} {place : Location}
    {content : ByteArray} (h : Effect home t disk (.create path project) status t')
    (hfile : t.get? place = some (.file content)) : t'.get? place = some (.file content) := by
  cases h with
  | failed hmade => exact hmade.get?_eq_file_iff.2 hfile
  | looked h => exact hfile
  | edited hc hopen hrefused hs hwrite =>
    cases hc
    rw [get?_of_write hwrite, if_neg, hfile]
    -- a file at the path itself would have been found, and the command refused
    rintro rfl
    exact hrefused (Or.inr (Or.inl ⟨⟨project, rfl⟩, exists?_of_get?_locate hwrite hfile⟩))

theorem files_runCheck (t : FileTree) (path : String) : (runCheck t path).files = t := by
  rw [runCheck]
  cases t.loadScene path with
  | error e => rfl
  | ok s =>
    dsimp only
    cases s.compile <;> rfl

theorem files_runPreview (t : FileTree) (path : String) : (runPreview t path).files = t := by
  rw [runPreview]
  cases t.loadScene path with
  | error e => rfl
  | ok s =>
    dsimp only
    cases s.compile <;> rfl

end Command

/-! ## Every run -/

/-- **The files that a run changes**, whatever the disk refuses.  A run ends with status
    0 or 1.  With status 1 no file was changed or made.  With status 0 all that may have
    changed is the file that the command is to write: after directories were made at
    most, its whole content was replaced by a text; until then the files were those of
    before.  Arguments that are no command, and commands that look at a scene, change
    nothing at all, and a command that makes a new file never changes one that is
    there. -/
theorem files_of_run (home : String) (t : FileTree) (arguments : List String) (disk : Disk) :
    let outcome := runArguments home t arguments disk
    (outcome.status = 0 ∨ outcome.status = 1) ∧
    (outcome.status = 1 → ∀ place, t.SameFileAt outcome.files place) ∧
    (∀ c, Command.parse arguments = .ok c → outcome.status = 0 →
      (c.writtenPath? home t = none → outcome.files = t) ∧
      ∀ path, c.writtenPath? home t = some path →
        (∀ place, place ≠ t.locate path → t.SameFileAt outcome.files place) ∧
        ∃ t₁ text, (∀ place, t.SameFileAt t₁ place) ∧
          t₁.write path text disk = .ok outcome.files ∧
          outcome.files.get? (t.locate path) = some (.file text.toUTF8)) ∧
    (∀ fault, Command.parse arguments = .error fault →
      outcome.status = 1 ∧ outcome.files = t) ∧
    (∀ path, Command.parse arguments = .ok (.check path) ∨
      Command.parse arguments = .ok (.preview path) → outcome.files = t) ∧
    ∀ path project, Command.parse arguments = .ok (.create path project) →
      ∀ place content, t.get? place = some (.file content) →
        outcome.files.get? place = some (.file content) := by
  intro outcome
  cases hparse : Command.parse arguments with
  | error fault =>
    have houtcome : outcome = .failed t "" "" fault.message := runArguments_of_error hparse
    have hfiles : outcome.files = t := by rw [houtcome]; rfl
    have hstatus : outcome.status = 1 := by rw [houtcome]; rfl
    refine ⟨Or.inr hstatus, ?_, nofun, fun _ _ => ⟨hstatus, hfiles⟩, ?_, nofun⟩
    · intro _ place content
      rw [hfiles]
    · rintro path (h | h) <;> cases h
  | ok c =>
    have houtcome : outcome = c.run home t disk := runArguments_of_ok hparse
    have heffect := Command.effect_run home t disk c
    rw [← houtcome] at heffect
    refine ⟨heffect.status_eq, heffect.sameFileAt_of_failed, ?_, nofun, ?_, ?_⟩
    · rintro _ ⟨⟩ hstatus
      exact ⟨heffect.eq_of_done hstatus, fun path hpath => heffect.files_of_done hstatus hpath⟩
    · rintro path (h | h) <;> cases h <;> rw [houtcome]
      · exact Command.files_runCheck t path
      · exact Command.files_runPreview t path
    · rintro path project ⟨⟩ place content hfile
      exact heffect.get?_of_create hfile

-- a run that fails may leave directories behind: these are no files
example :
    let outcome := runArguments "" ⟨[(["scene.json"], .file "{}".toUTF8)], []⟩
      ["compile", "scene.json", "out/a/"]
    outcome.status = 1 ∧ outcome.files.get? ["out"] = some .directory := by decide +kernel

end SpriteScene
