/-
  What a run does to the files.

  * `Command.Effect`: the ways in which a run of a command may end, with the files
    it leaves;
  * `Command.effect_run`: every run ends in one of them;
  * `Command.Effect.workingDirectory_eq`: none of them moves the working directory.
-/
import SpriteScene.Proofs.Command.Run
import SpriteScene.Proofs.Report

namespace SpriteScene.Command

open FileTree

/-- The path that a module is written to: the one that is given, or the one of the
    configuration. -/
def target (home : String) (t : FileTree) (output : Option String) : String :=
  output.getD (Config.load t (Config.pathIn home)).outputPath

/-- How a run of a command may end under a disk: its status, and the files after it. -/
inductive Effect (home : String) (t : FileTree) (disk : Disk) :
    Command → UInt32 → FileTree → Prop
  /-- The run failed, and made directories at most. -/
  | failed {c : Command} {t' : FileTree} (h : AddsDirectories t t') : Effect home t disk c 1 t'
  /-- The scene was looked at. -/
  | looked {c : Command} {path : String} (h : c = .check path ∨ c = .preview path) :
      Effect home t disk c 0 t
  /-- The scene of a path was edited and written back. -/
  | edited {c : Command} {path : String} {d : Document} {s : Scene} {t' : FileTree}
      (hc : c.editedPath? = some path) (hopen : Document.open? t path = .ok d)
      (hrefused : ¬ c.Refused t disk path d.scene) (hs : c.onScene d.scene = .ok s)
      (hwrite : t.write path (s.text .pretty) disk = .ok t') : Effect home t disk c 0 t'
  /-- The module of a scene was written to its target. -/
  | compiled {path code : String} {output : Option String} {asJson : Bool} {s : Scene}
      {t₁ t' : FileTree} (hload : t.loadScene path = .ok s) (hcode : s.compile = .ok code)
      (hmade : AddsDirectories t t₁)
      (hwrite : t₁.write (target home t output) code disk = .ok t') :
      Effect home t disk (.compile path output asJson) 0 t'

variable (home : String) (t : FileTree) (disk : Disk)

theorem effect_runCompile (path : String) (output : Option String) (asJson : Bool) :
    Effect home t disk (.compile path output asJson)
      (runCompile home t path output asJson disk).status
      (runCompile home t path output asJson disk).files := by
  rw [runCompile]
  cases hload : t.loadScene path with
  | error e => exact .failed (.refl t)
  | ok s =>
    dsimp only
    rw [← target]
    rcases s.compileTo_cases t (target home t output) disk with
      ⟨fault, -, hresult⟩ | ⟨code, e, t', -, hresult, hmade⟩ |
        ⟨code, t₁, t', hcode, hmade, hwrite, hresult⟩
    · rw [hresult]
      exact .failed (.refl t)
    · rw [hresult]
      exact .failed hmade
    · rw [hresult]
      cases asJson <;> exact .compiled hload hcode hmade hwrite

theorem effect_runCheck (path : String) :
    Effect home t disk (.check path) (runCheck t path).status (runCheck t path).files := by
  rw [runCheck]
  cases t.loadScene path with
  | error e => exact .failed (.refl t)
  | ok s =>
    dsimp only
    cases s.compile with
    | error fault => exact .failed (.refl t)
    | ok code => exact .looked (Or.inl rfl)

theorem effect_runPreview (path : String) :
    Effect home t disk (.preview path) (runPreview t path).status
      (runPreview t path).files := by
  rw [runPreview]
  cases t.loadScene path with
  | error e => exact .failed (.refl t)
  | ok s =>
    dsimp only
    cases s.compile with
    | error fault => exact .failed (.refl t)
    | ok code => exact .looked (Or.inr rfl)

theorem effect_run_of_editedPath? {c : Command} {path : String} (hc : c.editedPath? = some path) :
    Effect home t disk c (c.run home t disk).status (c.run home t disk).files := by
  cases hopen : Document.open? t path with
  | error e =>
    obtain ⟨message, hrun⟩ := run_of_open?_eq_error home disk hc hopen
    rw [hrun]
    exact .failed (.refl t)
  | ok d =>
    rcases run_cases home disk hc hopen with
      ⟨-, message, hrun⟩ | ⟨hrefused, s, t', hs, hwrite, hrun⟩
    · rw [hrun]
      exact .failed (.refl t)
    · rw [hrun]
      exact .edited hc hopen hrefused hs hwrite

/-- **Every run ends in one of these ways.** -/
theorem effect_run (c : Command) :
    Effect home t disk c (c.run home t disk).status (c.run home t disk).files := by
  cases c with
  | compile path output asJson => exact effect_runCompile home t disk path output asJson
  | check path => exact effect_runCheck home t disk path
  | preview path => exact effect_runPreview home t disk path
  | create | add | select | move | attach => exact effect_run_of_editedPath? home t disk rfl

variable {home t disk}

theorem Effect.workingDirectory_eq {c : Command} {status : UInt32} {t' : FileTree}
    (h : Effect home t disk c status t') : t'.workingDirectory = t.workingDirectory := by
  cases h with
  | failed hmade => exact hmade.1
  | looked => rfl
  | edited _ _ _ _ hwrite =>
    rw [(write_eq_put hwrite).2]
    rfl
  | compiled _ _ hmade hwrite =>
    rw [(write_eq_put hwrite).2]
    exact hmade.1

end SpriteScene.Command
