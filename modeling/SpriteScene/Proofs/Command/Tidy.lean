/-
  Scene files that only the program has written.

  * `Command.isTidy_onScene`: a command keeps a scene tidy, and a command that
    arguments call for has finite coordinates (`Command.isFinite_of_parse`);
  * `FileTree.TidyAt`: whether a file at a location holds a tidy scene; one run
    keeps this up (`Command.Effect.tidyAt`);
  * `BuiltByRuns.absent_or_tidy`: hence a scene file that was made by runs of the
    program holds a tidy scene after each of them.
-/
import SpriteScene.Proofs.Command.Effect
import SpriteScene.Proofs.Command.Memory
import SpriteScene.Proofs.Scene.Tidy

namespace SpriteScene

/-! ## Commands -/

/-- A coordinate that is taken is finite. -/
theorem isFinite_of_takeCoordinate {text : String} {arguments rest : List String} {v : Binary64}
    (h : takeCoordinate text arguments = .ok (v, rest)) : v.isFinite := by
  obtain ⟨⟨a, behind⟩, -, h⟩ := bind_eq_ok_iff.1 h
  dsimp only at h
  split at h
  · split at h
    · rename_i hfinite
      cases h
      exact hfinite
    · cases h
  · cases h

namespace Command

/-- Arguments call for finite coordinates or for no command. -/
theorem isFinite_of_parse {arguments : List String} {c : Command} (h : parse arguments = .ok c) :
    ∀ v ∈ c.coordinates, v.isFinite := by
  cases c with
  | create | add | select | attach | compile | check | preview =>
    exact fun v hv => absurd hv List.not_mem_nil
  | move path id p =>
    -- no other word makes this command
    unfold parse at h
    split at h <;>
      simp only [bind_eq_ok_iff, pure, Except.pure, Except.ok.injEq, reduceCtorEq, and_false,
        exists_false] at h
    obtain ⟨_, -, _, -, ⟨x, _⟩, hx, ⟨y, _⟩, hy, h⟩ := h
    cases h
    exact List.forall_mem_cons.2 ⟨isFinite_of_takeCoordinate hx,
      List.forall_mem_singleton.2 (isFinite_of_takeCoordinate hy)⟩

/-- **A command keeps a scene tidy.** -/
theorem isTidy_onScene {c : Command} (hcoordinates : ∀ v ∈ c.coordinates, v.isFinite)
    {s s' : Scene} (hs : s.IsTidy) (h : c.onScene s = .ok s') : s'.IsTidy := by
  cases c with
  | compile | check | preview =>
    cases h
    exact hs
  | create path project =>
    cases project <;> cases h
    · exact Scene.isTidy_blank none
    · exact Scene.isTidy_blank (some _)
  | add path name =>
    cases h
    exact hs.addObject name
  | select path id =>
    obtain ⟨⟨answer, s₁⟩, hrun, rfl⟩ := map_eq_ok_iff.1 h
    exact hs.select (Edit.answered_eq_ok_iff.1 (Edit.run_eq_ok_iff.1 hrun)).2
  | move path id p =>
    have hp : p.x.isFinite ∧ p.y.isFinite := by
      simpa [coordinates, edits, Edit.coordinates] using hcoordinates
    obtain ⟨⟨answer, s₁⟩, hrun, rfl⟩ := map_eq_ok_iff.1 h
    exact hs.moveObject hp (Edit.answered_eq_ok_iff.1 (Edit.run_eq_ok_iff.1 hrun)).2
  | attach path id reference =>
    obtain ⟨⟨answer, s₁⟩, hrun, rfl⟩ := map_eq_ok_iff.1 h
    exact hs.attachListed (Edit.answered_eq_ok_iff.1 (Edit.run_eq_ok_iff.1 hrun)).2

end Command

/-! ## Tidy files -/

namespace FileTree

/-- Whether a file at a location, if there is one, holds a tidy scene. -/
def TidyAt (t : FileTree) (place : Location) : Prop :=
  ∀ content, t.get? place = some (.file content) →
    ∃ text s, String.fromUTF8? content = some text ∧ Scene.read text = .ok s ∧ s.IsTidy

variable {t t' : FileTree} {place : Location} {path : String} {s : Scene}

/-- Files that stay as they are stay tidy. -/
theorem TidyAt.mono (h : t.TidyAt place)
    (hstay : ∀ content, t'.get? place = some (.file content) →
      t.get? place = some (.file content)) :
    t'.TidyAt place :=
  fun content hcontent => h content (hstay content hcontent)

/-- A path to a tidy file shows a tidy scene. -/
theorem TidyAt.isTidy_of_loadScene (h : t.TidyAt (t.locate path))
    (hload : t.loadScene path = .ok s) : s.IsTidy := by
  obtain ⟨text, htext, hread⟩ := loadScene_eq_ok_iff.1 hload
  obtain ⟨content, hfind, hcontent⟩ := read_eq_ok_iff.1 htext
  obtain ⟨text', s', htext', hread', hs'⟩ := h content (get?_locate_of_find hfind)
  rw [hcontent] at htext'
  cases htext'
  rw [hread] at hread'
  cases hread'
  exact hs'

/-- What can be seen at the path of a tidy file. -/
theorem TidyAt.find_or_loadScene (h : t.TidyAt (t.locate path)) :
    (∀ content, t.find path ≠ .ok (.file content)) ∨
      ∃ s, t.loadScene path = .ok s ∧ s.IsTidy := by
  by_cases hfile : ∃ content, t.find path = .ok (.file content)
  · obtain ⟨content, hfind⟩ := hfile
    obtain ⟨text, s, htext, hread, hs⟩ := h content (get?_locate_of_find hfind)
    have hload : t.loadScene path = .ok s :=
      loadScene_eq_ok_iff.2 ⟨text, read_eq_ok_iff.2 ⟨content, hfind, htext⟩, hread⟩
    exact Or.inr ⟨s, hload, hs⟩
  · exact Or.inl fun content hfind => hfile ⟨content, hfind⟩

/-- A tidy scene can be written anywhere, and any text beside the location. -/
theorem TidyAt.write {text : String} {disk : Disk} (h : t.TidyAt place)
    (htext : t.locate path = place → ∃ s : Scene, s.IsTidy ∧ text = s.text .pretty)
    (hwrite : t.write path text disk = .ok t') : t'.TidyAt place := by
  intro content hcontent
  rw [get?_of_write hwrite] at hcontent
  by_cases hplace : place = t.locate path
  · rw [if_pos hplace] at hcontent
    cases hcontent
    obtain ⟨s, hs, rfl⟩ := htext hplace.symm
    obtain ⟨s', hread, hs'⟩ := hs.exists_read
    exact ⟨_, s', fromUTF8?_toUTF8 _, hread, hs'⟩
  · rw [if_neg hplace] at hcontent
    exact h content hcontent

end FileTree

/-! ## One run -/

/-- A path to a tidy file opens as a tidy document. -/
theorem Document.isTidy_of_open? {t : FileTree} {path : String} {d : Document}
    (h : t.TidyAt (t.locate path)) (hopen : open? t path = .ok d) : d.scene.IsTidy := by
  obtain ⟨-, -, ⟨-, hempty⟩ | hload⟩ := open?_eq_ok_iff.1 hopen
  · rw [hempty]
    exact Scene.isTidy_blank none
  · exact h.isTidy_of_loadScene hload

/-- **A run keeps a file tidy**, whatever scene it is about, unless it writes a module
    there. -/
theorem Command.Effect.tidyAt {home : String} {t t' : FileTree} {disk : Disk} {c : Command}
    {status : UInt32} (heffect : Effect home t disk c status t')
    (hcoordinates : ∀ v ∈ c.coordinates, v.isFinite)
    {place : Location} (h : t.TidyAt place)
    (hoff : ∀ path output asJson, c = .compile path output asJson → status = 0 →
      t.locate (target home t output) ≠ place) : t'.TidyAt place := by
  cases heffect with
  | failed hmade => exact h.mono fun content => hmade.get?_eq_file_iff.1
  | looked => exact h
  | edited _ hopen _ hs hwrite =>
    refine h.write (fun hplace => ?_) hwrite
    rw [← hplace] at h
    exact ⟨_, isTidy_onScene hcoordinates (Document.isTidy_of_open? h hopen) hs, rfl⟩
  | compiled _ _ hmade hwrite =>
    have hbefore := h.mono fun content => hmade.get?_eq_file_iff.1
    refine hbefore.write (fun hplace => ?_) hwrite
    rw [FileTree.locate_congr hmade.1] at hplace
    exact absurd hplace (hoff _ _ _ rfl rfl)

/-! ## All runs -/

/-- The files that runs of the program, each under a disk of its own, make of files
    among which there is none at the location of a path, if no run writes a module
    there.  It is the location that counts: a path may lead to nothing because a
    directory on its way is missing, and lead to a file once a run has made the
    directory. -/
inductive BuiltByRuns (path : String) : FileTree → Prop
  | start {t : FileTree} (h : ∀ content, t.get? (t.locate path) ≠ some (.file content)) :
      BuiltByRuns path t
  | run {t : FileTree} (h : BuiltByRuns path t) (home : String) (arguments : List String)
      (disk : Disk)
      (hoff : ∀ source output asJson,
        Command.parse arguments = .ok (.compile source output asJson) →
          (runArguments home t arguments disk).status = 0 →
            t.locate (Command.target home t output) ≠ t.locate path) :
      BuiltByRuns path (runArguments home t arguments disk).files

namespace BuiltByRuns

theorem tidyAt {path : String} {t : FileTree} (h : BuiltByRuns path t) :
    t.TidyAt (t.locate path) := by
  induction h with
  | start hnone => exact fun content hcontent => absurd hcontent (hnone content)
  | @run t _ home arguments disk hoff ih =>
    cases hparse : Command.parse arguments with
    | error fault =>
      rw [runArguments_of_error hparse]
      exact ih
    | ok c =>
      rw [runArguments_of_ok hparse] at hoff ⊢
      have heffect := Command.effect_run home t disk c
      -- the path leads to the same location as before
      rw [FileTree.locate_congr heffect.workingDirectory_eq]
      refine heffect.tidyAt (Command.isFinite_of_parse hparse) ih ?_
      rintro source output asJson rfl hstatus
      exact hoff source output asJson hparse hstatus

/-- **A scene file that only the program has written is tidy.**  After any runs, good
    or bad, there is no file at the path or it holds a scene with finite coordinates
    in which the catalog lists the attached scripts, each once; and as long as there
    are ids for all objects, they are one, two and so on, and the scene has no
    issues. -/
theorem absent_or_tidy {path : String} {t : FileTree} (h : BuiltByRuns path t) :
    (∀ content, t.find path ≠ .ok (.file content)) ∨
      ∃ s, t.loadScene path = .ok s ∧
        (s.objects.length < UInt64.size →
          s.ids.map UInt64.toNat = List.range' 1 s.objects.length ∧ s.issues = []) ∧
        s.catalog.Nodup ∧
        (∀ reference, reference ∈ s.catalog ↔ ∃ o ∈ s.objects, reference ∈ o.scripts) ∧
        ∀ v ∈ s.coordinates, v.isFinite := by
  rcases h.tidyAt.find_or_loadScene with habsent | ⟨s, hload, hs⟩
  · exact Or.inl habsent
  · refine Or.inr ⟨s, hload, fun hlt => ⟨hs.isNumbered hlt, hs.issues_eq_nil hlt⟩,
      hs.nodup_catalog, fun reference => ?_, Scene.isFinite_iff.1 hs.isFinite⟩
    rw [hs.mem_catalog_iff, Scene.references, List.mem_flatMap]

/-- A scene with one object. -/
def playerScene : Scene := ⟨none, [⟨1, "Player", .origin, []⟩], none, []⟩

/-- The scene with a script attached to the object. -/
def scriptedScene : Scene := ⟨none, [⟨1, "Player", .origin, ["Jump.ts"]⟩], none, ["Jump.ts"]⟩

/-- Five runs: there is nothing to compile yet, a coordinate is no finite number, an
    object finds the disk full, another one is added, and a script is attached to it. -/
def scriptedRuns : List Call :=
  [⟨["compile", "scene.json", "out.tsx"], .willing⟩,
    ⟨["move", "scene.json", "1", "1e999", "0"], .willing⟩,
    ⟨["add", "scene.json", "Crate"], .full⟩, ⟨["add", "scene.json", "Player"], .willing⟩,
    ⟨["attach", "scene.json", "1", "Jump.ts"], .willing⟩]

theorem loadScene_attach :
    (runArguments "." (Document.savedTree playerScene)
      ["attach", "scene.json", "1", "Jump.ts"]).files.loadScene "scene.json" =
        .ok scriptedScene := by
  have hstable : playerScene.IsStable :=
    Scene.forall_coordinates.2
      (List.forall_mem_singleton.2 ⟨Binary64.reread_zero, Binary64.reread_zero⟩)
  have hopen := Document.open?_of_save_of_reread (Document.save_emptyTree playerScene true)
    (Scene.reread_of_isStable hstable)
  have hattach : Command.onScene playerScene (.attach "scene.json" 1 "Jump.ts") =
      .ok scriptedScene := rfl
  rcases Command.run_stable "." .willing (c := .attach "scene.json" 1 "Jump.ts") rfl
    (fun _ hv => absurd hv List.not_mem_nil) hopen hstable with
    ⟨hrefused, -⟩ | ⟨-, -, -, s, hs, -, hload⟩
  · rcases hrefused with ⟨fault, hfault⟩ | ⟨⟨project, hnew⟩, -⟩ | hrefuses
    · rw [hattach] at hfault
      cases hfault
    · cases hnew
    · exact absurd rfl (hrefuses "" _)
  · rw [hattach] at hs
    cases hs
    exact hload

theorem absent_or_tidy_scriptedRuns :
    BuiltByRuns "scene.json" (filesAfter "." ⟨[], []⟩ scriptedRuns) ∧
      (filesAfter "." ⟨[], []⟩ scriptedRuns).loadScene "scene.json" = .ok scriptedScene ∧
      (scriptedScene.ids.map UInt64.toNat = List.range' 1 scriptedScene.objects.length ∧
        scriptedScene.issues = []) ∧
      scriptedScene.catalog.Nodup ∧
      (∀ reference, reference ∈ scriptedScene.catalog ↔
        ∃ o ∈ scriptedScene.objects, reference ∈ o.scripts) ∧
      ∀ v ∈ scriptedScene.coordinates, v.isFinite := by
  have hstart : BuiltByRuns "scene.json" ⟨[], []⟩ := .start nofun
  have hcompiled := hstart.run "." ["compile", "scene.json", "out.tsx"] .willing
    fun _ _ _ h _ => by
      cases h
      decide
  have hmoved := hcompiled.run "." ["move", "scene.json", "1", "1e999", "0"] .willing
    fun _ _ _ h _ => by cases editsOnly_of_mem (w := "move") (by decide) _ _ _ h
  have hrefused := hmoved.run "." ["add", "scene.json", "Crate"] .full
    fun _ _ _ h _ => by cases h
  have hadded := hrefused.run "." ["add", "scene.json", "Player"] .willing
    fun _ _ _ h _ => by cases h
  have hbuilt := hadded.run "." ["attach", "scene.json", "1", "Jump.ts"] .willing
    fun _ _ _ h _ => by cases editsOnly_of_mem (w := "attach") (by decide) _ _ _ h
  have hcompile :
      (runArguments "." ⟨[], []⟩ ["compile", "scene.json", "out.tsx"]).files = ⟨[], []⟩ := rfl
  have hmove :
      (runArguments "." ⟨[], []⟩ ["move", "scene.json", "1", "1e999", "0"]).files = ⟨[], []⟩ := by
    have hbad : (Command.parse ["move", "scene.json", "1", "1e999", "0"]).isOk = false := by
      decide +kernel
    cases hparse : Command.parse ["move", "scene.json", "1", "1e999", "0"] with
    | error fault =>
      rw [runArguments_of_error hparse]
      rfl
    | ok c =>
      rw [hparse] at hbad
      cases hbad
  have hrefuse :
      (runArguments "." ⟨[], []⟩ ["add", "scene.json", "Crate"] .full).files = ⟨[], []⟩ := rfl
  have hadd : (runArguments "." ⟨[], []⟩ ["add", "scene.json", "Player"]).files =
      Document.savedTree playerScene := rfl
  have hload := loadScene_attach
  rw [← hadd, ← hrefuse, ← hmove, ← hcompile] at hload
  obtain ⟨text, htext, -⟩ := FileTree.loadScene_eq_ok_iff.1 hload
  obtain ⟨content, hfind, -⟩ := FileTree.read_eq_ok_iff.1 htext
  obtain ⟨s, hs, hnumbered, htidy⟩ :=
    (absent_or_tidy hbuilt).resolve_left fun habsent => habsent content hfind
  rw [hload] at hs
  cases hs
  rw [scriptedRuns, filesAfter_cons, filesAfter_cons, filesAfter_cons, filesAfter_cons,
    filesAfter_cons, filesAfter_nil]
  exact ⟨hbuilt, hload, hnumbered (by decide), htidy⟩

end BuiltByRuns

end SpriteScene
