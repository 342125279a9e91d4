/-
  Compiling to a file.

  * `Report.takes_write`: a written report is taken for the report, in any layout that
    puts nothing but white space between the parts, whatever its texts hold;
  * `Command.run_compile_of_ok`: what a run prints of a report reads back as the report;
  * `Scene.compileTo_all_or_nothing`: a scene that does not compile changes nothing, a
    module that cannot be written changes no file, and a module that is reported is what
    stands in the file.
-/
import SpriteScene.Proofs.Command.Footprint
import SpriteScene.Proofs.Module.Layout
import SpriteScene.Proofs.Scene.RoundTrip

namespace SpriteScene

open Json FileTree

/-! ## Reports -/

namespace Report

/-- **A written report is taken for the report.** -/
theorem takes_write (r : Report) {l : Layout} (hl : l.IsSpaced) :
    Takes Report.record.read (r.text l) (.ok r) := by
  have hmembers : TakesMembers Report.record.member Report.record.start
      [("message", writeString r.message), ("filePath", writeString r.filePath),
        ("code", writeString r.code)]
      (.ok ⟨some r.message, some r.filePath, some r.code⟩) := by
    refine .cons rfl ((reads_string "a string" r.message).map fun message =>
      Draft.mk (some message) none none) ?_
    refine .cons rfl ((reads_string "path string" r.filePath).map fun filePath =>
      Draft.mk (some r.message) (some filePath) none) ?_
    refine .cons rfl ((reads_string "a string" r.code).map fun code =>
      Draft.mk (some r.message) (some r.filePath) (some code)) ?_
    exact .nil _
  rw [text, Value.text, toJson, Value.write, writeMembers_eq_map]
  exact takes_record Report.record hl 0 hmembers

theorem read_written (r : Report) {l : Layout} (hl : l.IsSpaced) : read (r.text l) = .ok r :=
  (r.takes_write hl).readText

/-- A line feed behind a report does not matter. -/
theorem read_line (r : Report) {l : Layout} (hl : l.IsSpaced) :
    read (r.text l ++ "\n") = .ok r := by
  have hends : EndsNumber ['\n'] := endsNumber_cons (by decide) []
  have hread := (r.takes_write hl).read [] ['\n'] isBlank_nil hends
  rw [List.nil_append] at hread
  rw [read, Json.readText, String.toList_append, show "\n".toList = ['\n'] from rfl, hread]
  rfl

end Report

/-! ## Runs -/

/-- **A run that compiles and writes prints a report that can be read.** -/
theorem Command.run_compile_of_ok {home scenePath : String} {t t' : FileTree} {disk : Disk}
    {s : Scene} {output : Option String} {report : Report}
    (hload : t.loadScene scenePath = .ok s)
    (hcompile : s.compileTo t (target home t output) disk = (.ok report, t')) :
    ∃ printed, Command.run home t (.compile scenePath output true) disk = .done t' printed "" ∧
      Report.read printed = .ok report := by
  refine ⟨report.text .pretty ++ "\n", ?_, report.read_line isSpaced_pretty⟩
  rw [Command.run, runCompile, hload]
  dsimp only
  rw [← target, hcompile]
  rfl

/-! ## Compiling to a path -/

namespace Scene

variable {s : Scene} {t t' : FileTree} {path : String} {disk : Disk}

theorem compileTo_eq_compileError_iff {fault : CompileFault} :
    s.compileTo t path disk = (.error (.compile fault), t') ↔
      s.compile = .error fault ∧ t' = t := by
  constructor
  · intro h
    rcases s.compileTo_cases t path disk with ⟨fault', hfault, heq⟩ | ⟨_, _, _, -, heq, -⟩ |
      ⟨_, _, _, -, -, -, heq⟩ <;> rw [heq] at h <;> cases h
    exact ⟨hfault, rfl⟩
  · rintro ⟨hfault, rfl⟩
    rw [compileTo, hfault]

theorem addsDirectories_of_fileError {e : FileError}
    (h : s.compileTo t path disk = (.error (.file e), t')) : AddsDirectories t t' := by
  rcases s.compileTo_cases t path disk with ⟨_, -, heq⟩ | ⟨_, _, _, -, heq, hmade⟩ |
    ⟨_, _, _, -, -, -, heq⟩ <;> rw [heq] at h <;> cases h
  exact hmade

theorem written_of_report {report : Report} (h : s.compileTo t path disk = (.ok report, t')) :
    ∃ code t₁, s.compile = .ok code ∧ report = .success path code ∧ AddsDirectories t t₁ ∧
      t₁.write path code disk = .ok t' := by
  rcases s.compileTo_cases t path disk with ⟨_, -, heq⟩ | ⟨_, _, _, -, heq, -⟩ |
    ⟨code, t₁, _, hcode, hmade, hwrite, heq⟩ <;> rw [heq] at h <;> cases h
  exact ⟨code, t₁, hcode, rfl, hmade, hwrite⟩

/-- **Compiling to a path is all or nothing.**  A scene that does not compile is the one
    reason to report its fault, and then nothing at all has changed.  If directories or the
    file could not be made, no file has changed and there is no new one.  Otherwise the
    file at the path, and no other, has changed: it holds the module, after directories were
    made at most.  The report has the path and the module; it reads back from its text, be
    it by itself or as a run prints it. -/
theorem compileTo_all_or_nothing (s : Scene) (t : FileTree) (path : String) (disk : Disk) :
    (∀ fault t', s.compileTo t path disk = (.error (.compile fault), t') ↔
      s.compile = .error fault ∧ t' = t) ∧
    (∀ e t', s.compileTo t path disk = (.error (.file e), t') →
      AddsDirectories t t' ∧ ∀ place, t.SameFileAt t' place) ∧
    ∀ report t', s.compileTo t path disk = (.ok report, t') →
      (∃ code, s.compile = .ok code ∧
        report = ⟨"Scene compiled successfully!", path, code⟩ ∧
        t'.read path = .ok code ∧
        t'.get? (t.locate path) = some (.file code.toUTF8) ∧
        (∀ place, place ≠ t.locate path → t.SameFileAt t' place) ∧
        ∃ t₁, AddsDirectories t t₁ ∧ t₁.write path code disk = .ok t') ∧
      Report.read (report.text .pretty) = .ok report ∧
      ∀ home scenePath output, t.loadScene scenePath = .ok s →
        Command.target home t output = path →
        ∃ printed,
          Command.run home t (.compile scenePath output true) disk = .done t' printed "" ∧
          Report.read printed = .ok report := by
  refine ⟨fun fault t' => compileTo_eq_compileError_iff, fun e t' h => ?_, fun report t' h => ?_⟩
  · have hmade := addsDirectories_of_fileError h
    exact ⟨hmade, hmade.sameFileAt⟩
  · refine ⟨?_, report.read_written isSpaced_pretty, ?_⟩
    · obtain ⟨code, t₁, hcode, rfl, hmade, hwrite⟩ := written_of_report h
      obtain ⟨hfile, hothers⟩ := hmade.files_of_write hwrite
      exact ⟨code, hcode, rfl, read_of_write hwrite, hfile, hothers, t₁, hmade, hwrite⟩
    · rintro home scenePath output hload rfl
      exact Command.run_compile_of_ok hload h

/-- A scene file, and a file where a directory may be wanted. -/
def crampedTree : FileTree where
  entries := [(["scene.json"], .file "\x7b\x7d".toUTF8), (["out"], .file "kept".toUTF8)]
  workingDirectory := []

/-- A script that cannot be imported, a path below a file, a name that is hard to quote,
    and a run. -/
theorem compileTo_all_or_nothing_crampedTree :
    (∃ fault, compileTo ⟨none, [⟨1, "P", .origin, ["not valid.ts"]⟩], none, []⟩ crampedTree
      "new/Level.tsx" = (.error (.compile fault), crampedTree)) ∧
    (∃ e t', hostileScene.compileTo crampedTree "out/Level.tsx" = (.error (.file e), t') ∧
      t'.get? ["out"] = some (.file "kept".toUTF8)) ∧
    (∃ code t', hostileScene.compile = .ok code ∧ hostileScene.compileTo crampedTree
        "new/Level.tsx" = (.ok (.success "new/Level.tsx" code), t') ∧
      t'.read "new/Level.tsx" = .ok code ∧
      Report.read ((Report.success "new/Level.tsx" code).text .pretty) =
        .ok (.success "new/Level.tsx" code)) ∧
    ∃ code t' printed, empty.compile = .ok code ∧ Command.run "" crampedTree
        (.compile "scene.json" (some "new/Level.tsx") true) = .done t' printed "" ∧
      Report.read printed = .ok (.success "new/Level.tsx" code) := by
  refine ⟨?_, ?_, ?_, ?_⟩
  · obtain ⟨fault, hfault⟩ : ∃ fault, compile ⟨none, [⟨1, "P", .origin, ["not valid.ts"]⟩],
        none, []⟩ = .error fault := ⟨_, rfl⟩
    exact ⟨fault, ((compileTo_all_or_nothing _ _ _ _).1 fault _).2 ⟨hfault, rfl⟩⟩
  · obtain ⟨e, t', h⟩ : ∃ e t', hostileScene.compileTo crampedTree "out/Level.tsx" =
        (.error (.file e), t') := ⟨_, _, rfl⟩
    obtain ⟨-, hsame⟩ := (compileTo_all_or_nothing _ _ _ _).2.1 e t' h
    exact ⟨e, t', h, (hsame ["out"] _).2 rfl⟩
  · obtain ⟨report, t', h⟩ : ∃ report t', hostileScene.compileTo crampedTree "new/Level.tsx" =
        (.ok report, t') := ⟨_, _, rfl⟩
    obtain ⟨⟨code, hcode, rfl, hread, -⟩, hreport, -⟩ :=
      (compileTo_all_or_nothing _ _ _ _).2.2 _ t' h
    exact ⟨code, t', hcode, h, hread, hreport⟩
  · obtain ⟨report, t', h⟩ : ∃ report t', empty.compileTo crampedTree "new/Level.tsx" =
        (.ok report, t') := ⟨_, _, rfl⟩
    obtain ⟨⟨code, hcode, rfl, -⟩, -, hrun⟩ := (compileTo_all_or_nothing _ _ _ _).2.2 _ t' h
    obtain ⟨printed, hprinted, hread⟩ := hrun "" "scene.json" (some "new/Level.tsx") rfl rfl
    exact ⟨code, t', printed, hcode, hprinted, hread⟩

end Scene

end SpriteScene
