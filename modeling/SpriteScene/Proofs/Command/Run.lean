/-
  What a run that edits a scene comes to.

  * `Command.onScene` is what a command does to a scene in memory, and
    `Command.Refused` tells when a run of it must fail;
  * `Command.run_cases`: if the path opens, a run fails for one of these reasons
    and touches no file, or it writes the scene that the command makes in memory;
  * `Command.run_of_open?_eq_error`: if it does not, the run fails.
-/
import SpriteScene.Command
import SpriteScene.Proofs.Document.Edit
import SpriteScene.Proofs.Document.Reopen
import SpriteScene.Proofs.Files.Location

namespace SpriteScene

namespace Command

/-! ## Commands on a scene in memory -/

/-- The path of the scene that a command edits; none if it only looks at one. -/
def editedPath? : Command → Option String
  | .create path _ | .add path _ | .select path _ | .move path _ _ | .attach path _ _ => some path
  | .compile .. | .check _ | .preview _ => none

/-- The edits that a command makes. -/
def edits : Command → List Edit
  | .add _ name => [.add name]
  | .select _ id => [.select id]
  | .move _ id p => [.move id p]
  | .attach _ id reference => [.attach id reference, .catalog reference]
  | .create .. | .compile .. | .check _ | .preview _ => []

/-- The coordinates that a command brings with it. -/
def coordinates (c : Command) : List Binary64 := c.edits.flatMap Edit.coordinates

/-- What a command does to a scene in memory. -/
def onScene (s : Scene) : Command → Except EditFault Scene
  | .create _ (some name) => .ok (.ofProject name)
  | .create _ none => .ok .empty
  | .add _ name => .ok (s.addObject name)
  | .select _ id => (Edit.run s (.select id)).map (·.2)
  | .move _ id p => (Edit.run s (.move id p)).map (·.2)
  | .attach _ id reference => (Edit.run s (.attach id reference)).map (·.2.addScript reference)
  | .compile .. | .check _ | .preview _ => .ok s

/-- What a run of a command prints that is carried out on a scene. -/
def printedOn (s : Scene) : Command → String
  | .add _ _ => toString s.nextId ++ "\n"
  | _ => ""

/-- The edits of a command do what the command does. -/
theorem runAll_edits_of_ok {c : Command} {path : String} {s s' : Scene}
    (hc : c.editedPath? = some path) (hnew : ¬ ∃ project, c = .create path project)
    (h : c.onScene s = .ok s') :
    ∃ answers, Edit.runAll s c.edits = (.ok answers, s') ∧ printed answers = c.printedOn s := by
  cases c with
  | create path project =>
    cases hc
    exact absurd ⟨project, rfl⟩ hnew
  | add path name =>
    cases h
    exact ⟨_, rfl, String.empty_append⟩
  | select | move | attach =>
    obtain ⟨⟨answer, s₁⟩, hrun, rfl⟩ := map_eq_ok_iff.1 h
    have hperform := Edit.run_eq_ok_iff.1 hrun
    obtain ⟨rfl, -⟩ := Edit.answered_eq_ok_iff.1 hperform
    exact ⟨_, Edit.runAll_cons_ok hperform _, rfl⟩
  | compile | check | preview => cases hc

theorem runAll_edits_of_error {c : Command} {s : Scene} {fault : EditFault}
    (h : c.onScene s = .error fault) : Edit.runAll s c.edits = (.error fault, s) := by
  cases c with
  | create path project => cases project <;> cases h
  | add | compile | check | preview => cases h
  | select | move | attach =>
    exact Edit.runAll_cons_error (Edit.run_eq_error_iff.1 (map_eq_error_iff.1 h)) _

/-- A command brings in no coordinates but its own and those of the origin. -/
theorem forall_coordinates_onScene {p : Binary64 → Prop} (hzero : p .zero) {c : Command}
    {path : String} (hc : c.editedPath? = some path) (hcoordinates : ∀ v ∈ c.coordinates, p v)
    {s s' : Scene} (hs : ∀ v ∈ s.coordinates, p v) (h : c.onScene s = .ok s') :
    ∀ v ∈ s'.coordinates, p v := by
  by_cases hnew : ∃ project, c = .create path project
  · obtain ⟨project, rfl⟩ := hnew
    have hempty : s'.coordinates = [] := by
      cases project <;> cases h <;> rfl
    simp [hempty]
  · obtain ⟨answers, hanswers, -⟩ := runAll_edits_of_ok hc hnew h
    have hedits : ∀ e ∈ c.edits, ∀ v ∈ e.coordinates, p v :=
      fun e he v hv => hcoordinates v (List.mem_flatMap.2 ⟨e, he, hv⟩)
    have hafter := Edit.forall_coordinates_runAll hzero hedits hs
    rwa [hanswers] at hafter

/-! ## Runs -/

/-- Whether a run of a command on a path must fail where the path shows a scene:
    the command is refused in memory, or it is to make a file that is there, or
    the file cannot be written, be it for the files or for the disk. -/
def Refused (t : FileTree) (disk : Disk) (path : String) (s : Scene) (c : Command) : Prop :=
  (∃ fault, c.onScene s = .error fault) ∨
    (∃ project, c = .create path project) ∧ t.exists? path = true ∨
    ∀ text t', t.write path text disk ≠ .ok t'

theorem saveAndReport_cases (t : FileTree) (d : Document) (output : String) (disk : Disk) :
    ((∀ text t', t.write d.path text disk ≠ .ok t') ∧
      ∃ message, saveAndReport t d output disk = .failed t "" "" message) ∨
      ∃ t', t.write d.path (d.scene.text .pretty) disk = .ok t' ∧
        saveAndReport t d output disk = .done t' output "" := by
  rw [saveAndReport]
  rcases d.store_cases t disk with ⟨t', hwrite, hstore⟩ | ⟨fault, hwrite, hstore⟩ <;> rw [hstore]
  · exact Or.inr ⟨t', hwrite, rfl⟩
  · refine Or.inl ⟨fun text t' h => ?_, _, rfl⟩
    obtain ⟨t'', h⟩ := FileTree.exists_write h (d.scene.text .pretty)
    rw [hwrite] at h
    cases h

variable (home : String) (disk : Disk) {path : String} {t : FileTree} {c : Command} {d : Document}

/-- How a run ends once the scene for the file is known. -/
theorem run_cases_of_save {s : Scene} (hs : c.onScene d.scene = .ok s)
    (hnew : ¬ ((∃ project, c = .create path project) ∧ t.exists? path = true)) (dirty : Bool)
    (hrun : c.run home t disk = saveAndReport t ⟨s, path, dirty⟩ (c.printedOn d.scene) disk) :
    (c.Refused t disk path d.scene ∧ ∃ message, c.run home t disk = .failed t "" "" message) ∨
      ¬ c.Refused t disk path d.scene ∧ ∃ s t', c.onScene d.scene = .ok s ∧
        t.write path (s.text .pretty) disk = .ok t' ∧
        c.run home t disk = .done t' (c.printedOn d.scene) "" := by
  rw [hrun]
  rcases saveAndReport_cases t ⟨s, path, dirty⟩ (c.printedOn d.scene) disk with
    ⟨hrefuses, hfailed⟩ | ⟨t', hwrite, hdone⟩
  · exact Or.inl ⟨Or.inr (Or.inr hrefuses), hfailed⟩
  · refine Or.inr ⟨?_, s, t', hs, hwrite, hdone⟩
    rintro (⟨fault, hfault⟩ | hexists | hrefuses)
    · rw [hs] at hfault
      cases hfault
    · exact hnew hexists
    · exact hrefuses _ t' hwrite

/-- The run of a command that is not to make a file. -/
theorem run_eq_runEdits (hc : c.editedPath? = some path)
    (hnew : ¬ ∃ project, c = .create path project) :
    c.run home t disk = runEdits t path c.edits disk := by
  cases c with
  | create path project =>
    cases hc
    exact absurd ⟨project, rfl⟩ hnew
  | compile | check | preview => cases hc
  | add | select | move | attach =>
    cases hc
    rfl

/-- **How a run ends that edits a scene**, if its path opens: it is refused and
    touches no file, or it writes the scene that the command makes in memory. -/
theorem run_cases (hc : c.editedPath? = some path) (hopen : Document.open? t path = .ok d) :
    (c.Refused t disk path d.scene ∧ ∃ message, c.run home t disk = .failed t "" "" message) ∨
      ¬ c.Refused t disk path d.scene ∧ ∃ s t', c.onScene d.scene = .ok s ∧
        t.write path (s.text .pretty) disk = .ok t' ∧
        c.run home t disk = .done t' (c.printedOn d.scene) "" := by
  have hpath : d.path = path := (Document.isFinite_of_open? hopen).1
  by_cases hnew : ∃ project, c = .create path project
  · obtain ⟨project, rfl⟩ := hnew
    by_cases hexists : t.exists? path
    · refine Or.inl ⟨Or.inr (Or.inl ⟨⟨project, rfl⟩, hexists⟩), path ++ " already exists", ?_⟩
      rw [run, runCreate, if_pos hexists]
    · obtain rfl : d = ⟨.empty, path, false⟩ := by
        rw [Document.open?, if_neg hexists] at hopen
        cases hopen
        rfl
      cases project with
      | none =>
        refine run_cases_of_save home disk (s := .empty) rfl (fun h => hexists h.2) false ?_
        rw [run, runCreate, if_neg hexists, hopen]
        rfl
      | some name =>
        refine run_cases_of_save home disk (s := .ofProject name) rfl (fun h => hexists h.2)
          false ?_
        rw [run, runCreate, if_neg hexists, hopen]
        rfl
  · cases hs : c.onScene d.scene with
    | error fault =>
      refine Or.inl ⟨Or.inl ⟨fault, hs⟩, fault.message, ?_⟩
      rw [run_eq_runEdits home disk hc hnew, runEdits, hopen]
      dsimp only
      rw [Document.edit_eq_error_iff.2 ⟨_, runAll_edits_of_error hs, rfl⟩]
    | ok s =>
      obtain ⟨answers, hanswers, hprinted⟩ := runAll_edits_of_ok hc hnew hs
      rw [← hs]
      refine run_cases_of_save home disk hs (fun h => hnew h.1) true ?_
      rw [run_eq_runEdits home disk hc hnew, runEdits, hopen]
      dsimp only
      rw [Document.edit_eq_ok_iff.2 ⟨_, hanswers, rfl⟩]
      dsimp only
      rw [hprinted, hpath]

/-- If the path does not open, the run fails. -/
theorem run_of_open?_eq_error {e : LoadError} (hc : c.editedPath? = some path)
    (hopen : Document.open? t path = .error e) :
    ∃ message, c.run home t disk = .failed t "" "" message := by
  by_cases hnew : ∃ project, c = .create path project
  · obtain ⟨project, rfl⟩ := hnew
    have hexists : t.exists? path = true := by
      by_contra hexists
      rw [Document.open?, if_neg hexists] at hopen
      cases hopen
    refine ⟨path ++ " already exists", ?_⟩
    rw [run, runCreate, if_pos hexists]
  · refine ⟨e.context, ?_⟩
    rw [run_eq_runEdits home disk hc hnew, runEdits, hopen]

end Command

end SpriteScene
