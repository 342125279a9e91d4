/-
  Runs of the program on one file, and the scene they come to in memory.

  * A `Call` asks for a run under a disk; `filesAfter` are the files after the runs
    of calls, and `carriedOut` the commands of those that end with status 0;
  * `Command.run_stable`: a run that fails touches nothing, and one that does not
    leaves the file with the scene that its command makes in memory;
  * `runs_refine_memory`: hence after any runs on a path the file has the scene
    that the commands carried out make in memory, one after the other.
-/
import SpriteScene.Proofs.Command.Run
import SpriteScene.Proofs.Scene.Stable

namespace SpriteScene

/-! ## Runs one after the other -/

/-- A run that is asked for: the arguments, and what the disk makes of its changes. -/
structure Call where
  arguments : List String
  disk : Disk

/-- The files after runs of the program. -/
def filesAfter (home : String) (t : FileTree) (calls : List Call) : FileTree :=
  calls.foldl (fun t call => (runArguments home t call.arguments call.disk).files) t

@[simp] theorem filesAfter_nil (home : String) (t : FileTree) : filesAfter home t [] = t := rfl

@[simp] theorem filesAfter_cons (home : String) (t : FileTree) (call : Call) (calls : List Call) :
    filesAfter home t (call :: calls) =
      filesAfter home (runArguments home t call.arguments call.disk).files calls := rfl

/-- The commands of the runs that end with status 0, in order. -/
def carriedOut (home : String) : FileTree → List Call → List Command
  | _, [] => []
  | t, call :: calls =>
    let outcome := runArguments home t call.arguments call.disk
    let later := carriedOut home outcome.files calls
    match Command.parse call.arguments with
    | .ok c => if outcome.status = 0 then c :: later else later
    | .error _ => later

/-- Whether arguments call for an edit of the scene at a path, or for nothing that
    can be done. -/
def EditsOnly (path : String) (arguments : List String) : Prop :=
  ∀ c, Command.parse arguments = .ok c → c.editedPath? = some path

/-- The words of the editing commands make such arguments, whatever follows the
    path. -/
theorem editsOnly_of_mem {w : String} (h : w ∈ ["new", "add", "select", "move", "attach"])
    (path : String) (rest : List String) : EditsOnly path (w :: path :: rest) := by
  intro c hc
  simp only [List.mem_cons, List.not_mem_nil, or_false] at h
  rcases h with rfl | rfl | rfl | rfl | rfl <;>
    obtain ⟨_, hpath, hc⟩ := bind_eq_ok_iff.1 hc <;> cases hpath
  · cases hc
    rfl
  · obtain ⟨_, hname, hc⟩ := bind_eq_ok_iff.1 hc
    cases hc
    rfl
  · obtain ⟨_, hid, hc⟩ := bind_eq_ok_iff.1 hc
    cases hc
    rfl
  · obtain ⟨_, hid, hc⟩ := bind_eq_ok_iff.1 hc
    obtain ⟨_, hx, hc⟩ := bind_eq_ok_iff.1 hc
    obtain ⟨_, hy, hc⟩ := bind_eq_ok_iff.1 hc
    cases hc
    rfl
  · obtain ⟨_, hid, hc⟩ := bind_eq_ok_iff.1 hc
    obtain ⟨_, hreference, hc⟩ := bind_eq_ok_iff.1 hc
    cases hc
    rfl

variable {home path : String} {t : FileTree} {disk : Disk}

theorem runArguments_of_error {arguments : List String} {fault : ArgumentFault}
    (h : Command.parse arguments = .error fault) :
    runArguments home t arguments disk = .failed t "" "" fault.message := by
  rw [runArguments, h]

theorem runArguments_of_ok {arguments : List String} {c : Command}
    (h : Command.parse arguments = .ok c) :
    runArguments home t arguments disk = c.run home t disk := by
  rw [runArguments, h]

/-! ## One run -/

/-- **One run on a scene of stable coordinates**: it is refused and touches no
    file, or the file has the scene that the command makes in memory. -/
theorem Command.run_stable (home : String) (disk : Disk) {c : Command} {s : Scene}
    (hc : c.editedPath? = some path) (hcoordinates : ∀ v ∈ c.coordinates, v.reread = .ok v)
    (hopen : Document.open? t path = .ok ⟨s, path, false⟩) (hs : s.IsStable) :
    (c.Refused t disk path s ∧ (c.run home t disk).status = 1 ∧
      (c.run home t disk).files = t) ∨
      ¬ c.Refused t disk path s ∧ (c.run home t disk).status = 0 ∧
        (c.run home t disk).output = c.printedOn s ∧
        ∃ s', c.onScene s = .ok s' ∧ s'.IsStable ∧
          (c.run home t disk).files.loadScene path = .ok s' := by
  rcases run_cases home disk hc hopen with
    ⟨hrefused, message, hrun⟩ | ⟨hrefused, s', t', hs', hwrite, hrun⟩
  · rw [hrun]
    exact Or.inl ⟨hrefused, rfl, rfl⟩
  · have hstable : s'.IsStable :=
      forall_coordinates_onScene Binary64.reread_zero hc hcoordinates hs hs'
    have hread : Scene.read (s'.text .pretty) = .ok s' := by
      rw [s'.read_text_eq.2, Scene.reread_of_isStable hstable]
    rw [hrun]
    exact Or.inr ⟨hrefused, rfl, rfl, s', hs', hstable,
      FileTree.loadScene_eq_ok_iff.2 ⟨_, FileTree.read_of_write hwrite, hread⟩⟩

/-! ## All runs -/

theorem carriedOut_cons_of_error {call : Call} {fault : ArgumentFault}
    (h : Command.parse call.arguments = .error fault) (calls : List Call) :
    carriedOut home t (call :: calls) = carriedOut home t calls := by
  simp only [carriedOut, h, runArguments_of_error h, Outcome.failed]

theorem carriedOut_cons_of_failed {call : Call} {c : Command}
    (h : Command.parse call.arguments = .ok c) (hstatus : (c.run home t call.disk).status = 1)
    (hfiles : (c.run home t call.disk).files = t) (calls : List Call) :
    carriedOut home t (call :: calls) = carriedOut home t calls := by
  simp only [carriedOut, h, runArguments_of_ok h, hstatus, hfiles]
  rfl

theorem carriedOut_cons_of_done {call : Call} {c : Command}
    (h : Command.parse call.arguments = .ok c) (hstatus : (c.run home t call.disk).status = 0)
    (calls : List Call) :
    carriedOut home t (call :: calls) =
      c :: carriedOut home (runArguments home t call.arguments call.disk).files calls := by
  simp only [carriedOut, h, runArguments_of_ok h, hstatus, if_true]

/-- The scene in memory follows the one in the file along all runs. -/
theorem exists_scene_of_runs (home : String) {s : Scene}
    (hopen : Document.open? t path = .ok ⟨s, path, false⟩) (hs : s.IsStable)
    {calls : List Call} (hcalls : ∀ call ∈ calls, EditsOnly path call.arguments)
    (hcoordinates : ∀ call ∈ calls, ∀ c, Command.parse call.arguments = .ok c →
      ∀ v ∈ c.coordinates, v.reread = .ok v) :
    ∃ s', (carriedOut home t calls).foldlM Command.onScene s = .ok s' ∧
      (filesAfter home t calls = t ∧ carriedOut home t calls = [] ∨
        (filesAfter home t calls).loadScene path = .ok s') := by
  induction calls generalizing t s with
  | nil => exact ⟨s, rfl, Or.inl ⟨rfl, rfl⟩⟩
  | cons call calls ih =>
    rw [List.forall_mem_cons] at hcalls hcoordinates
    rw [filesAfter_cons]
    cases hparse : Command.parse call.arguments with
    | error fault =>
      rw [carriedOut_cons_of_error hparse, runArguments_of_error hparse]
      exact ih hopen hs hcalls.2 hcoordinates.2
    | ok c =>
      rcases Command.run_stable home call.disk (hcalls.1 c hparse) (hcoordinates.1 c hparse)
        hopen hs with ⟨-, hstatus, hfiles⟩ | ⟨-, hstatus, -, s₁, hs₁, hstable, hload⟩
      · rw [carriedOut_cons_of_failed hparse hstatus hfiles, runArguments_of_ok hparse, hfiles]
        exact ih hopen hs hcalls.2 hcoordinates.2
      · rw [← runArguments_of_ok hparse] at hload
        have hopen₁ : Document.open? (runArguments home t call.arguments call.disk).files path =
            .ok ⟨s₁, path, false⟩ := Document.open?_eq_ok_iff.2 ⟨rfl, rfl, Or.inr hload⟩
        obtain ⟨s', hs', hafter⟩ := ih hopen₁ hstable hcalls.2 hcoordinates.2
        refine ⟨s', ?_, Or.inr ?_⟩
        · rw [carriedOut_cons_of_done hparse hstatus, List.foldlM_cons, hs₁]
          exact hs'
        · rcases hafter with ⟨hfiles, hnone⟩ | hload'
          · rw [hnone] at hs'
            cases hs'
            rw [hfiles]
            exact hload
          · exact hload'

/-- **The program on one file does what its commands do in memory.**  After any
    runs on a path, each under a disk of its own, the scene of the file is the one
    that the commands carried out make of the scene at the start, one after the
    other; there is no file only as long as none was carried out.  The next run then
    fails iff its arguments are bad or its command is refused, and one that adds an
    object prints the id that the object gets in memory. -/
theorem runs_refine_memory (home : String) {s : Scene}
    (hstart : t.exists? path = false ∧ s = .empty ∨ t.loadScene path = .ok s)
    (hs : ∀ v ∈ s.coordinates, v.reread = .ok v) {calls : List Call}
    (hcalls : ∀ call ∈ calls, EditsOnly path call.arguments)
    (hcoordinates : ∀ call ∈ calls, ∀ c, Command.parse call.arguments = .ok c →
      ∀ v ∈ c.coordinates, v.reread = .ok v)
    {t' : FileTree} (ht' : filesAfter home t calls = t') :
    ∃ s', (carriedOut home t calls).foldlM Command.onScene s = .ok s' ∧
      (t'.exists? path = false ∧ carriedOut home t calls = [] ∨ t'.loadScene path = .ok s') ∧
      ∀ arguments disk, EditsOnly path arguments →
        ((runArguments home t' arguments disk).status = 1 ↔
          (∃ fault, Command.parse arguments = .error fault) ∨
            ∃ c, Command.parse arguments = .ok c ∧ c.Refused t' disk path s') ∧
        ((runArguments home t' arguments disk).status = 0 ∨
          (runArguments home t' arguments disk).status = 1) ∧
        ∀ name, Command.parse arguments = .ok (.add path name) →
          (runArguments home t' arguments disk).status = 0 →
          ∃ id, Edit.run s' (.add name) = .ok (.added id, s'.addObject name) ∧
            (runArguments home t' arguments disk).output = toString id ++ "\n" := by
  have hopen : Document.open? t path = .ok ⟨s, path, false⟩ :=
    Document.open?_eq_ok_iff.2 ⟨rfl, rfl, hstart⟩
  obtain ⟨s', hs', hafter⟩ := exists_scene_of_runs home hopen hs hcalls hcoordinates
  rw [ht'] at hafter
  have hopen' : Document.open? t' path = .ok ⟨s', path, false⟩ := by
    rcases hafter with ⟨rfl, hnone⟩ | hload
    · rw [hnone] at hs'
      cases hs'
      exact hopen
    · exact Document.open?_eq_ok_iff.2 ⟨rfl, rfl, Or.inr hload⟩
  refine ⟨s', hs', ?_, fun arguments disk harguments => ?_⟩
  · obtain ⟨-, -, ⟨habsent, -⟩ | hload⟩ := Document.open?_eq_ok_iff.1 hopen'
    · rcases hafter with ⟨-, hnone⟩ | hload
      · exact Or.inl ⟨habsent, hnone⟩
      · exact Or.inr hload
    · exact Or.inr hload
  · cases hparse : Command.parse arguments with
    | error fault =>
      rw [runArguments_of_error hparse]
      simp [Outcome.failed]
    | ok c =>
      rw [runArguments_of_ok hparse]
      rcases Command.run_cases home disk (harguments c hparse) hopen' with
        ⟨hrefused, message, hrun⟩ | ⟨hrefused, s₁, t₁, -, -, hrun⟩
      · rw [hrun]
        simp [Outcome.failed, hrefused]
      · rw [hrun]
        simp only [Outcome.done]
        refine ⟨?_, Or.inl trivial, ?_⟩
        · simp [hrefused]
        · rintro name hadd -
          cases hadd
          exact ⟨s'.nextId, rfl, rfl⟩

/-- Three runs: nothing can be moved yet, an object finds the disk full, and another
    one is added. -/
def firstRuns : List Call :=
  [⟨["move", "scene.json", "1", "12.5", "-0.5"], .willing⟩,
    ⟨["add", "scene.json", "Crate"], .full⟩, ⟨["add", "scene.json", "Player"], .willing⟩]

theorem runs_refine_memory_firstRuns :
    (filesAfter "." ⟨[], []⟩ firstRuns).loadScene "scene.json" =
        .ok ⟨none, [⟨1, "Player", .origin, []⟩], none, []⟩ ∧
      (runArguments "." (filesAfter "." ⟨[], []⟩ firstRuns)
        ["select", "scene.json", "9"]).status = 1 := by
  have hstart : (⟨[], []⟩ : FileTree).exists? "scene.json" = false ∧ Scene.empty = .empty ∨
      (⟨[], []⟩ : FileTree).loadScene "scene.json" = .ok Scene.empty := Or.inl ⟨rfl, rfl⟩
  have hstable : ∀ v ∈ Scene.empty.coordinates, v.reread = .ok v :=
    fun _ hv => absurd hv List.not_mem_nil
  obtain ⟨x, y, hmove, hx, hy⟩ : ∃ x y, Command.parse ["move", "scene.json", "1", "12.5", "-0.5"] =
      .ok (.move "scene.json" 1 ⟨x, y⟩) ∧ x.IsShort ∧ y.IsShort :=
    ⟨.ofDecimal false 125 1, .ofDecimal true 5 1, by decide +kernel,
      Binary64.isShort_ofDecimal false (by decide) (Or.inr (by decide)),
      Binary64.isShort_ofDecimal true (by decide) (Or.inr (by decide))⟩
  have hadd (name : String) :
      Command.parse ["add", "scene.json", name] = .ok (.add "scene.json" name) := rfl
  have hcalls : ∀ call ∈ firstRuns, EditsOnly "scene.json" call.arguments := by
    refine List.forall_mem_cons.2 ⟨?_, List.forall_mem_cons.2 ⟨?_, List.forall_mem_singleton.2 ?_⟩⟩
    · exact editsOnly_of_mem (w := "move") (by decide) _ _
    · exact editsOnly_of_mem (w := "add") (by decide) _ _
    · exact editsOnly_of_mem (w := "add") (by decide) _ _
  have hcoordinates : ∀ call ∈ firstRuns, ∀ c, Command.parse call.arguments = .ok c →
      ∀ v ∈ c.coordinates, v.reread = .ok v := by
    refine List.forall_mem_cons.2 ⟨fun c hc => ?_, List.forall_mem_cons.2 ⟨fun c hc => ?_,
      List.forall_mem_singleton.2 fun c hc => ?_⟩⟩
    · cases hmove.symm.trans hc
      exact List.forall_mem_cons.2
        ⟨hx.reread_eq_ok, List.forall_mem_singleton.2 hy.reread_eq_ok⟩
    · cases (hadd "Crate").symm.trans hc
      exact fun _ hv => absurd hv List.not_mem_nil
    · cases (hadd "Player").symm.trans hc
      exact fun _ hv => absurd hv List.not_mem_nil
  have hcarried : carriedOut "." ⟨[], []⟩ firstRuns = [.add "scene.json" "Player"] := by
    decide +kernel
  obtain ⟨s', hs', hfile, hnext⟩ :=
    runs_refine_memory "." hstart hstable hcalls hcoordinates rfl
  rw [hcarried] at hs' hfile
  cases hs'
  have hselect : EditsOnly "scene.json" ["select", "scene.json", "9"] :=
    editsOnly_of_mem (w := "select") (by decide) _ _
  have hpresent := hfile.resolve_left fun h => List.cons_ne_nil _ _ h.2
  refine ⟨hpresent, (hnext _ _ hselect).1.2 (Or.inr ?_)⟩
  exact ⟨.select "scene.json" 9, rfl, Or.inl ⟨.unknownObject 9, rfl⟩⟩

end SpriteScene
