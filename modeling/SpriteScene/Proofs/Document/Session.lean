/-
  A document that is open, and the file it belongs to.

  * A `Session` is an open document beside the tree of files; in an `Event` the
    document is changed, or saved to a disk that may refuse it;
  * `Session.Reachable` are the states of a run from a successful opening;
  * `Session.clean_reopens`: in all of them a document that is not dirty is what
    its path opens as, and nothing but a successful save touches the files.
-/
import SpriteScene.Proofs.Document.Edit
import SpriteScene.Proofs.Document.Reopen
import SpriteScene.Proofs.Scene.Stable

namespace SpriteScene

/-- An open document and the files. -/
structure Session where
  files : FileTree
  document : Document

namespace Session

open Document

/-- What can happen to an open document. -/
inductive Event where
  | edit (c : Change)
  | save (disk : Disk)

/-- The session after an event, be it successful or not. -/
def next (w : Session) : Event → Session
  | .edit c => { w with document := (w.document.edit fun s => Edit.runAll s c.edits).2 }
  | .save disk =>
    match w.document.store w.files disk with
    | (_, d, t) => ⟨t, d⟩

/-- The states of a run that starts with opening a path, if at every save the
    coordinates are read as what they are. -/
inductive Reachable (t : FileTree) (path : String) : Session → Prop
  | opened {d : Document} (h : open? t path = .ok d) : Reachable t path ⟨t, d⟩
  | next {w : Session} (h : Reachable t path w) (e : Event)
      (hstable : ∀ disk, e = .save disk → w.document.scene.IsStable) :
      Reachable t path (w.next e)

/-- Whether a session has the document of a path, and what the path opens as if
    the document is not dirty. -/
structure Faithful (path : String) (w : Session) : Prop where
  path_eq : w.document.path = path
  open_of_clean : w.document.dirty = false → open? w.files path = .ok w.document

theorem next_save_of_store {w : Session} {disk : Disk} {result : Except FileError Unit}
    {d : Document} {t : FileTree} (h : w.document.store w.files disk = (result, d, t)) :
    w.next (.save disk) = ⟨t, d⟩ := by
  rw [next, h]

/-- A document that is opened is not dirty and has the path. -/
theorem faithful_of_open? {t : FileTree} {path : String} {d : Document}
    (h : open? t path = .ok d) : Faithful path ⟨t, d⟩ :=
  ⟨(isFinite_of_open? h).1, fun _ => h⟩

/-- A change that is refused leaves the document as it was, and any other makes it
    dirty. -/
theorem Faithful.next_edit {path : String} {w : Session} (h : Faithful path w) (c : Change) :
    Faithful path (w.next (.edit c)) := by
  rw [next]
  cases hedit : w.document.edit fun s => Edit.runAll s c.edits with
  | mk result d =>
    cases result with
    | error fault =>
      rw [eq_of_refused_change hedit]
      exact h
    | ok answers =>
      obtain ⟨s, -, rfl⟩ := edit_eq_ok_iff.1 hedit
      exact ⟨h.path_eq, fun hclean => by cases hclean⟩

/-- A save that succeeds makes the path open as the document, and one that fails
    leaves all as it was. -/
theorem Faithful.next_save {path : String} {w : Session} (h : Faithful path w)
    (hstable : w.document.scene.IsStable) (disk : Disk) :
    Faithful path (w.next (.save disk)) := by
  rcases w.document.store_cases w.files disk with ⟨t, hwrite, hstore⟩ | ⟨fault, -, hstore⟩ <;>
    rw [next_save_of_store hstore]
  · have hreopen :=
      open?_of_save_of_reread (save_eq_ok_iff.2 ⟨hwrite, rfl⟩) (Scene.reread_of_isStable hstable)
    rw [h.path_eq] at hreopen
    refine ⟨h.path_eq, fun _ => ?_⟩
    rw [hreopen, ← h.path_eq]
  · exact h

theorem Reachable.faithful {t : FileTree} {path : String} {w : Session}
    (h : Reachable t path w) : Faithful path w := by
  induction h with
  | opened hopen => exact faithful_of_open? hopen
  | next _ e hstable ih =>
    cases e with
    | edit c => exact ih.next_edit c
    | save disk => exact ih.next_save (hstable disk rfl) disk

/-- Only a save that succeeds touches the files. -/
theorem files_next (w : Session) (e : Event) :
    (w.next e).files = w.files ∨ ∃ disk, e = .save disk ∧
      w.document.store w.files disk = (.ok (), (w.next e).document, (w.next e).files) := by
  cases e with
  | edit c => exact Or.inl rfl
  | save disk =>
    rcases w.document.store_cases w.files disk with ⟨t, -, hstore⟩ | ⟨fault, -, hstore⟩ <;>
      rw [next_save_of_store hstore]
    · exact Or.inr ⟨disk, rfl, hstore⟩
    · exact Or.inl rfl

/-- **A document that is not dirty is what its file holds**, in every state of a
    run.  The files change at a save that succeeds and at nothing else; it puts
    the pretty text of the scene into the file and clears the dirty mark.  A save
    that fails, for the files or for the disk, changes nothing. -/
theorem clean_reopens {t : FileTree} {path : String} {w : Session} (hw : Reachable t path w) :
    (w.document.dirty = false → open? w.files path = .ok w.document) ∧
      (∀ disk d t', w.document.store w.files disk = (.ok (), d, t') →
        w.next (.save disk) = ⟨t', d⟩ ∧ t'.read path = .ok (w.document.scene.text .pretty) ∧
          d = { w.document with dirty := false }) ∧
      (∀ disk e d t', w.document.store w.files disk = (.error e, d, t') →
        w.next (.save disk) = w) ∧
      ∀ e, (w.next e).files = w.files ∨ ∃ disk, e = .save disk ∧
        w.document.store w.files disk = (.ok (), (w.next e).document, (w.next e).files) := by
  refine ⟨hw.faithful.open_of_clean, fun disk d t' hstore => ?_, fun disk e d t' hstore => ?_,
    w.files_next⟩
  · obtain ⟨hwrite, hd⟩ := store_eq_ok_iff.1 hstore
    rw [hw.faithful.path_eq] at hwrite
    exact ⟨next_save_of_store hstore, FileTree.read_of_write hwrite, hd⟩
  · obtain ⟨rfl, rfl⟩ := eq_of_store_eq_error hstore
    exact next_save_of_store hstore

/-- A run with an object added and moved, a script that no object takes, a save
    that the disk refuses, and one that it takes. -/
theorem clean_reopens_shortScene :
    Reachable ⟨[], []⟩ "scene.json"
        ⟨savedTree shortScene, ⟨shortScene, "scene.json", false⟩⟩ ∧
      open? (savedTree shortScene) "scene.json" = .ok ⟨shortScene, "scene.json", false⟩ := by
  have hopened : Reachable ⟨[], []⟩ "scene.json" ⟨⟨[], []⟩, ⟨.empty, "scene.json", false⟩⟩ :=
    .opened rfl
  have hedited : Reachable ⟨[], []⟩ "scene.json" ⟨⟨[], []⟩, ⟨shortScene, "scene.json", true⟩⟩ :=
    ((hopened.next (.edit (.one (.add "Player"))) nofun).next
      (.edit (.one (.move 1 ⟨.ofDecimal false 15 1, .ofDecimal true 1 1⟩))) nofun).next
      (.edit (.attachListed 9 "Jump.ts")) nofun
  have hx : (Binary64.ofDecimal false 15 1).IsShort :=
    Binary64.isShort_ofDecimal false (by decide) (Or.inr (by decide))
  have hy : (Binary64.ofDecimal true 1 1).IsShort :=
    Binary64.isShort_ofDecimal true (by decide) (Or.inr (by decide))
  have hcoordinates : shortScene.coordinates =
      [Binary64.ofDecimal false 15 1, Binary64.ofDecimal true 1 1] := by
    simp only [Scene.coordinates, shortScene, List.flatMap_cons, List.flatMap_nil, List.append_nil]
  have hstable : shortScene.IsStable := by
    rw [Scene.IsStable, hcoordinates]
    exact List.forall_mem_cons.2 ⟨hx.reread_eq_ok, List.forall_mem_singleton.2 hy.reread_eq_ok⟩
  have hrefused := hedited.next (.save .full) fun _ _ => hstable
  have hsaved := Reachable.next (w := ⟨⟨[], []⟩, ⟨shortScene, "scene.json", true⟩⟩) hrefused
    (.save .willing) fun _ _ => hstable
  rw [next_save_of_store (store_emptyTree shortScene true)] at hsaved
  exact ⟨hsaved, (clean_reopens hsaved).1 rfl⟩

end Session

end SpriteScene
