/-
  Edits of documents that are refused.

  * `Document.edit_eq_ok_iff` and `Document.edit_eq_error_iff`: what an action on
    the scene leaves behind;
  * `Document.refused_edit_iff`: an edit of several operations that is refused
    leaves the scene as the operations before the refused one made it, and takes
    neither the path nor the dirty mark along;
  * `Change` are the edits that are refused before they did anything, and
    `Document.eq_of_refused_change` says so.

  The dirty mark is therefore no sign of a changed scene if an edit of several
  operations was refused: `Document.refused_edit_changes_scene`.
-/
import SpriteScene.Document
import SpriteScene.Proofs.Scene.Edit

namespace SpriteScene

/-- An edit that is refused at its first operation or not at all: a single
    operation, or a script that is attached and then listed. -/
inductive Change where
  | one (e : Edit)
  | attachListed (id : UInt64) (reference : String)
deriving DecidableEq

/-- The operations of a change. -/
def Change.edits : Change → List Edit
  | .one e => [e]
  | .attachListed id reference => [.attach id reference, .catalog reference]

/-- A change that is refused leaves the scene as it was. -/
theorem Change.eq_of_refused {c : Change} {s s' : Scene} {fault : EditFault}
    (h : Edit.runAll s c.edits = (.error fault, s')) : s' = s := by
  obtain ⟨made, e, later, answers, hedits, hmade, he⟩ := Edit.runAll_eq_error_iff.1 h
  cases made with
  | nil =>
    cases hmade
    rfl
  | cons first made =>
    cases c with
    | one => simp [edits] at hedits
    | attachListed id reference =>
      -- The refused operation would have to be the listing, which never is.
      obtain ⟨rfl, rfl⟩ : made = [] ∧ e = .catalog reference := by
        cases made <;> simp_all [edits]
      cases he

namespace Document

variable {ε α : Type} {d d' : Document} {action : Scene → Except ε α × Scene}

theorem edit_eq_ok_iff {a : α} :
    d.edit action = (.ok a, d') ↔
      ∃ s, action d.scene = (.ok a, s) ∧ d' = { d with scene := s, dirty := true } := by
  rw [edit]
  cases action d.scene with
  | mk result s => cases result <;> simp [Prod.ext_iff, eq_comm]

theorem edit_eq_error_iff {e : ε} :
    d.edit action = (.error e, d') ↔
      ∃ s, action d.scene = (.error e, s) ∧ d' = { d with scene := s } := by
  rw [edit]
  cases action d.scene with
  | mk result s => cases result <;> simp [Prod.ext_iff, eq_comm]

theorem eq_of_refused_change {c : Change} {fault : EditFault}
    (h : d.edit (fun s => Edit.runAll s c.edits) = (.error fault, d')) : d' = d := by
  obtain ⟨s, hs, rfl⟩ := edit_eq_error_iff.1 h
  rw [Change.eq_of_refused hs]

/-- **What a refused edit leaves behind**: the operations before the refused one
    stay done, under the dirty mark of before.  Only a change is refused without a
    trace. -/
theorem refused_edit_iff {es : List Edit} {fault : EditFault} :
    (d.edit (fun s => Edit.runAll s es) = (.error fault, d') ↔
      ∃ made e later answers, es = made ++ e :: later ∧
        Edit.runAll d.scene made = (.ok answers, d'.scene) ∧
        e.perform d'.scene = (.error fault, d'.scene) ∧
        d'.dirty = d.dirty ∧ d'.path = d.path) ∧
      ∀ c : Change, d.edit (fun s => Edit.runAll s c.edits) = (.error fault, d') → d' = d := by
  refine ⟨?_, fun c => eq_of_refused_change⟩
  rw [edit_eq_error_iff]
  constructor
  · rintro ⟨s, hs, rfl⟩
    obtain ⟨made, e, later, answers, hes, hmade, he⟩ := Edit.runAll_eq_error_iff.1 hs
    exact ⟨made, e, later, answers, hes, hmade, he, rfl, rfl⟩
  · rintro ⟨made, e, later, answers, hes, hmade, he, hdirty, hpath⟩
    refine ⟨d'.scene, Edit.runAll_eq_error_iff.2 ⟨made, e, later, answers, hes, hmade, he⟩, ?_⟩
    rw [← hdirty, ← hpath]

/-- An object is added before the selection is refused, and the document is not
    dirty. -/
theorem refused_edit_changes_scene :
    open? ⟨[], []⟩ "scene.json" = .ok ⟨.empty, "scene.json", false⟩ ∧
      (⟨.empty, "scene.json", false⟩ : Document).edit
          (fun s => Edit.runAll s [.add "Player", .select 9]) =
        (.error (.unknownObject 9),
          ⟨⟨none, [⟨1, "Player", .origin, []⟩], none, []⟩, "scene.json", false⟩) ∧
      (⟨none, [⟨1, "Player", .origin, []⟩], none, []⟩ : Scene) ≠ .empty :=
  ⟨rfl, rfl, by decide⟩

end Document

end SpriteScene
