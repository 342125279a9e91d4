/-
  Documents that are saved and opened again.

  * `Document.open?_eq_ok_iff`: what a path opens as;
  * `Document.store_eq_ok_iff` and `Document.eq_of_store_eq_error`: what a save does
    that succeeds, and that one that fails does nothing;
  * `Document.open?_of_save`: after a successful save the path opens as the scene
    with each coordinate as its text is read, or not at all;
  * `Document.reopened_eq_saved_iff`: when that is the document that was saved;
  * `Document.editAll` makes edits one after the other; a document that was
    opened has finite coordinates (`isFinite_of_open?`), until an edit brings in
    others (`isFinite_editAll`);
  * `Document.exists_open?_iff_of_save`: hence when a document can be opened
    again at all.
-/
import SpriteScene.Document
import SpriteScene.Proofs.Files.Write
import SpriteScene.Proofs.Scene.Finite

namespace SpriteScene

/-! ## Opening -/

theorem FileTree.loadScene_eq_ok_iff {t : FileTree} {path : String} {s : Scene} :
    t.loadScene path = .ok s ↔ ∃ text, t.read path = .ok text ∧ Scene.read text = .ok s := by
  rw [loadScene, readText]
  cases t.read path with
  | error => simp
  | ok text => cases h : Scene.read text <;> simp [h]

theorem FileTree.exists?_of_loadScene {t : FileTree} {path : String} {s : Scene}
    (h : t.loadScene path = .ok s) : t.exists? path = true := by
  obtain ⟨text, hread, -⟩ := loadScene_eq_ok_iff.1 h
  obtain ⟨content, hfind, -⟩ := read_eq_ok_iff.1 hread
  rw [exists?, hfind]
  rfl

namespace Document

open Json

/-- A document opens as the empty scene or as the one in its file, and is not
    dirty. -/
theorem open?_eq_ok_iff {t : FileTree} {path : String} {d : Document} :
    open? t path = .ok d ↔ d.path = path ∧ d.dirty = false ∧
      (t.exists? path = false ∧ d.scene = .empty ∨ t.loadScene path = .ok d.scene) := by
  obtain ⟨scene, path', dirty⟩ := d
  rw [open?]
  by_cases hexists : t.exists? path
  · rw [if_pos hexists]
    cases hload : t.loadScene path <;> simp [hexists, eq_comm, and_assoc, and_left_comm, and_comm]
  · have hload : t.loadScene path ≠ .ok scene := fun h => hexists (FileTree.exists?_of_loadScene h)
    rw [if_neg hexists]
    simp [hexists, hload, eq_comm, and_assoc, and_left_comm, and_comm]

/-! ## Saving -/

/-- A save writes the pretty text and clears the dirty mark, or it leaves document and
    files as they were. -/
theorem store_cases (t : FileTree) (d : Document) (disk : Disk) :
    (∃ t', t.write d.path (d.scene.text .pretty) disk = .ok t' ∧
      d.store t disk = (.ok (), { d with dirty := false }, t')) ∨
      ∃ fault, t.write d.path (d.scene.text .pretty) disk = .error fault ∧
        d.store t disk = (.error (.writing d.path fault), d, t) := by
  rw [store, FileTree.writeText]
  cases t.write d.path (d.scene.text .pretty) disk with
  | error fault => exact Or.inr ⟨fault, rfl, rfl⟩
  | ok t' => exact Or.inl ⟨t', rfl, rfl⟩

theorem store_eq_ok_iff {t t' : FileTree} {d d' : Document} {disk : Disk} :
    d.store t disk = (.ok (), d', t') ↔
      t.write d.path (d.scene.text .pretty) disk = .ok t' ∧ d' = { d with dirty := false } := by
  rcases store_cases t d disk with ⟨t₁, hwrite, hstore⟩ | ⟨fault, hwrite, hstore⟩ <;>
    simp [hwrite, hstore, and_comm, eq_comm]

/-- **A save that fails leaves document and files as they were.** -/
theorem eq_of_store_eq_error {t t' : FileTree} {d d' : Document} {disk : Disk} {e : FileError}
    (h : d.store t disk = (.error e, d', t')) : d' = d ∧ t' = t := by
  rcases store_cases t d disk with ⟨t₁, -, hstore⟩ | ⟨fault, -, hstore⟩ <;>
    cases hstore.symm.trans h
  exact ⟨rfl, rfl⟩

theorem save_eq_ok_iff {t t' : FileTree} {d d' : Document} {disk : Disk} :
    d.save t disk = .ok (d', t') ↔
      t.write d.path (d.scene.text .pretty) disk = .ok t' ∧ d' = { d with dirty := false } := by
  have hsave : d.save t disk = .ok (d', t') ↔ d.store t disk = (.ok (), d', t') := by
    rw [save]
    obtain ⟨_ | _, _, _⟩ := d.store t disk <;> simp
  exact hsave.trans store_eq_ok_iff

/-- After a successful save the path opens as what the text of the scene is read
    as. -/
theorem open?_of_save {t t' : FileTree} {d d' : Document} {disk : Disk}
    (h : d.save t disk = .ok (d', t')) :
    open? t' d.path =
      match d.scene.reread with
      | .ok scene => .ok ⟨scene, d.path, false⟩
      | .error fault => .error (.text d.path fault) := by
  obtain ⟨hwrite, -⟩ := save_eq_ok_iff.1 h
  rw [open?, if_pos (FileTree.exists?_of_write hwrite), FileTree.loadScene, FileTree.readText,
    FileTree.read_of_write hwrite]
  dsimp only
  rw [d.scene.read_text_eq.2]
  cases d.scene.reread <;> rfl

theorem open?_of_save_of_reread {t t' : FileTree} {d d' : Document} {s : Scene} {disk : Disk}
    (h : d.save t disk = .ok (d', t')) (hs : d.scene.reread = .ok s) :
    open? t' d.path = .ok ⟨s, d.path, false⟩ := by
  rw [open?_of_save h, hs]

/-- A document with finite coordinates opens again, with each coordinate as its
    text is read. -/
theorem open?_of_save_of_isFinite {t t' : FileTree} {d d' : Document} {disk : Disk}
    (h : d.save t disk = .ok (d', t')) (hd : d.scene.IsFinite) :
    open? t' d.path = .ok ⟨d.scene.mapCoordinates Binary64.afterReading, d.path, false⟩ :=
  open?_of_save_of_reread h (Scene.reread_of_isFinite hd)

/-- Any other document is not opened again. -/
theorem open?_eq_error_of_save {t t' : FileTree} {d d' : Document} {disk : Disk}
    (h : d.save t disk = .ok (d', t')) (hd : ¬ d.scene.IsFinite) :
    open? t' d.path = .error (.text d.path (.mismatch (.wrongKind .null "f64"))) := by
  rw [open?_of_save h, Scene.reread_eq_error hd]

/-- **What is left of a document after it was saved**, if its coordinates are
    finite: the same document, but for the coordinates whose text is read as
    another number.  Numbers of at most fifteen digits are not among them. -/
theorem reopened_eq_saved_iff {t t' : FileTree} {d d' : Document} {disk : Disk}
    (hfinite : ∀ v ∈ d.scene.coordinates, v.isFinite) (hsave : d.save t disk = .ok (d', t')) :
    open? t' d.path = .ok ⟨d.scene.mapCoordinates Binary64.afterReading, d.path, false⟩ ∧
      (open? t' d.path = .ok d' ↔ ∀ v ∈ d.scene.coordinates, v.reread = .ok v) ∧
      ((∀ v ∈ d.scene.coordinates, v.IsShort) → open? t' d.path = .ok d') := by
  have hopen := open?_of_save_of_isFinite hsave (Scene.isFinite_iff.2 hfinite)
  have hiff : open? t' d.path = .ok d' ↔ ∀ v ∈ d.scene.coordinates, v.reread = .ok v := by
    rw [hopen, (save_eq_ok_iff.1 hsave).2]
    simp only [Except.ok.injEq, Document.mk.injEq, and_true, Scene.mapCoordinates_eq_self_iff]
    refine forall₂_congr fun v hv => ?_
    rw [(Binary64.reread_eq_ok (hfinite v hv)).1, Except.ok.injEq]
  exact ⟨hopen, hiff, fun h => hiff.2 fun v hv => (h v hv).reread_eq_ok⟩

/-! ### Two documents -/

/-- A tree with a saved scene and nothing else. -/
def savedTree (s : Scene) : FileTree := ⟨[(["scene.json"], .file (s.text .pretty).toUTF8)], []⟩

theorem store_emptyTree (s : Scene) (dirty : Bool) :
    store ⟨[], []⟩ ⟨s, "scene.json", dirty⟩ =
      (.ok (), ⟨s, "scene.json", false⟩, savedTree s) := by
  have hwrite (text : String) : FileTree.write ⟨[], []⟩ "scene.json" text =
      .ok ⟨[(["scene.json"], .file text.toUTF8)], []⟩ := rfl
  rw [store, FileTree.writeText, hwrite]
  rfl

theorem save_emptyTree (s : Scene) (dirty : Bool) :
    save ⟨[], []⟩ ⟨s, "scene.json", dirty⟩ = .ok (⟨s, "scene.json", false⟩, savedTree s) := by
  rw [save, store_emptyTree]

/-- A scene with one object, at `1.5` and `-0.1`. -/
def shortScene : Scene where
  project := none
  objects := [⟨1, "Player", ⟨.ofDecimal false 15 1, .ofDecimal true 1 1⟩, []⟩]
  selected := none
  catalog := []

theorem reopened_eq_saved_shortScene :
    (∀ v ∈ shortScene.coordinates, v.isFinite) ∧
      save ⟨[], []⟩ ⟨shortScene, "scene.json", true⟩ =
        .ok (⟨shortScene, "scene.json", false⟩, savedTree shortScene) ∧
      (∀ v ∈ shortScene.coordinates, v.IsShort) ∧
      open? (savedTree shortScene) "scene.json" = .ok ⟨shortScene, "scene.json", false⟩ := by
  have hfinite : ∀ v ∈ shortScene.coordinates, v.isFinite := by decide +kernel
  have hsave := save_emptyTree shortScene true
  have hx : (Binary64.ofDecimal false 15 1).IsShort :=
    Binary64.isShort_ofDecimal false (by decide) (Or.inr (by decide))
  have hy : (Binary64.ofDecimal true 1 1).IsShort :=
    Binary64.isShort_ofDecimal true (by decide) (Or.inr (by decide))
  have hcoordinates : shortScene.coordinates =
      [Binary64.ofDecimal false 15 1, Binary64.ofDecimal true 1 1] := by
    simp only [Scene.coordinates, shortScene, List.flatMap_cons, List.flatMap_nil, List.append_nil]
  have hshort : ∀ v ∈ shortScene.coordinates, v.IsShort := by
    rw [hcoordinates]
    exact List.forall_mem_cons.2 ⟨hx, List.forall_mem_singleton.2 hy⟩
  exact ⟨hfinite, hsave, hshort, (reopened_eq_saved_iff hfinite hsave).2.2 hshort⟩

/-- A scene with one object, next to the line through one. -/
def nearlyOneScene : Scene := ⟨none, [⟨1, "Player", ⟨.nearlyOne, .zero⟩, []⟩], none, []⟩

theorem isFinite_nearlyOneScene : ∀ v ∈ nearlyOneScene.coordinates, v.isFinite :=
  Scene.isFinite_iff.1 (List.forall_mem_singleton.2 ⟨rfl, rfl⟩)

/-- The object is on the line when the document is opened again. -/
theorem reopened_ne_saved :
    save ⟨[], []⟩ ⟨nearlyOneScene, "scene.json", true⟩ =
        .ok (⟨nearlyOneScene, "scene.json", false⟩, savedTree nearlyOneScene) ∧
      (∀ v ∈ nearlyOneScene.coordinates, v.isFinite) ∧
      open? (savedTree nearlyOneScene) "scene.json" =
        .ok ⟨⟨none, [⟨1, "Player", ⟨.one, .zero⟩, []⟩], none, []⟩, "scene.json", false⟩ ∧
      Binary64.one ≠ .nearlyOne := by
  have hsave := save_emptyTree nearlyOneScene true
  have hzero : Binary64.zero.reread = .ok .zero :=
    Binary64.IsShort.reread_eq_ok ⟨false, 0, 0, by decide, Or.inl rfl, rfl⟩
  have hscene : nearlyOneScene.reread =
      .ok ⟨none, [⟨1, "Player", ⟨.one, .zero⟩, []⟩], none, []⟩ := by
    rw [Scene.reread, nearlyOneScene, List.mapM_cons, SceneObject.reread]
    simp only [Binary64.reread_nearlyOne, hzero]
    rfl
  have hopen := open?_of_save_of_reread hsave hscene
  exact ⟨hsave, isFinite_nearlyOneScene, hopen, by decide⟩

/-! ## Editing -/

/-- A document after edits, each of them some steps on the scene up to the first
    that is refused. -/
def editAll (d : Document) (edits : List (List Edit)) : Document :=
  edits.foldl (fun d es => (d.edit fun s => Edit.runAll s es).2) d

theorem edit_runAll (d : Document) (es : List Edit) :
    (d.edit fun s => Edit.runAll s es).2.scene = (Edit.runAll d.scene es).2 ∧
      (d.edit fun s => Edit.runAll s es).2.path = d.path := by
  rw [edit]
  cases Edit.runAll d.scene es with
  | mk result scene => cases result <;> exact ⟨rfl, rfl⟩

theorem path_editAll (d : Document) (edits : List (List Edit)) :
    (d.editAll edits).path = d.path := by
  induction edits generalizing d with
  | nil => rfl
  | cons es edits ih => exact (ih _).trans (d.edit_runAll es).2

/-- Edits keep the coordinates finite unless they bring in others. -/
theorem isFinite_editAll {d : Document} (hd : d.scene.IsFinite) {edits : List (List Edit)}
    (h : ∀ es ∈ edits, ∀ e ∈ es, e.IsFinite) : (d.editAll edits).scene.IsFinite := by
  induction edits generalizing d with
  | nil => exact hd
  | cons es edits ih =>
    rw [List.forall_mem_cons] at h
    refine ih ?_ h.2
    rw [(d.edit_runAll es).1]
    exact Edit.isFinite_runAll h.1 hd

/-- A document that is opened has finite coordinates. -/
theorem isFinite_of_open? {t : FileTree} {path : String} {d : Document}
    (h : open? t path = .ok d) : d.path = path ∧ d.scene.IsFinite := by
  obtain ⟨hpath, -, ⟨-, hempty⟩ | hload⟩ := open?_eq_ok_iff.1 h
  · rw [hempty]
    exact ⟨hpath, fun o ho => absurd ho List.not_mem_nil⟩
  · obtain ⟨text, -, hread⟩ := FileTree.loadScene_eq_ok_iff.1 hload
    exact ⟨hpath, Scene.isFinite_of_read hread⟩

/-- **When a saved document can be opened again**: iff its coordinates are finite,
    and these are, unless an edit since it was opened brought in others. -/
theorem exists_open?_iff_of_save {t₀ : FileTree} {path : String} {d₀ : Document}
    (hopen : open? t₀ path = .ok d₀) (edits : List (List Edit)) {t t' : FileTree} {d' : Document}
    {disk : Disk} (hsave : (d₀.editAll edits).save t disk = .ok (d', t')) :
    ((∃ d, open? t' path = .ok d) ↔ ∀ v ∈ (d₀.editAll edits).scene.coordinates, v.isFinite) ∧
      ((∀ es ∈ edits, ∀ e ∈ es, e.IsFinite) → ∃ d, open? t' path = .ok d) ∧
      ((∃ v ∈ (d₀.editAll edits).scene.coordinates, v.isFinite = false) →
        open? t' path = .error (.text path (.mismatch (.wrongKind .null "f64")))) := by
  obtain ⟨hpath, hfinite⟩ := isFinite_of_open? hopen
  have hpath' : (d₀.editAll edits).path = path := (path_editAll d₀ edits).trans hpath
  have hreopen (h : (d₀.editAll edits).scene.IsFinite) : ∃ d, open? t' path = .ok d :=
    ⟨_, hpath' ▸ open?_of_save_of_isFinite hsave h⟩
  have herror (h : ¬ (d₀.editAll edits).scene.IsFinite) :
      open? t' path = .error (.text path (.mismatch (.wrongKind .null "f64"))) :=
    hpath' ▸ open?_eq_error_of_save hsave h
  rw [← Scene.isFinite_iff]
  refine ⟨⟨?_, hreopen⟩, fun h => hreopen (isFinite_editAll hfinite h), ?_⟩
  · rintro ⟨d, hd⟩
    by_contra hinfinite
    rw [herror hinfinite] at hd
    cases hd
  · rintro ⟨v, hv, hinfinite⟩
    refine herror fun h => ?_
    rw [Scene.isFinite_iff.1 h v hv] at hinfinite
    cases hinfinite

theorem exists_open?_iff_of_save_nearlyOneScene :
    open? ⟨[], []⟩ "scene.json" = .ok ⟨.empty, "scene.json", false⟩ ∧
      editAll ⟨.empty, "scene.json", false⟩ [[.add "Player"], [.move 1 ⟨.nearlyOne, .zero⟩]] =
        ⟨nearlyOneScene, "scene.json", true⟩ ∧
      save ⟨[], []⟩ ⟨nearlyOneScene, "scene.json", true⟩ =
        .ok (⟨nearlyOneScene, "scene.json", false⟩, savedTree nearlyOneScene) ∧
      ∃ d, open? (savedTree nearlyOneScene) "scene.json" = .ok d := by
  have hopen : open? ⟨[], []⟩ "scene.json" = .ok ⟨.empty, "scene.json", false⟩ := rfl
  have hedit : editAll ⟨.empty, "scene.json", false⟩
      [[.add "Player"], [.move 1 ⟨.nearlyOne, .zero⟩]] = ⟨nearlyOneScene, "scene.json", true⟩ := rfl
  have hsave := save_emptyTree nearlyOneScene true
  rw [← hedit] at hsave
  have hreopen := (exists_open?_iff_of_save hopen _ hsave).2.1
  rw [hedit] at hsave
  refine ⟨hopen, hedit, hsave, hreopen ?_⟩
  simp [Edit.IsFinite, Binary64.nearlyOne, Binary64.zero, Binary64.isFinite]

/-- An object that is moved to not-a-number can be saved, but the document is not
    opened again. -/
theorem not_reopened_nan :
    open? ⟨[], []⟩ "scene.json" = .ok ⟨.empty, "scene.json", false⟩ ∧
      save ⟨[], []⟩ (editAll ⟨.empty, "scene.json", false⟩
          [[.add "Player"], [.move 1 ⟨.nan, .zero⟩]]) =
        .ok (⟨⟨none, [⟨1, "Player", ⟨.nan, .zero⟩, []⟩], none, []⟩, "scene.json", false⟩,
          savedTree ⟨none, [⟨1, "Player", ⟨.nan, .zero⟩, []⟩], none, []⟩) ∧
      open? (savedTree ⟨none, [⟨1, "Player", ⟨.nan, .zero⟩, []⟩], none, []⟩) "scene.json" =
        .error (.text "scene.json" (.mismatch (.wrongKind .null "f64"))) := by
  have hedit : editAll ⟨.empty, "scene.json", false⟩ [[.add "Player"], [.move 1 ⟨.nan, .zero⟩]] =
      ⟨⟨none, [⟨1, "Player", ⟨.nan, .zero⟩, []⟩], none, []⟩, "scene.json", true⟩ := rfl
  have hsave := save_emptyTree ⟨none, [⟨1, "Player", ⟨.nan, .zero⟩, []⟩], none, []⟩ true
  rw [hedit]
  have hopen := open?_eq_error_of_save hsave fun h => absurd (h _ List.mem_cons_self).1 (by decide)
  exact ⟨rfl, hsave, hopen⟩

end Document

end SpriteScene
