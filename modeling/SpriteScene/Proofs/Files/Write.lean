/-
  Files that are written and looked at again.

  * `FileTree.write_eq_ok`: a successful write puts a file into a directory that
    is there, where no directory stands;
  * `FileTree.walk_of_directories`: a walk goes through directories, so it leads
    where it led as long as they stay;
  * `FileTree.find_of_write`: hence a successful write leaves its path leading
    to what was written, and `FileTree.read_of_write` reads it;
  * `FileTree.read_eq_ok_iff`: when a text is read from a path.

  All of this holds whatever the disk refuses.
-/
import SpriteScene.Files.Tree
import SpriteScene.Proofs.Steps

namespace SpriteScene.FileTree

theorem eq_of_step {place file : Location} {name : String} (h : isDots name = false)
    (hstep : step place name = .ok file) : file = place ++ [name] := by
  simp only [isDots, Bool.or_eq_false_iff, decide_eq_false_iff_not] at h
  rw [step, if_neg h.1, if_neg h.2] at hstep
  split at hstep
  · cases hstep
  · exact (Except.ok.inj hstep).symm

theorem change_eq_ok_iff {t t' : FileTree} {disk : Disk} {place : Location} {e : Entry} :
    t.change disk place e = .ok t' ↔ disk.refusal? place = none ∧ t' = t.put place e := by
  rw [change]
  cases disk.refusal? place <;> simp [eq_comm]

/-- A successful write puts a file into a directory that is there, where no
    directory stands. -/
theorem write_eq_ok {t t' : FileTree} {path text : String} {disk : Disk}
    (h : t.write path text disk = .ok t') :
    ∃ place names name, checkPath path = .ok () ∧ Path.steps path = names ++ [name] ∧
      Path.endsInSlash path = false ∧ t.walk (t.startOf path) names = .ok place ∧
      t.enter place = .ok () ∧ step place name = .ok (place ++ [name]) ∧
      t.get? (place ++ [name]) ≠ some .directory ∧
      t' = t.put (place ++ [name]) (.file text.toUTF8) := by
  rw [write, bind_eq_ok_iff] at h
  obtain ⟨last, hlast, h⟩ := h
  rw [lastStep, bind_eq_ok_iff] at hlast
  obtain ⟨⟨⟩, hcheck, hlast⟩ := hlast
  dsimp only at hlast
  split at hlast
  · cases hlast
    cases h
  rename_i name hname
  obtain ⟨place, hwalk, hlast⟩ := bind_eq_ok_iff.1 hlast
  obtain ⟨⟨⟩, henter, hlast⟩ := bind_eq_ok_iff.1 hlast
  cases hlast
  dsimp only at h
  split at h
  · cases h
  rename_i hplain
  rw [Bool.or_eq_true, not_or, Bool.not_eq_true, Bool.not_eq_true] at hplain
  obtain ⟨file, hstep, h⟩ := bind_eq_ok_iff.1 h
  obtain rfl := eq_of_step hplain.1 hstep
  have hnames := List.dropLast_append_getLast? name hname
  refine ⟨place, _, name, hcheck, hnames.symm, hplain.2, hwalk, henter, hstep, ?_⟩
  split at h
  · cases h
  · rename_i hfile
    exact ⟨hfile, (change_eq_ok_iff.1 h).2⟩

/-! ## Walks -/

theorem enter_eq_ok_iff {t : FileTree} {place : Location} :
    t.enter place = .ok () ↔ t.get? place = some .directory := by
  rw [enter]
  split <;> simp [*]

/-- A walk leads where it led as long as the directories stay. -/
theorem walk_of_directories {t t' : FileTree}
    (h : ∀ place, t.get? place = some .directory → t'.get? place = some .directory)
    {start place : Location} {names : List String} (hwalk : t.walk start names = .ok place) :
    t'.walk start names = .ok place := by
  induction names generalizing start with
  | nil => exact hwalk
  | cons name names ih =>
    rw [walk, bind_eq_ok_iff] at hwalk ⊢
    obtain ⟨⟨⟩, henter, hwalk⟩ := hwalk
    obtain ⟨next, hstep, hwalk⟩ := bind_eq_ok_iff.1 hwalk
    exact ⟨(), enter_eq_ok_iff.2 (h start (enter_eq_ok_iff.1 henter)),
      bind_eq_ok_iff.2 ⟨next, hstep, ih hwalk⟩⟩

theorem walk_concat {t : FileTree} {start place next : Location} {names : List String}
    {name : String} (hwalk : t.walk start names = .ok place) (henter : t.enter place = .ok ())
    (hstep : step place name = .ok next) : t.walk start (names ++ [name]) = .ok next := by
  induction names generalizing start with
  | nil =>
    cases hwalk
    simp only [List.nil_append, walk, henter, hstep, bind, Except.bind]
  | cons first names ih =>
    rw [walk, bind_eq_ok_iff] at hwalk
    obtain ⟨⟨⟩, hfirst, hwalk⟩ := hwalk
    obtain ⟨middle, hmiddle, hwalk⟩ := bind_eq_ok_iff.1 hwalk
    rw [List.cons_append, walk, bind_eq_ok_iff]
    exact ⟨(), hfirst, bind_eq_ok_iff.2 ⟨middle, hmiddle, ih hwalk⟩⟩

/-! ## Looking at what was written -/

/-- **After a successful write the path leads to what was written.** -/
theorem find_of_write {t t' : FileTree} {path text : String} {disk : Disk}
    (h : t.write path text disk = .ok t') : t'.find path = .ok (.file text.toUTF8) := by
  obtain ⟨place, names, name, hcheck, hsteps, hslash, hwalk, henter, hstep, hfile, rfl⟩ :=
    write_eq_ok h
  have hput := t.get?_put (List.concat_ne_nil name place) (.file text.toUTF8)
  have hstay : ∀ other, t.get? other = some .directory →
      (t.put (place ++ [name]) (.file text.toUTF8)).get? other = some .directory := by
    intro other hother
    have hne : other ≠ place ++ [name] := by
      rintro rfl
      exact hfile hother
    rw [hput, if_neg hne, hother]
  have hwalk' := walk_concat (walk_of_directories hstay hwalk)
    (enter_eq_ok_iff.2 (hstay place (enter_eq_ok_iff.1 henter))) hstep
  rw [find, hcheck, hsteps]
  change (FileTree.walk _ (t.startOf path) _ >>= _) = _
  rw [hwalk']
  simp only [bind, Except.bind, hput, if_true, hslash]
  rfl

theorem exists?_of_write {t t' : FileTree} {path text : String} {disk : Disk}
    (h : t.write path text disk = .ok t') : t'.exists? path = true := by
  rw [exists?, find_of_write h]
  rfl

theorem read_eq_ok_iff {t : FileTree} {path text : String} :
    t.read path = .ok text ↔
      ∃ content, t.find path = .ok (.file content) ∧ String.fromUTF8? content = some text := by
  rw [read, bind_eq_ok_iff]
  constructor
  · rintro ⟨e, hfind, h⟩
    cases e with
    | directory => cases h
    | file content =>
      dsimp only at h
      split at h
      · rename_i text' htext
        cases h
        exact ⟨content, hfind, htext⟩
      · cases h
  · rintro ⟨content, hfind, htext⟩
    refine ⟨_, hfind, ?_⟩
    dsimp only
    rw [htext]
    rfl

theorem fromUTF8?_toUTF8 (text : String) : String.fromUTF8? text.toUTF8 = some text := by
  rw [String.fromUTF8?, String.toUTF8, dif_pos text.isValidUTF8]
  rfl

theorem read_of_write {t t' : FileTree} {path text : String} {disk : Disk}
    (h : t.write path text disk = .ok t') : t'.read path = .ok text :=
  read_eq_ok_iff.2 ⟨_, find_of_write h, fromUTF8?_toUTF8 text⟩

end SpriteScene.FileTree
