/-
  Scenes as they are shown.

  * `Scene.labels` are the texts of a scene that its hierarchy holds as they are, and
    `Scene.withoutStyles` is the scene with those as a terminal shows them;
  * `Scene.count_hierarchyLines`: the lines of a hierarchy have the control characters of
    the labels and no others, and `SceneObject.shows_summary`: an object is shown as it
    is without styles;
  * `Scene.unstyled_hierarchy`: so the lines that are shown are those of the scene without
    styles, and `Scene.rawLines_unstyled_hierarchy_iff`: they are those of the scene itself
    iff its labels stay on one line and have no style sequences;
  * `Scene.highlightedLines_hierarchy`: then a line is highlighted for every object that
    has the selected id, while the selected object is the first of these;
  * `Scene.hierarchy_faithful_iff` puts these together.
-/
import SpriteScene.Proofs.Preview.Source

namespace SpriteScene

/-! ## First places -/

theorem head?_findIdxs {α : Type} [DecidableEq α] (p : α → Bool) (as : List α) :
    (as.findIdxs p).head? = (as.find? p).map as.idxOf := by
  induction as with
  | nil => rfl
  | cons a as ih =>
    rw [List.findIdxs_cons, List.find?_cons]
    cases ha : p a
    · rw [if_neg Bool.false_ne_true, List.findIdxs_start, List.head?_map, ih, Option.map_map]
      refine Option.map_congr fun b hb => ?_
      have hne : a ≠ b := by
        rintro rfl
        rw [List.find?_some hb] at ha
        cases ha
      exact (List.idxOf_cons_ne as hne).symm
    · simp

theorem eq_toList_head?_iff {α : Type} {as : List α} :
    as = as.head?.toList ↔ as.length ≤ 1 := by
  match as with
  | [] => simp
  | [a] => simp
  | a :: b :: as => simp

/-! ## Labels -/

/-- The texts of an object that its summary holds as they are. -/
def SceneObject.labels (o : SceneObject) : List String := o.name :: o.scripts

/-- The texts of a scene that its hierarchy holds as they are. -/
def Scene.labels (s : Scene) : List String := s.project.toList ++ s.objects.flatMap (·.labels)

/-- The object with its labels as they are shown. -/
def SceneObject.withoutStyles (o : SceneObject) : SceneObject :=
  { o with name := unstyled o.name, scripts := o.scripts.map unstyled }

/-- The scene with its labels as they are shown. -/
def Scene.withoutStyles (s : Scene) : Scene :=
  { s with project := s.project.map unstyled, objects := s.objects.map (·.withoutStyles) }

theorem SceneObject.withoutStyles_eq_self {o : SceneObject} (h : ∀ t ∈ o.labels, unstyled t = t) :
    o.withoutStyles = o := by
  obtain ⟨hname, hscripts⟩ := List.forall_mem_cons.1 h
  rw [withoutStyles, hname, List.map_congr_left hscripts, List.map_id']

theorem Scene.withoutStyles_eq_self {s : Scene} (h : ∀ t ∈ s.labels, unstyled t = t) :
    s.withoutStyles = s := by
  obtain ⟨hproject, hobjects⟩ := List.forall_mem_append.1 h
  have hname : s.project.map unstyled = s.project := by
    cases hs : s.project with
    | none => rfl
    | some name => exact congrArg some (hproject name (by simp [hs]))
  have hself : ∀ o ∈ s.objects, o.withoutStyles = o := fun o ho =>
    SceneObject.withoutStyles_eq_self fun t ht => hobjects t (List.mem_flatMap_of_mem ho ht)
  rw [withoutStyles, hname, List.map_congr_left hself, List.map_id']

theorem Scene.labels_withoutStyles (s : Scene) :
    s.withoutStyles.labels = s.labels.map unstyled := by
  have hobject (o : SceneObject) : o.withoutStyles.labels = o.labels.map unstyled := rfl
  rw [labels, labels, withoutStyles, List.map_append, List.flatMap_map, List.map_flatMap]
  cases s.project <;> simp [hobject]

/-! ## Summaries -/

/-- The references of an object at the end of its summary. -/
def bracketed (refs : List String) : String :=
  if refs.isEmpty then "" else " [" ++ (", ".intercalate refs ++ "]")

theorem isPlain_text_plain (v : Binary64) : IsPlain (v.text .plain) := by
  cases v with
  | nan => decide
  | infinite negative => cases negative <;> decide
  | finite negative m => exact isPlain_literal (.finite negative m)

/-- Around its labels a summary has no control characters. -/
theorem SceneObject.exists_summary_eq (o : SceneObject) : ∃ front middle,
    IsPlain front ∧ IsPlain middle ∧ ∀ name refs,
      { o with name := name, scripts := refs }.summary =
        front ++ (name ++ " ") ++ (middle ++ bracketed refs) := by
  refine ⟨"#" ++ toString o.id ++ " ",
    "(" ++ o.position.x.text .plain ++ ", " ++ o.position.y.text .plain ++ ")", ?_, ?_, ?_⟩
  · simp only [isPlain_append]
    exact ⟨⟨by decide, isPlain_toString o.id.toNat⟩, by decide⟩
  · simp only [isPlain_append]
    exact ⟨⟨⟨⟨by decide, isPlain_text_plain _⟩, by decide⟩, isPlain_text_plain _⟩, by decide⟩
  · intro name refs
    rw [summary, bracketed, show " (" = " " ++ "(" from rfl]
    simp only [String.append_assoc]

theorem shows_intercalate (refs : List String) :
    Shows ((", ".intercalate refs).toList ++ [']'])
      ((", ".intercalate (refs.map unstyled)).toList ++ [']']) := by
  have hblank : Shows [' '] [' '] := Shows.of_notMem (by decide)
  induction refs with
  | nil => exact Shows.of_notMem (by decide)
  | cons r refs ih =>
    cases refs with
    | nil =>
      have hr : Shows (r.toList ++ [']']) (shownChars r.toList ++ [']']) :=
        shows_concat (by decide) _
      simpa [toList_unstyled] using hr
    | cons next refs =>
      have hr : Shows (r.toList ++ [',']) (shownChars r.toList ++ [',']) :=
        shows_concat (by decide) _
      simpa [String.toList_intercalate, toList_unstyled] using hr.append (hblank.append ih)

theorem shows_bracketed (refs : List String) :
    Shows (bracketed refs).toList (bracketed (refs.map unstyled)).toList := by
  have hopen : IsPlain " [" := by decide
  rw [bracketed, bracketed, List.isEmpty_map]
  split
  · exact Shows.of_notMem (by decide)
  · rw [String.toList_append, String.toList_append, String.toList_append, String.toList_append]
    exact (Shows.of_isPlain hopen).append (shows_intercalate refs)

/-- **A summary shows the object without styles**: what stands behind a label cuts off every
    sequence that the label begins. -/
theorem SceneObject.shows_summary (o : SceneObject) :
    Shows o.summary.toList o.withoutStyles.summary.toList := by
  obtain ⟨front, middle, hfront, hmiddle, hsummary⟩ := o.exists_summary_eq
  have hself : o.summary = _ := hsummary o.name o.scripts
  have hbare : o.withoutStyles.summary = _ := hsummary (unstyled o.name) (o.scripts.map unstyled)
  have hname : Shows (o.name ++ " ").toList (unstyled o.name ++ " ").toList := by
    rw [String.toList_append, String.toList_append, toList_unstyled]
    exact shows_concat (by decide) _
  rw [hself, hbare]
  simp only [String.toList_append] at hname ⊢
  exact ((Shows.of_isPlain hfront).append hname).append
    ((Shows.of_isPlain hmiddle).append (shows_bracketed o.scripts))

/-! ## Lines -/

namespace Scene

/-- The line of an object, without styles. -/
def entry (s : Scene) (o : SceneObject) : String :=
  (if s.selected = some o.id then "> " else "  ") ++ o.summary

/-- The lines of a hierarchy, without styles. -/
def hierarchyLines (s : Scene) : List String :=
  s.title :: if s.objects.isEmpty then ["  (no objects)"] else s.objects.map s.entry

theorem length_hierarchyLines (s : Scene) :
    s.hierarchyLines.length = 1 + max 1 s.objects.length := by
  rw [hierarchyLines]
  cases s.objects with
  | nil => rfl
  | cons o os =>
    rw [if_neg (by simp), List.length_cons, List.length_map, List.length_cons]
    omega

theorem isPlain_mark (p : Prop) [Decidable p] : IsPlain (if p then "> " else "  ") := by
  split <;> decide

theorem title_eq (s : Scene) :
    s.title = (s.project.map fun name => "Hierarchy (" ++ (name ++ ")")).getD "Hierarchy" := by
  rw [title]
  cases s.project <;> simp [String.append_assoc]

theorem objectLine_eq (s : Scene) (o : SceneObject) : s.objectLine o =
    (if s.selected = some o.id then TextStyle.highlight.apply (s.entry o) else s.entry o) ++
      "\n" := by
  rw [objectLine, entry]
  split <;> rfl

theorem toList_hierarchy (s : Scene) : s.hierarchy.toList =
    (TextStyle.bold.apply s.title).toList ++ ("\n".toList ++
      ((if s.objects.isEmpty then TextStyle.dim.apply "  (no objects)\n" else "").toList ++
        s.objects.flatMap fun o => (s.objectLine o).toList)) := by
  simp [hierarchy, String.toList_join, List.flatMap_map]

end Scene

/-! ## Control characters -/

section
variable {c : Char} (hc : isPlainChar c = false)

include hc

theorem count_intercalate {sep : String} (hsep : IsPlain sep) (parts : List String) :
    (sep.intercalate parts).toList.count c = (parts.flatMap String.toList).count c := by
  have hzero := hsep.count_eq_zero hc
  rw [String.toList_intercalate]
  induction parts with
  | nil => rfl
  | cons part parts ih =>
    cases parts with
    | nil => simp
    | cons next parts =>
      rw [List.map_cons, List.map_cons, List.intercalate_cons_cons, ← List.map_cons,
        List.count_append, List.count_append, hzero, ih, Nat.add_zero]
      conv_rhs => rw [List.flatMap_cons, List.count_append]

theorem count_bracketed (refs : List String) :
    (bracketed refs).toList.count c = (refs.flatMap String.toList).count c := by
  have hopen : IsPlain " [" := by decide
  have hclose : IsPlain "]" := by decide
  have hcomma : IsPlain ", " := by decide
  rw [bracketed]
  split
  · rename_i hempty
    rw [List.isEmpty_iff.1 hempty]
    rfl
  · rw [String.toList_append, String.toList_append, List.count_append, List.count_append,
      hopen.count_eq_zero hc, hclose.count_eq_zero hc, count_intercalate hc hcomma, Nat.zero_add,
      Nat.add_zero]

theorem SceneObject.count_summary (o : SceneObject) :
    o.summary.toList.count c = (o.labels.flatMap String.toList).count c := by
  have hblank : IsPlain " " := by decide
  obtain ⟨front, middle, hfront, hmiddle, hsummary⟩ := o.exists_summary_eq
  have hself : o.summary = _ := hsummary o.name o.scripts
  simp only [hself, labels, String.toList_append, List.flatMap_cons, List.count_append,
    hfront.count_eq_zero hc, hmiddle.count_eq_zero hc, hblank.count_eq_zero hc,
    count_bracketed hc, Nat.zero_add, Nat.add_zero]

namespace Scene

theorem count_title (s : Scene) :
    s.title.toList.count c = (s.project.toList.flatMap String.toList).count c := by
  have hnone : IsPlain "Hierarchy" := by decide
  have hopen : IsPlain "Hierarchy (" := by decide
  have hclose : IsPlain ")" := by decide
  rw [title_eq]
  cases s.project with
  | none => exact hnone.count_eq_zero hc
  | some name =>
    simp only [Option.map_some, Option.getD_some, String.toList_append, List.count_append,
      hopen.count_eq_zero hc, hclose.count_eq_zero hc, Nat.zero_add, Nat.add_zero,
      Option.toList_some, List.flatMap_singleton]

theorem count_entry (s : Scene) (o : SceneObject) :
    (s.entry o).toList.count c = (o.labels.flatMap String.toList).count c := by
  rw [entry, String.toList_append, List.count_append, (isPlain_mark _).count_eq_zero hc,
    o.count_summary hc, Nat.zero_add]

/-- **The control characters of a hierarchy** are those of the labels. -/
theorem count_hierarchyLines (s : Scene) :
    (s.hierarchyLines.flatMap String.toList).count c =
      (s.labels.flatMap String.toList).count c := by
  have hnone : IsPlain "  (no objects)" := by decide
  rw [hierarchyLines, labels, List.flatMap_cons, List.flatMap_append, List.count_append,
    List.count_append, s.count_title hc]
  congr 1
  cases hobjects : s.objects.isEmpty
  · rw [if_neg Bool.false_ne_true]
    induction s.objects with
    | nil => rfl
    | cons o os ih => simp [count_entry hc, ih]
  · rw [if_pos rfl, List.isEmpty_iff.1 hobjects, List.flatMap_singleton, hnone.count_eq_zero hc]
    rfl

end Scene

end

namespace Scene

variable {s : Scene}

/-- The lines stay on one line each iff the labels do. -/
theorem lineFeed_notMem_hierarchyLines_iff :
    (∀ l ∈ s.hierarchyLines, '\n' ∉ l.toList) ↔ ∀ t ∈ s.labels, '\n' ∉ t.toList := by
  have hfeed : isPlainChar '\n' = false := by decide
  have hall (texts : List String) : (∀ t ∈ texts, '\n' ∉ t.toList) ↔
      (texts.flatMap String.toList).count '\n' = 0 := by
    rw [List.count_eq_zero]
    simp
  rw [hall, hall, count_hierarchyLines hfeed]

theorem lineFeed_notMem_entry (h : ∀ l ∈ s.hierarchyLines, '\n' ∉ l.toList) {o : SceneObject}
    (ho : o ∈ s.objects) : '\n' ∉ (s.entry o).toList := by
  refine h _ (List.mem_cons_of_mem _ ?_)
  rw [if_neg (by simpa using List.ne_nil_of_mem ho)]
  exact List.mem_map_of_mem ho

/-! ## What is shown -/

theorem shows_title (s : Scene) : Shows s.title.toList s.withoutStyles.title.toList := by
  have hopen : IsPlain "Hierarchy (" := by decide
  rw [title_eq, title_eq, withoutStyles]
  cases s.project with
  | none => exact Shows.of_notMem (by decide)
  | some name =>
    simp only [Option.map_some, Option.getD_some, String.toList_append, toList_unstyled]
    exact (Shows.of_isPlain hopen).append (shows_concat (by decide) name.toList)

theorem shows_entry (s : Scene) (o : SceneObject) :
    Shows (s.entry o).toList (s.withoutStyles.entry o.withoutStyles).toList := by
  rw [entry, entry, String.toList_append, String.toList_append]
  exact (Shows.of_isPlain (isPlain_mark _)).append o.shows_summary

theorem shownChars_lineFeed (rest : List Char) :
    shownChars ("\n".toList ++ rest) = '\n' :: shownChars rest :=
  (Shows.of_notMem (by decide)).shownChars_append rest

theorem shownChars_objectLine (s : Scene) (o : SceneObject) (rest : List Char) :
    shownChars ((s.objectLine o).toList ++ rest) =
      (s.withoutStyles.entry o.withoutStyles).toList ++ '\n' :: shownChars rest := by
  rw [objectLine_eq, String.toList_append, List.append_assoc]
  split
  · rw [(s.shows_entry o).shownChars_apply, shownChars_lineFeed]
  · rw [(s.shows_entry o).shownChars_append, shownChars_lineFeed]

theorem shownChars_objectLines (s : Scene) (os : List SceneObject) :
    shownChars (os.flatMap fun o => (s.objectLine o).toList) =
      os.flatMap fun o => (s.withoutStyles.entry o.withoutStyles).toList ++ ['\n'] := by
  induction os with
  | nil => simp [shownChars]
  | cons o os ih =>
    rw [List.flatMap_cons, List.flatMap_cons, shownChars_objectLine, ih]
    simp

/-- **What is shown of a scene** are the lines of the scene without styles. -/
theorem unstyled_hierarchy (s : Scene) :
    unstyled s.hierarchy = unlines (s.withoutStyles.hierarchyLines ++ [""]) := by
  have hnone : Shows "  (no objects)\n".toList "  (no objects)\n".toList :=
    Shows.of_notMem (by decide)
  rw [← String.toList_inj, toList_unstyled, toList_unlines_concat, toList_hierarchy,
    s.shows_title.shownChars_apply, shownChars_lineFeed, hierarchyLines, withoutStyles,
    List.isEmpty_map]
  cases hobjects : s.objects.isEmpty
  · simp [shownChars_objectLines, List.flatMap_map, withoutStyles]
  · rw [if_pos rfl, List.isEmpty_iff.1 hobjects, hnone.shownChars_apply]
    simp [shownChars]

/-- A hierarchy has a line for each object if no label holds a line feed, and more
    otherwise. -/
theorem count_lineFeed_hierarchy (s : Scene) : s.hierarchy.toList.count '\n' =
    1 + max 1 s.objects.length + (s.labels.flatMap String.toList).count '\n' := by
  have hlength : s.withoutStyles.objects.length = s.objects.length := by
    rw [withoutStyles, List.length_map]
  rw [← count_lineFeed_shownChars, ← toList_unstyled, unstyled_hierarchy, count_unlines_concat,
    if_pos rfl, length_hierarchyLines, hlength, count_hierarchyLines (by decide),
    labels_withoutStyles, count_lineFeed_map_unstyled, Nat.add_comm]

/-- **A scene is shown with its labels as they are** iff these stay on one line and have no
    style sequences. -/
theorem rawLines_unstyled_hierarchy_iff :
    rawLines (unstyled s.hierarchy) = s.hierarchyLines ++ [""] ↔
      ∀ t ∈ s.labels, '\n' ∉ t.toList ∧ unstyled t = t := by
  constructor
  · intro hlines
    have hfeed : ∀ l ∈ s.hierarchyLines, '\n' ∉ l.toList := fun l hl =>
      lineFeed_notMem_of_mem_rawLines (hlines ▸ List.mem_append_left _ hl)
    -- a label that is not shown as it is would leave fewer escapes
    have hcount : ((s.labels.map unstyled).flatMap String.toList).count '\x1b' =
        (s.labels.flatMap String.toList).count '\x1b' := by
      have hescape : isPlainChar '\x1b' = false := by decide
      have htext : unlines (s.withoutStyles.hierarchyLines ++ [""]) =
          unlines (s.hierarchyLines ++ [""]) := by
        rw [← unstyled_hierarchy, ← hlines, unlines_rawLines]
      have hcount := congrArg (fun text : String => text.toList.count '\x1b') htext
      simpa [count_unlines_concat, count_hierarchyLines hescape, labels_withoutStyles] using hcount
    have hunstyled : ∀ t ∈ s.labels, unstyled t = t :=
      (unstyled_eq_or_count_lt s.labels).resolve_right hcount.not_lt
    exact fun t ht => ⟨lineFeed_notMem_hierarchyLines_iff.1 hfeed t ht, hunstyled t ht⟩
  · intro h
    have hself := withoutStyles_eq_self fun t ht => (h t ht).2
    have hfeed := lineFeed_notMem_hierarchyLines_iff.2 fun t ht => (h t ht).1
    rw [unstyled_hierarchy, hself]
    exact rawLines_unlines_of_notMem (by simp) (List.forall_mem_append.2 ⟨hfeed, by decide⟩)

/-- **The lines of a hierarchy** with their styles, if the labels stay on one line.  Without
    objects, the reset stands behind the last of them. -/
theorem rawLines_hierarchy (h : ∀ t ∈ s.labels, '\n' ∉ t.toList) :
    rawLines s.hierarchy = TextStyle.bold.apply s.title ::
      if s.objects = [] then [TextStyle.dim.code ++ "  (no objects)", resetCode]
      else s.objects.map (fun o => if s.selected = some o.id
        then TextStyle.highlight.apply (s.entry o) else s.entry o) ++ [""] := by
  have hlines := lineFeed_notMem_hierarchyLines_iff.2 h
  have htitle := TextStyle.lineFeed_notMem_apply .bold (hlines s.title List.mem_cons_self)
  by_cases hobjects : s.objects = []
  · have htext : s.hierarchy = unlines [TextStyle.bold.apply s.title,
        TextStyle.dim.code ++ "  (no objects)", resetCode] := by
      rw [← String.toList_inj, toList_hierarchy, hobjects]
      simp [unlines, TextStyle.apply, TextStyle.code, resetCode]
    rw [if_pos hobjects, htext]
    refine rawLines_unlines_of_notMem (by simp) ?_
    simp only [List.forall_mem_cons]
    exact ⟨htitle, by decide, by decide, List.forall_mem_nil _⟩
  · have htext : s.hierarchy = unlines ((TextStyle.bold.apply s.title ::
        s.objects.map fun o => if s.selected = some o.id
          then TextStyle.highlight.apply (s.entry o) else s.entry o) ++ [""]) := by
      rw [← String.toList_inj, toList_hierarchy, toList_unlines_concat]
      simp [hobjects, objectLine_eq, List.flatMap_map]
    rw [if_neg hobjects, htext, List.cons_append]
    refine rawLines_unlines_of_notMem (by simp) ?_
    simp only [List.forall_mem_cons, List.forall_mem_append, List.forall_mem_map]
    refine ⟨htitle, fun o ho => ?_, by decide⟩
    split
    · exact TextStyle.lineFeed_notMem_apply .highlight (lineFeed_notMem_entry hlines ho)
    · exact lineFeed_notMem_entry hlines ho

/-! ## Highlights -/

/-- The characters of the line of an object as they are shown. -/
def entryCells (s : Scene) (o : SceneObject) : List Cell :=
  (s.entry o).toList.map
    (Cell.mk (if s.selected = some o.id then [TextStyle.highlight.parameters] else []))

theorem cells_lineFeed (rest : List Char) :
    cells [] ("\n".toList ++ rest) = ⟨[], '\n'⟩ :: cells [] rest :=
  cells_cons (by decide) rest

theorem cells_objectLine {o : SceneObject} (h : o.withoutStyles = o) (rest : List Char) :
    cells [] ((s.objectLine o).toList ++ rest) =
      s.entryCells o ++ ⟨[], '\n'⟩ :: cells [] rest := by
  have hshows : Shows (s.entry o).toList (s.entry o).toList := by
    have hentry := s.shows_entry o
    rw [h] at hentry
    exact hentry
  rw [objectLine_eq, entryCells, String.toList_append, List.append_assoc]
  split
  · rw [hshows.cells_apply, cells_lineFeed]
  · rw [hshows.cells_append rfl, cells_lineFeed]

theorem lineFeed_notMem_map {text : String} (htext : '\n' ∉ text.toList) (styles : List String) :
    ∀ cell ∈ text.toList.map (Cell.mk styles), decide (cell.char = '\n') = false := by
  intro cell hcell
  obtain ⟨c, hc, rfl⟩ := List.mem_map.1 hcell
  exact decide_eq_false (ne_of_mem_of_not_mem hc htext)

theorem splitOnP_cells_objectLines {os : List SceneObject}
    (h : ∀ o ∈ os, o.withoutStyles = o ∧ '\n' ∉ (s.entry o).toList) :
    (cells [] (os.flatMap fun o => (s.objectLine o).toList)).splitOnP (·.char = '\n') =
      os.map s.entryCells ++ [[]] := by
  induction os with
  | nil => simp [List.splitOnP_nil]
  | cons o os ih =>
    obtain ⟨⟨hstyles, hfeed⟩, hos⟩ := List.forall_mem_cons.1 h
    rw [List.flatMap_cons, cells_objectLine hstyles, entryCells,
      List.splitOnP_append_cons_of_forall_mem (lineFeed_notMem_map hfeed _) _ rfl, ih hos,
      List.map_cons, List.cons_append, entryCells]

theorem any_entryCells (s : Scene) (o : SceneObject) :
    ((s.entryCells o).any fun cell => TextStyle.highlight.parameters ∈ cell.styles) =
      decide (s.selected = some o.id) := by
  obtain ⟨c, cs, hentry⟩ : ∃ c cs, (s.entry o).toList = c :: cs := by
    rw [entry, String.toList_append]
    split
    · exact ⟨_, _, rfl⟩
    · exact ⟨_, _, rfl⟩
  rw [entryCells, hentry]
  by_cases h : s.selected = some o.id <;> simp [h]

/-- The selected object is the first one that has the selected id. -/
theorem selectedObject?_eq (s : Scene) :
    s.selectedObject? = s.objects.find? fun o => s.selected = some o.id := by
  rw [selectedObject?]
  cases s.selected with
  | none => exact (List.find?_eq_none.2 (by simp)).symm
  | some id =>
    rw [Option.bind_some, object?]
    simp [eq_comm]

section
variable (h : ∀ t ∈ s.labels, '\n' ∉ t.toList ∧ unstyled t = t)

include h

/-- **The lines that are shown**, each in its style, if the labels are shown as they are. -/
theorem shownLines_hierarchy :
    shownLines s.hierarchy = s.title.toList.map (Cell.mk [TextStyle.bold.parameters]) ::
      (if s.objects.isEmpty then ["  (no objects)".toList.map (Cell.mk [TextStyle.dim.parameters])]
        else s.objects.map s.entryCells) ++ [[]] := by
  have hlines := lineFeed_notMem_hierarchyLines_iff.2 fun t ht => (h t ht).1
  have hself := withoutStyles_eq_self fun t ht => (h t ht).2
  have htitle : Shows s.title.toList s.title.toList := by
    have htitle := s.shows_title
    rwa [hself] at htitle
  have hfeed := lineFeed_notMem_map (hlines _ List.mem_cons_self) [TextStyle.bold.parameters]
  rw [shownLines, toList_hierarchy, htitle.cells_apply, cells_lineFeed,
    List.splitOnP_append_cons_of_forall_mem hfeed _ rfl, List.cons_append]
  congr 1
  cases hobjects : s.objects.isEmpty
  · rw [if_neg Bool.false_ne_true, if_neg Bool.false_ne_true]
    refine splitOnP_cells_objectLines fun o ho => ⟨?_, lineFeed_notMem_entry hlines ho⟩
    exact SceneObject.withoutStyles_eq_self fun t ht =>
      (h t (List.mem_append_right _ (List.mem_flatMap_of_mem ho ht))).2
  · rw [if_pos rfl, if_pos rfl, List.isEmpty_iff.1 hobjects, TextStyle.cells_apply _ (by decide),
      List.flatMap_nil, cells_nil]
    decide

/-- **The highlighted lines** are those of the objects that have the selected id. -/
theorem highlightedLines_hierarchy : highlightedLines s.hierarchy =
    (s.objects.findIdxs fun o => s.selected = some o.id).map (· + 1) := by
  have htitle : ((s.title.toList.map (Cell.mk [TextStyle.bold.parameters])).any fun cell =>
      TextStyle.highlight.parameters ∈ cell.styles) = false := by
    simp [TextStyle.parameters]
  rw [highlightedLines, shownLines_hierarchy h, List.cons_append, List.findIdxs_cons, htitle,
    if_neg Bool.false_ne_true, List.findIdxs_start]
  congr 1
  rw [List.findIdxs_append]
  cases hobjects : s.objects.isEmpty
  · rw [if_neg Bool.false_ne_true, List.findIdxs_map]
    simp [Function.comp_def, any_entryCells]
  · rw [if_pos rfl, List.isEmpty_iff.1 hobjects, List.findIdxs_nil]
    decide

/-- The first highlighted line is that of the selected object. -/
theorem head?_highlightedLines : (highlightedLines s.hierarchy).head? =
    s.selectedObject?.map fun o => s.objects.idxOf o + 1 := by
  rw [highlightedLines_hierarchy h, List.head?_map, head?_findIdxs, ← selectedObject?_eq,
    Option.map_map]
  rfl

/-- It is the only one iff no two objects have the selected id. -/
theorem highlightedLines_eq_iff :
    highlightedLines s.hierarchy = (s.selectedObject?.map fun o => s.objects.idxOf o + 1).toList ↔
      (s.objects.countP fun o => s.selected = some o.id) ≤ 1 := by
  rw [← head?_highlightedLines h, eq_toList_head?_iff, highlightedLines_hierarchy h,
    List.length_map, List.length_findIdxs]

end

/-- **What a hierarchy shows.**  It has the lines of a title and the objects iff no label
    holds a line feed.  The labels are shown as they are, and the selected object is the one
    that is highlighted, iff moreover no label holds a style sequence and no two objects have
    the selected id. -/
theorem hierarchy_faithful_iff (s : Scene) :
    let lines := s.title :: if s.objects = [] then ["  (no objects)"]
      else s.objects.map fun o => (if s.selected = some o.id then "> " else "  ") ++ o.summary
    let selectedLine := s.selectedObject?.map fun o => s.objects.idxOf o + 1
    (s.hierarchy.toList.count '\n' = 1 + max 1 s.objects.length ↔
      ∀ t ∈ s.labels, '\n' ∉ t.toList) ∧
    ((∀ t ∈ s.labels, '\n' ∉ t.toList) → rawLines s.hierarchy = TextStyle.bold.apply s.title ::
      if s.objects = [] then [TextStyle.dim.code ++ "  (no objects)", resetCode]
      else s.objects.map (fun o => if s.selected = some o.id
        then TextStyle.highlight.apply ("> " ++ o.summary) else "  " ++ o.summary) ++ [""]) ∧
    ((rawLines (unstyled s.hierarchy) = lines ++ [""] ∧
        highlightedLines s.hierarchy = selectedLine.toList) ↔
      (∀ t ∈ s.labels, '\n' ∉ t.toList ∧ unstyled t = t) ∧
        (s.objects.countP fun o => s.selected = some o.id) ≤ 1) ∧
    ((∀ t ∈ s.labels, '\n' ∉ t.toList ∧ unstyled t = t) →
      highlightedLines s.hierarchy =
        (s.objects.findIdxs fun o => s.selected = some o.id).map (· + 1) ∧
      (highlightedLines s.hierarchy).head? = selectedLine) := by
  intro lines selectedLine
  have hlines : lines = s.hierarchyLines := by
    simp only [lines, hierarchyLines, List.isEmpty_iff]
    rfl
  refine ⟨?_, fun h => ?_, ?_, fun h => ⟨highlightedLines_hierarchy h, head?_highlightedLines h⟩⟩
  · rw [count_lineFeed_hierarchy, Nat.add_eq_left, List.count_eq_zero]
    simp
  · rw [rawLines_hierarchy h]
    congr 3
    refine List.map_congr_left fun o _ => ?_
    by_cases hselected : s.selected = some o.id <;> simp [entry, hselected]
  · rw [hlines, rawLines_unstyled_hierarchy_iff]
    exact and_congr_right highlightedLines_eq_iff

/-- A scene with an id that two objects have. -/
def rivalScene (selected : UInt64) : Scene where
  project := some "Arena"
  objects := [⟨1, "Player", .origin, ["Walk.ts", "Jump.ts"]⟩, ⟨2, "Rival", .origin, []⟩,
    ⟨2, "Shadow", .origin, []⟩]
  selected := some selected
  catalog := []

/-- The selected object is alone with its id, though two others share theirs. -/
theorem hierarchy_faithful_rivalScene :
    rawLines (unstyled (rivalScene 1).hierarchy) = ["Hierarchy (Arena)",
      "> #1 Player (0, 0) [Walk.ts, Jump.ts]", "  #2 Rival (0, 0)", "  #2 Shadow (0, 0)", ""] ∧
    highlightedLines (rivalScene 1).hierarchy = [1] ∧
    (rivalScene 1).hierarchy.toList.count '\n' = 4 := by
  have hplain : ∀ t ∈ (rivalScene 1).labels, IsPlain t := by decide
  obtain ⟨hcount, -, hfaithful, -⟩ := hierarchy_faithful_iff (rivalScene 1)
  obtain ⟨hlines, hselected⟩ := hfaithful.2
    ⟨fun t ht => ⟨(hplain t ht).lineFeed_notMem, (hplain t ht).unstyled_eq⟩, by decide⟩
  refine ⟨hlines.trans (by decide), hselected.trans (by decide), ?_⟩
  exact hcount.2 fun t ht => (hplain t ht).lineFeed_notMem

/-- With the id of both rivals selected, both are highlighted, and a name with a line feed
    has a line more. -/
theorem hierarchy_not_faithful :
    (rivalScene 2).selectedObject? = some ⟨2, "Rival", .origin, []⟩ ∧
    highlightedLines (rivalScene 2).hierarchy = [2, 3] ∧
    ({ ofProject "Arena" with objects := [⟨1, "A\nB", .origin, []⟩] } :
      Scene).hierarchy.toList.count '\n' = 3 := by
  have hplain : ∀ t ∈ (rivalScene 2).labels, IsPlain t := by decide
  refine ⟨by decide, ?_, ?_⟩
  · rw [highlightedLines_hierarchy fun t ht =>
      ⟨(hplain t ht).lineFeed_notMem, (hplain t ht).unstyled_eq⟩]
    decide
  · rw [count_lineFeed_hierarchy]
    decide

end Scene

end SpriteScene
