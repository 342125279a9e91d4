/-
  What scenes are read from.

  * `SceneObject.OfMembers` and `Scene.OfMembers` say what the members of an object and of
    a scene are read as, field by field and whatever their order; `IsObject`, `IsProject`
    and `IsScene` say it for the values that stand for them;
  * `SceneObject.follows_object`, `follows_project` and `Scene.follows_record`: the readers
    read just that;
  * `Scene.read_eq_ok_iff`: so a text is read as a scene iff its tree is one of the scene.

  Two ways of reading come together here.  The fields of a record are looked at where
  they stand.  The coordinates of an object are kept among its other members and looked
  at when it ends; `SceneObject.run_step_iff` says what is kept, `Position.ofMembers_iff`
  what is made of it.
-/
import SpriteScene.Proofs.Json.Members
import SpriteScene.Proofs.Json.Record
import SpriteScene.Scene.Encoding

namespace SpriteScene

open Json

/-! ## What members are read as -/

/-- A coordinate. -/
def IsCoordinate (T : Tree) (v : Binary64) : Prop :=
  ∃ found, T.found = some found ∧ found.coordinate = .ok v

/-- The keys of an object that are looked at where they stand. -/
def SceneObject.ownKeys : List String := ["id", "name", "scripts"]

/-- What the members of an object are read as. -/
structure SceneObject.OfMembers (ms : List (Option String × Tree)) (o : SceneObject) : Prop where
  keys : ∀ m ∈ ms, m.1.isSome
  id : Fills (some "id") IsUnsigned ms (some o.id)
  name : Fills (some "name") IsString ms (some o.name)
  x : Fills (some "x") IsCoordinate ms (some o.position.x)
  y : Fills (some "y") IsCoordinate ms (some o.position.y)
  scripts : ∃ ss, Fills (some "scripts") (IsSequence IsString) ms ss ∧ o.scripts = ss.getD []
  others : ∀ m ∈ ms, m.1 ∉ ownKeys.map some → m.2.IsReadable (nestingLimit - 3)

/-- An object. -/
def IsObject : Tree → SceneObject → Prop
  | .map ms, o => SceneObject.OfMembers ms o
  | _, _ => False

/-- What the members of a project are read as. -/
def ProjectOfMembers (ms : List (Option String × Tree)) (name : String) : Prop :=
  (∀ m ∈ ms, m.1.isSome) ∧ Fills (some "name") IsString ms (some name)

/-- A project, by its name. -/
def IsProject (T : Tree) (name : String) : Prop :=
  ∃ ms, T.members? ["name"] = some ms ∧ ProjectOfMembers ms name

/-- The keys of a scene, in the order of its fields. -/
def Scene.keys : List String := ["project", "gameObjects", "selectedObjectId", "scripts"]

/-- What the members of a scene are read as. -/
structure Scene.OfMembers (ms : List (Option String × Tree)) (s : Scene) : Prop where
  keys : ∀ m ∈ ms, m.1.isSome
  project : ∃ name, Fills (some "project") (IsOptional IsProject) ms name ∧
    s.project = name.getD none
  objects : ∃ os, Fills (some "gameObjects") (IsSequence IsObject) ms os ∧ s.objects = os.getD []
  selected : ∃ id, Fills (some "selectedObjectId") (IsOptional IsUnsigned) ms id ∧
    s.selected = id.getD none
  catalog : ∃ ss, Fills (some "scripts") (IsSequence IsString) ms ss ∧ s.catalog = ss.getD []

/-- A scene. -/
def IsScene (T : Tree) (s : Scene) : Prop :=
  ∃ ms, T.members? Scene.keys = some ms ∧ Scene.OfMembers ms s

/-! ## Objects -/

namespace SceneObject

/-- What a member does to the other members that are kept. -/
def KeepStep (others : List (String × Found)) (key : String) (T : Tree)
    (next : List (String × Found)) : Prop :=
  if key ∈ ownKeys then next = others
  else ∃ found, (T.IsReadable (nestingLimit - 3) ∧ T.found = some found) ∧
    next = others ++ [(key, found)]

/-- What a member does to an object that is being read, part by part. -/
@[mk_iff]
structure Step (d : Draft) (key : String) (T : Tree) (d' : Draft) : Prop where
  id : FieldStep (some "id") IsUnsigned d.id (some key) T d'.id
  name : FieldStep (some "name") IsString d.name (some key) T d'.name
  scripts : FieldStep (some "scripts") (IsSequence IsString) d.scripts (some key) T d'.scripts
  others : KeepStep d.others key T d'.others

theorem followsMembers_step : FollowsMembers readTree member Step := by
  constructor
  · intro d key read hread
    rw [member] at hread
    split_ifs at hread with hid hpresent hname hpresent hscripts hpresent
    · cases hread
      have habsent := Option.not_isSome_iff_eq_none.1 hpresent
      refine (follows_unsigned.map fun id => { d with id := some id }).congr fun T d' => ?_
      cases d'
      grind [step_iff, FieldStep, KeepStep, ownKeys]
    · cases hread
      have habsent := Option.not_isSome_iff_eq_none.1 hpresent
      refine ((follows_string "a string").map fun name => { d with name := some name }).congr
        fun T d' => ?_
      cases d'
      grind [step_iff, FieldStep, KeepStep, ownKeys]
    · cases hread
      have habsent := Option.not_isSome_iff_eq_none.1 hpresent
      refine ((follows_readSequence (follows_string "a string")).map
        fun ss => { d with scripts := some ss }).congr fun T d' => ?_
      cases d'
      grind [step_iff, FieldStep, KeepStep, ownKeys]
    · cases hread
      refine ((follows_skimValue (nestingLimit - 3)).map
        fun found => { d with others := d.others ++ [(key, found)] }).congr fun T d' => ?_
      cases d'
      grind [step_iff, FieldStep, KeepStep, ownKeys]
  · intro d key hrepeated T d' hstep
    rw [member] at hrepeated
    split_ifs at hrepeated with hid hpresent hname hpresent hscripts hpresent
    · exact hstep.id.not_isSome (congrArg some hid) hpresent
    · exact hstep.name.not_isSome (congrArg some hname) hpresent
    · exact hstep.scripts.not_isSome (congrArg some hscripts) hpresent

/-- The other members of an object, each with what it is. -/
def Kept (ms : List (Option String × Tree)) (others : List (String × Found)) : Prop :=
  List.Forall₂ (fun m other => m.1 = some other.1 ∧ m.2.IsReadable (nestingLimit - 3) ∧
    m.2.found = some other.2) (ms.filter fun m => m.1 ∉ ownKeys.map some) others

section
variable {key : String} {T : Tree} {ms : List (Option String × Tree)}
  {others : List (String × Found)}

theorem kept_cons_of_mem (h : key ∈ ownKeys) :
    Kept ((some key, T) :: ms) others ↔ Kept ms others := by
  rw [Kept, Kept, List.filter_cons_of_neg (by simpa using h)]

theorem kept_cons_of_not_mem (h : key ∉ ownKeys) :
    Kept ((some key, T) :: ms) others ↔ ∃ found others',
      (T.IsReadable (nestingLimit - 3) ∧ T.found = some found) ∧ Kept ms others' ∧
        others = (key, found) :: others' := by
  rw [Kept, List.filter_cons_of_pos (by simpa using h), List.forall₂_cons_left_iff]
  constructor
  · rintro ⟨⟨_, found⟩, others', ⟨⟨⟩, hT⟩, hms, rfl⟩
    exact ⟨found, others', hT, hms, rfl⟩
  · rintro ⟨found, others', hT, hms, rfl⟩
    exact ⟨_, others', ⟨rfl, hT⟩, hms, rfl⟩

/-- The other members are kept one by one. -/
theorem exists_kept_cons_iff {before after : List (String × Found)} :
    (∃ others, Kept ((some key, T) :: ms) others ∧ after = before ++ others) ↔
      ∃ next, KeepStep before key T next ∧ ∃ others, Kept ms others ∧ after = next ++ others := by
  by_cases hown : key ∈ ownKeys
  · simp only [KeepStep, if_pos hown, kept_cons_of_mem hown, exists_eq_left]
  · simp only [KeepStep, if_neg hown, kept_cons_of_not_mem hown]
    constructor
    · rintro ⟨_, ⟨found, others, hT, hothers, rfl⟩, rfl⟩
      exact ⟨_, ⟨found, hT, rfl⟩, others, hothers, by simp⟩
    · rintro ⟨_, ⟨found, hT, rfl⟩, others, hothers, rfl⟩
      exact ⟨_, ⟨found, others, hT, hothers, rfl⟩, by simp⟩

end

/-- **What members make of an object that is being read**: each part is filled for itself. -/
theorem run_step_iff {d d' : Draft} {ms : List (Option String × Tree)} :
    Run Step d ms d' ↔ (∀ m ∈ ms, m.1.isSome) ∧
      FillsFrom (some "id") IsUnsigned d.id ms d'.id ∧
      FillsFrom (some "name") IsString d.name ms d'.name ∧
      FillsFrom (some "scripts") (IsSequence IsString) d.scripts ms d'.scripts ∧
      ∃ others, Kept ms others ∧ d'.others = d.others ++ others := by
  apply run_iff
  case nil =>
    intro d d'
    constructor
    · rintro ⟨hid, hname, hscripts, _, ⟨⟩, hothers⟩
      exact Draft.ext hid hname hscripts (hothers.trans (List.append_nil _))
    · rintro rfl
      exact ⟨rfl, rfl, rfl, [], .nil, (List.append_nil _).symm⟩
  case cons =>
    intro d key T ms d'
    simp only [fillsFrom_cons, exists_kept_cons_iff]
    constructor
    · rintro ⟨⟨_, hid, hid'⟩, ⟨_, hname, hname'⟩, ⟨_, hscripts, hscripts'⟩, _, hothers, hothers'⟩
      exact ⟨⟨_, _, _, _⟩, ⟨hid, hname, hscripts, hothers⟩, hid', hname', hscripts', hothers'⟩
    · rintro ⟨next, hstep, hid, hname, hscripts, hothers⟩
      exact ⟨⟨_, hstep.id, hid⟩, ⟨_, hstep.name, hname⟩, ⟨_, hstep.scripts, hscripts⟩,
        _, hstep.others, hothers⟩

end SceneObject

theorem Json.required_eq_ok_iff {key : String} {held : Option α} {a : α} :
    required key held = .ok a ↔ held = some a := by
  cases held <;> simp [required]

/-- A coordinate of a position, from what was found. -/
def Json.Found.IsCoordinate (found : Found) (v : Binary64) : Prop := found.coordinate = .ok v

theorem Position.ofMembers_cons_iff {x y : Option Binary64} {key : String} {found : Found}
    {others : List (String × Found)} {p : Position} :
    Position.ofMembers x y ((key, found) :: others) = .ok p ↔
      ∃ x' y', FieldStep "x" Found.IsCoordinate x key found x' ∧
        FieldStep "y" Found.IsCoordinate y key found y' ∧
        Position.ofMembers x' y' others = .ok p := by
  rw [ofMembers]
  by_cases hx : key = "x"
  · subst hx
    cases x <;> simp [FieldStep, Found.IsCoordinate, bind_eq_ok_iff]
  by_cases hy : key = "y"
  · subst hy
    cases y <;> simp [FieldStep, Found.IsCoordinate, bind_eq_ok_iff]
  · simp [FieldStep, hx, hy]

/-- **What a position is made of**: one coordinate of each name, in any order. -/
theorem Position.ofMembers_iff {x y : Option Binary64} {others : List (String × Found)}
    {p : Position} :
    Position.ofMembers x y others = .ok p ↔
      FillsFrom "x" Found.IsCoordinate x others (some p.x) ∧
        FillsFrom "y" Found.IsCoordinate y others (some p.y) := by
  induction others generalizing x y with
  | nil =>
    rw [ofMembers, FillsFrom, FillsFrom]
    simp only [bind_eq_ok_iff, required_eq_ok_iff]
    constructor
    · rintro ⟨x, rfl, y, rfl, heq⟩
      cases heq
      exact ⟨rfl, rfl⟩
    · rintro ⟨rfl, rfl⟩
      exact ⟨_, rfl, _, rfl, rfl⟩
  | cons other others ih =>
    obtain ⟨key, found⟩ := other
    simp only [ofMembers_cons_iff, ih, fillsFrom_cons]
    constructor
    · rintro ⟨x', y', hx, hy, hx', hy'⟩
      exact ⟨⟨x', hx, hx'⟩, y', hy, hy'⟩
    · rintro ⟨⟨x', hx, hx'⟩, y', hy, hy'⟩
      exact ⟨x', y', hx, hy, hx', hy'⟩

namespace SceneObject

/-- What is kept of a key is what its values are. -/
theorem forall₂_valuesOf_of_kept {key : String} (hkey : key ∉ ownKeys)
    {ms : List (Option String × Tree)} {others : List (String × Found)} (h : Kept ms others) :
    List.Forall₂ (fun T found => T.found = some found) (valuesOf (some key) ms)
      (valuesOf key others) := by
  induction ms generalizing others with
  | nil =>
    cases h
    exact .nil
  | cons m ms ih =>
    obtain ⟨_ | key', T⟩ := m
    · rw [Kept, List.filter_cons_of_pos (by simp), List.forall₂_cons_left_iff] at h
      obtain ⟨_, _, ⟨⟨⟩, _⟩, _⟩ := h
    by_cases hown : key' ∈ ownKeys
    · have hne : key' ≠ key := fun heq => hkey (heq ▸ hown)
      rw [valuesOf_cons_of_ne (by simpa using hne)]
      exact ih ((kept_cons_of_mem hown).1 h)
    · obtain ⟨found, others', ⟨-, hfound⟩, hothers, rfl⟩ := (kept_cons_of_not_mem hown).1 h
      by_cases heq : key' = key
      · subst heq
        rw [valuesOf_cons_self, valuesOf_cons_self]
        exact .cons hfound (ih hothers)
      · rw [valuesOf_cons_of_ne (by simpa using heq), valuesOf_cons_of_ne heq]
        exact ih hothers

theorem exists_kept_iff {ms : List (Option String × Tree)} (hkeys : ∀ m ∈ ms, m.1.isSome) :
    (∃ others, Kept ms others) ↔
      ∀ m ∈ ms, m.1 ∉ ownKeys.map some → m.2.IsReadable (nestingLimit - 3) := by
  induction ms with
  | nil => exact iff_of_true ⟨[], .nil⟩ (List.forall_mem_nil _)
  | cons m ms ih =>
    obtain ⟨_ | key, T⟩ := m
    · exact absurd (hkeys _ List.mem_cons_self) Bool.false_ne_true
    rw [List.forall_mem_cons] at hkeys ⊢
    rw [← ih hkeys.2]
    by_cases hown : key ∈ ownKeys
    · simp only [kept_cons_of_mem hown]
      have hmem : some key ∈ ownKeys.map some := List.mem_map_of_mem hown
      exact ⟨fun h => ⟨absurd hmem, h⟩, And.right⟩
    · simp only [kept_cons_of_not_mem hown]
      constructor
      · rintro ⟨_, found, others, ⟨hT, -⟩, hothers, -⟩
        exact ⟨fun _ => hT, others, hothers⟩
      · rintro ⟨hT, others, hothers⟩
        have hT' := hT (by simpa using hown)
        obtain ⟨found, hfound⟩ := hT'.exists_found
        exact ⟨_, found, others, ⟨hT', hfound⟩, hothers, rfl⟩

theorem ofDraft_eq_ok_iff {d : Draft} {o : SceneObject} :
    ofDraft d = .ok o ↔ d.id = some o.id ∧ d.name = some o.name ∧
      Position.ofMembers none none d.others = .ok o.position ∧ o.scripts = d.scripts.getD [] := by
  simp only [ofDraft, bind_eq_ok_iff, required_eq_ok_iff]
  constructor
  · rintro ⟨id, hid, name, hname, position, hposition, heq⟩
    cases heq
    exact ⟨hid, hname, hposition, rfl⟩
  · rintro ⟨hid, hname, hposition, hscripts⟩
    exact ⟨_, hid, _, hname, _, hposition, by rw [← hscripts]; rfl⟩

/-- **What an object is made of**: the members of its own keys, and the coordinates among
    the others. -/
theorem ofMembers_iff {ms : List (Option String × Tree)} {o : SceneObject} :
    OfMembers ms o ↔ ∃ d, Run Step ⟨none, none, none, []⟩ ms d ∧ ofDraft d = .ok o := by
  simp only [run_step_iff, ofDraft_eq_ok_iff, Position.ofMembers_iff, fillsFrom_none_iff]
  have hcoordinate {key : String} (hkey : key ∉ ownKeys) {others : List (String × Found)}
      (h : Kept ms others) (v : Binary64) :
      Fills key Found.IsCoordinate others (some v) ↔
        Fills (some key) IsCoordinate ms (some v) := by
    have hvalues := forall₂_valuesOf_of_kept hkey h
    constructor
    · refine forall₂_of_forall₂ (fun found T v hfound hv => ⟨found, hfound, hv⟩) hvalues.flip
    · refine forall₂_of_forall₂ (fun T found v hfound hv => ?_) hvalues
      obtain ⟨found', hfound', hv⟩ := hv
      obtain rfl : found' = found := Option.some.inj (hfound'.symm.trans hfound)
      exact hv
  constructor
  · intro h
    obtain ⟨others, hothers⟩ := (exists_kept_iff h.keys).2 h.others
    obtain ⟨ss, hss, hscripts⟩ := h.scripts
    exact ⟨⟨some o.id, some o.name, ss, others⟩,
      ⟨h.keys, h.id, h.name, hss, others, hothers, rfl⟩, rfl, rfl,
      ⟨(hcoordinate (by decide) hothers _).2 h.x, (hcoordinate (by decide) hothers _).2 h.y⟩,
      hscripts⟩
  · rintro ⟨d, ⟨hkeys, hid, hname, hss, others, hothers, heq⟩, hid', hname', ⟨hx, hy⟩, hscripts⟩
    rw [List.nil_append] at heq
    rw [heq] at hx hy
    exact {
      keys := hkeys
      id := hid' ▸ hid
      name := hname' ▸ hname
      x := (hcoordinate (by decide) hothers _).1 hx
      y := (hcoordinate (by decide) hothers _).1 hy
      scripts := ⟨d.scripts, hss, hscripts⟩
      others := (exists_kept_iff hkeys).1 ⟨others, hothers⟩ }

theorem follows_object : Follows readTree SceneObject.read IsObject := by
  refine follows_readTree fun c => follows_treeAt ?_ ?_ fun _ hmap => ?_
  · rintro rfl
    exact follows_error fun _ _ h => h
  · rintro rfl cs o rest
    constructor
    · intro ho
      obtain ⟨⟨d, _⟩, hd, hfinish⟩ := bind_eq_ok_iff.1 ho
      obtain ⟨hvalue, rfl⟩ := Record.finish_eq_ok_iff.1 hfinish
      obtain ⟨ms, hms, hrun⟩ := (follows_members followsMembers_step _ _ _ _).1 hd
      exact ⟨ms, hms, ofMembers_iff.2 ⟨d, hrun, hvalue⟩⟩
    · rintro ⟨ms, hms, ho⟩
      obtain ⟨d, hrun, hvalue⟩ := ofMembers_iff.1 ho
      exact bind_eq_ok_iff.2 ⟨_, (follows_members followsMembers_step _ _ _ _).2 ⟨ms, hms, hrun⟩,
        Record.finish_eq_ok_iff.2 ⟨hvalue, rfl⟩⟩
  · simp only [if_neg hmap]
    exact follows_error fun _ _ h => h

end SceneObject

/-! ## Projects -/

/-- What the value of the field of a project does to the draft. -/
def ProjectStep (_ : Json.Field (Option String)) (_ : Option String) (T : Tree)
    (held : Option String) : Prop :=
  ∃ name, IsString T name ∧ held = some name

theorem step_project_iff {held next : Option String} {key : String} {T : Tree} :
    projectRecord.Step ProjectStep held key T next ↔
      FieldStep (some "name") IsString held (some key) T next := by
  by_cases hname : key = "name"
  · simp [Record.Step, projectRecord, ProjectStep, FieldStep, hname]
  · simp [Record.Step, projectRecord, FieldStep, hname, Ne.symm hname]

theorem hasOwnFields_project : projectRecord.HasOwnFields ProjectStep where
  distinct := by decide
  absent := by simp [projectRecord]
  frame := by simp [projectRecord]

theorem run_project_iff {held held' : Option String} {ms : List (Option String × Tree)} :
    Run (projectRecord.Step ProjectStep) held ms held' ↔
      (∀ m ∈ ms, m.1.isSome) ∧ FillsFrom (some "name") IsString held ms held' :=
  run_iff (fun _ _ => Iff.rfl) fun held key T ms held' => by
    rw [fillsFrom_cons]
    simp only [step_project_iff]

theorem follows_project : Follows readTree projectRecord.read IsProject := by
  have hfields : ∀ field ∈ projectRecord.fields, ∀ held,
      Follows readTree (field.read held) (ProjectStep field held) := by
    intro field hfield held
    obtain rfl := List.mem_singleton.1 hfield
    exact (follows_string "a string").map some
  have hsame (length : Nat) (held : Option String) (name : String) :
      projectRecord.ofSequence length held = .ok name ↔ projectRecord.ofMap held = .ok name := by
    cases held <;> simp [projectRecord, required]
  refine (follows_record hfields).congr fun T name => ?_
  rw [hasOwnFields_project.isRecord_iff hsame]
  refine exists_congr fun ms => ?_
  constructor
  · rintro ⟨held, hms, hrun, hvalue⟩
    obtain ⟨hkeys, hname⟩ := run_project_iff.1 hrun
    obtain rfl := required_eq_ok_iff.1 hvalue
    exact ⟨hms, hkeys, fillsFrom_none_iff.1 hname⟩
  · rintro ⟨hms, hkeys, hname⟩
    exact ⟨some name, hms, run_project_iff.2 ⟨hkeys, fillsFrom_none_iff.2 hname⟩, rfl⟩

/-! ## Scenes -/

namespace Scene

/-- What the value of a field of a scene does to the draft. -/
def Step (field : Json.Field Draft) (d : Draft) (T : Tree) (d' : Draft) : Prop :=
  if field.key = "project" then
    ∃ name, IsOptional IsProject T name ∧ d' = { d with project := some name }
  else if field.key = "gameObjects" then
    ∃ os, IsSequence IsObject T os ∧ d' = { d with objects := some os }
  else if field.key = "selectedObjectId" then
    ∃ id, IsOptional IsUnsigned T id ∧ d' = { d with selected := some id }
  else ∃ ss, IsSequence IsString T ss ∧ d' = { d with catalog := some ss }

theorem hasOwnFields_record : record.HasOwnFields Step where
  distinct := by decide
  absent := by simp [record]
  frame := by
    intro field hfield other hother hne d T d' hstep
    simp only [record, List.mem_cons, List.not_mem_nil, or_false] at hfield hother
    rcases hfield with rfl | rfl | rfl | rfl
    all_goals
      obtain ⟨_, -, rfl⟩ := hstep
      rcases hother with rfl | rfl | rfl | rfl
      all_goals first | exact absurd rfl hne | rfl

theorem step_record_iff {d next : Draft} {key : String} {T : Tree} :
    record.Step Step d key T next ↔
      FieldStep (some "project") (IsOptional IsProject) d.project (some key) T next.project ∧
      FieldStep (some "gameObjects") (IsSequence IsObject) d.objects (some key) T next.objects ∧
      FieldStep (some "selectedObjectId") (IsOptional IsUnsigned) d.selected (some key) T
        next.selected ∧
      FieldStep (some "scripts") (IsSequence IsString) d.catalog (some key) T next.catalog := by
  obtain ⟨project, objects, selected, catalog⟩ := next
  by_cases hkey : ∃ field ∈ record.fields, field.key = key
  · obtain ⟨field, hfield, rfl⟩ := hkey
    rw [hasOwnFields_record.step_iff hfield]
    simp only [record, List.mem_cons, List.not_mem_nil, or_false] at hfield
    rcases hfield with rfl | rfl | rfl | rfl
    all_goals
      simp only [Option.isSome_eq_false_iff, Option.isNone_iff_eq_none]
      grind [Step, FieldStep]
  · have hfind : record.fields.find? (·.key = key) = none := by simpa using hkey
    simp only [record, List.mem_cons, List.not_mem_nil, or_false, exists_eq_or_imp,
      exists_eq_left, not_or] at hkey
    rw [Record.Step, hfind]
    cases d
    grind [FieldStep]

theorem follows_fields : ∀ field ∈ record.fields, ∀ d,
    Follows readTree (field.read d) (Step field d) := by
  intro field hfield d
  simp only [record, List.mem_cons, List.not_mem_nil, or_false] at hfield
  rcases hfield with rfl | rfl | rfl | rfl
  · exact (follows_optional follows_project).map fun name => { d with project := some name }
  · exact (follows_readSequence SceneObject.follows_object).map fun os =>
      { d with objects := some os }
  · exact (follows_optional follows_unsigned).map fun id => { d with selected := some id }
  · exact (follows_readSequence (follows_string "a string")).map fun ss =>
      { d with catalog := some ss }

/-- **What members make of a scene that is being read**: each part is filled for itself. -/
theorem run_step_iff {d d' : Draft} {ms : List (Option String × Tree)} :
    Run (record.Step Step) d ms d' ↔ (∀ m ∈ ms, m.1.isSome) ∧
      FillsFrom (some "project") (IsOptional IsProject) d.project ms d'.project ∧
      FillsFrom (some "gameObjects") (IsSequence IsObject) d.objects ms d'.objects ∧
      FillsFrom (some "selectedObjectId") (IsOptional IsUnsigned) d.selected ms d'.selected ∧
      FillsFrom (some "scripts") (IsSequence IsString) d.catalog ms d'.catalog := by
  apply run_iff
  case nil => exact fun _ _ => Draft.ext_iff.symm
  case cons =>
    intro d key T ms d'
    simp only [fillsFrom_cons, step_record_iff]
    constructor
    · rintro ⟨⟨_, hproject, hproject'⟩, ⟨_, hobjects, hobjects'⟩, ⟨_, hselected, hselected'⟩,
        _, hcatalog, hcatalog'⟩
      exact ⟨⟨_, _, _, _⟩, ⟨hproject, hobjects, hselected, hcatalog⟩, hproject', hobjects',
        hselected', hcatalog'⟩
    · rintro ⟨next, ⟨hproject, hobjects, hselected, hcatalog⟩, hproject', hobjects', hselected',
        hcatalog'⟩
      exact ⟨⟨_, hproject, hproject'⟩, ⟨_, hobjects, hobjects'⟩, ⟨_, hselected, hselected'⟩,
        _, hcatalog, hcatalog'⟩

theorem ofMembers_iff {ms : List (Option String × Tree)} {s : Scene} :
    OfMembers ms s ↔ ∃ d, Run (record.Step Step) record.start ms d ∧ ofDraft d = s := by
  have hstart : record.start = ⟨none, none, none, none⟩ := rfl
  simp only [run_step_iff, hstart, fillsFrom_none_iff]
  constructor
  · rintro ⟨hkeys, ⟨name, hname, hproject⟩, ⟨os, hos, hobjects⟩, ⟨id, hid, hselected⟩,
      ⟨ss, hss, hcatalog⟩⟩
    refine ⟨⟨name, os, id, ss⟩, ⟨hkeys, hname, hos, hid, hss⟩, ?_⟩
    rw [ofDraft, ← hproject, ← hobjects, ← hselected, ← hcatalog]
  · rintro ⟨d, ⟨hkeys, hname, hos, hid, hss⟩, rfl⟩
    exact ⟨hkeys, ⟨_, hname, rfl⟩, ⟨_, hos, rfl⟩, ⟨_, hid, rfl⟩, ⟨_, hss, rfl⟩⟩

theorem follows_record : Follows readTree record.read IsScene := by
  refine (Json.follows_record follows_fields).congr fun T s => ?_
  rw [hasOwnFields_record.isRecord_iff fun _ _ _ => Iff.rfl]
  refine exists_congr fun ms => ?_
  simp only [ofMembers_iff]
  constructor
  · rintro ⟨d, hms, hrun, hs⟩
    exact ⟨hms, d, hrun, Except.ok.inj hs⟩
  · rintro ⟨hms, d, hrun, rfl⟩
    exact ⟨d, hms, hrun, rfl⟩

/-- **A text is read as a scene** iff it is a text of a tree of the scene. -/
theorem read_eq_ok_iff {text : String} {s : Scene} :
    read text = .ok s ↔ ∃ T, Tree.SpellsText T text ∧ IsScene T s :=
  follows_record.readText_eq_ok_iff

end Scene

end SpriteScene
