/-
  Scenes whose members stand in another order.

  * `Scene.Rearranged`: a scene with the members of the scene itself, of its project and of
    its objects in another order, and with members of unknown keys put in anywhere.  It is
    read as the same scene (`IsScene.rearranged`);
  * `Scene.Repeats`: a known key occurs twice in one of these.  It is no scene
    (`Scene.Repeats.not_isScene`);
  * `Scene.read_unordered` says both of the texts.
-/
import Mathlib.Tactic
import SpriteScene.Proofs.Scene.Reading

namespace SpriteScene

open Json

/-! ## The same members in another order -/

/-- The keys of an object. -/
def SceneObject.keys : List String := ["id", "name", "x", "y", "scripts"]

/-- An object in another order.  What is put in has to be readable. -/
inductive SceneObject.Rearranged : Tree → Tree → Prop
  | map {ms ms' : List (Option String × Tree)} :
      Json.Rearranged keys (Tree.IsReadable (nestingLimit - 3)) (fun _ => Eq) ms ms' →
        Rearranged (.map ms) (.map ms')

/-- The objects of a scene, each of them in another order. -/
inductive ObjectsRearranged : Tree → Tree → Prop
  | same {T : Tree} : ObjectsRearranged T T
  | sequence {es es' : List Tree} :
      List.Forall₂ SceneObject.Rearranged es es' → ObjectsRearranged (.sequence es) (.sequence es')

/-- A project in another order. -/
inductive ProjectRearranged : Tree → Tree → Prop
  | same {T : Tree} : ProjectRearranged T T
  | members {T T' : Tree} {ms ms' : List (Option String × Tree)} :
      T.members? ["name"] = some ms → T'.members? ["name"] = some ms' →
        Json.Rearranged ["name"] (fun _ => True) (fun _ => Eq) ms ms' → ProjectRearranged T T'

namespace Scene

/-- What the value of a member of a scene may be replaced with. -/
def RearrangedValue (key : Option String) (T T' : Tree) : Prop :=
  if key = some "project" then ProjectRearranged T T'
  else if key = some "gameObjects" then ObjectsRearranged T T'
  else T = T'

/-- A scene in another order. -/
def Rearranged (T T' : Tree) : Prop :=
  ∃ ms ms', T.members? keys = some ms ∧ T'.members? keys = some ms' ∧
    Json.Rearranged keys (fun _ => True) RearrangedValue ms ms'

/-- A known key occurs twice in a scene, in its project or in one of its objects. -/
inductive Repeats (T : Tree) : Prop
  | scene {ms : List (Option String × Tree)} {key : String} :
      T.members? keys = some ms → key ∈ keys → HasTwice key ms → Repeats T
  | project {ms ms' : List (Option String × Tree)} {P : Tree} :
      T.members? keys = some ms → (some "project", P) ∈ ms → P.members? ["name"] = some ms' →
        HasTwice "name" ms' → Repeats T
  | object {ms ms' : List (Option String × Tree)} {es : List Tree} {key : String} :
      T.members? keys = some ms → (some "gameObjects", .sequence es) ∈ ms → .map ms' ∈ es →
        key ∈ SceneObject.keys → HasTwice key ms' → Repeats T

end Scene

/-! ## Rearranged scenes are read as the same -/

theorem Json.Rearranged.isSome_keys {known : List String} {extra : Tree → Prop}
    {value : Option String → Tree → Tree → Prop} {ms ms' : List (Option String × Tree)}
    (h : Rearranged known extra value ms ms') (hms : ∀ m ∈ ms, m.1.isSome) :
    ∀ m ∈ ms', m.1.isSome :=
  h.forall (p := fun m => m.1.isSome) (fun _ _ _ _ => id) (fun _ _ _ _ => rfl) hms

/-- Members with the same values fill a field with the same. -/
theorem Json.Rearranged.fills_of_eq {known : List String} {extra : Tree → Prop}
    {ms ms' : List (Option String × Tree)} (h : Rearranged known extra (fun _ => Eq) ms ms')
    {key : String} {P : Tree → α → Prop} {filled : Option α} (hkey : key ∈ known)
    (hfills : Fills (some key) P ms filled) : Fills (some key) P ms' filled :=
  h.fills hkey (fun _ _ _ heq hP => heq ▸ hP) hfills

theorem IsObject.rearranged {T T' : Tree} {o : SceneObject} (ho : IsObject T o)
    (h : SceneObject.Rearranged T T') : IsObject T' o := by
  obtain ⟨h⟩ := h
  obtain ⟨ss, hss, hscripts⟩ := ho.scripts
  have hothers := h.forall
    (p := fun m => m.1 ∉ SceneObject.ownKeys.map some → m.2.IsReadable (nestingLimit - 3))
    (fun _ _ _ heq hT => heq ▸ hT) (fun _ _ _ hT _ => hT) ho.others
  exact {
    keys := h.isSome_keys ho.keys
    id := h.fills_of_eq (by decide) ho.id
    name := h.fills_of_eq (by decide) ho.name
    x := h.fills_of_eq (by decide) ho.x
    y := h.fills_of_eq (by decide) ho.y
    scripts := ⟨ss, h.fills_of_eq (by decide) hss, hscripts⟩
    others := hothers }

theorem IsProject.rearranged {T T' : Tree} {name : Option String}
    (hname : IsOptional IsProject T name) (h : ProjectRearranged T T') :
    IsOptional IsProject T' name := by
  cases h with
  | same => exact hname
  | @members _ ms ms' hms hms' h =>
    cases name with
    | none =>
      obtain rfl : T = .null := hname
      cases hms
    | some name =>
      obtain ⟨-, _, hms₁, hkeys, hname⟩ := hname
      obtain rfl := Option.some.inj (hms₁.symm.trans hms)
      refine ⟨?_, ms', hms', h.isSome_keys hkeys, h.fills_of_eq (by decide) hname⟩
      rintro rfl
      cases hms'

theorem ObjectsRearranged.isSequence {T T' : Tree} {os : List SceneObject}
    (h : ObjectsRearranged T T') (hos : IsSequence IsObject T os) :
    IsSequence IsObject T' os := by
  cases h with
  | same => exact hos
  | sequence h =>
    refine forall₂_of_forall₂ (P := IsObject) (fun T T' o h ho => ?_) h hos
    exact IsObject.rearranged ho h

/-- **A scene in another order is the same scene.** -/
theorem IsScene.rearranged {T T' : Tree} {s : Scene} (hs : IsScene T s)
    (h : Scene.Rearranged T T') : IsScene T' s := by
  obtain ⟨ms, ms', hms, hms', h⟩ := h
  obtain ⟨_, hms₁, hs⟩ := hs
  obtain rfl := Option.some.inj (hms₁.symm.trans hms)
  obtain ⟨name, hname, hproject⟩ := hs.project
  obtain ⟨os, hos, hobjects⟩ := hs.objects
  obtain ⟨id, hid, hselected⟩ := hs.selected
  obtain ⟨ss, hss, hcatalog⟩ := hs.catalog
  refine ⟨ms', hms', {
    keys := h.isSome_keys hs.keys
    project := ⟨name, h.fills (by decide) (fun _ _ _ h ha => ?_) hname, hproject⟩
    objects := ⟨os, h.fills (by decide) (fun _ _ _ h ha => ?_) hos, hobjects⟩
    selected := ⟨id, h.fills (by decide) (fun _ _ _ h ha => ?_) hid, hselected⟩
    catalog := ⟨ss, h.fills (by decide) (fun _ _ _ h ha => ?_) hss, hcatalog⟩ }⟩
  · exact IsProject.rearranged ha h
  · exact ObjectsRearranged.isSequence h ha
  · obtain rfl : _ = _ := h
    exact ha
  · obtain rfl : _ = _ := h
    exact ha

/-! ## Known keys that occur twice -/

theorem Scene.Repeats.not_isScene {T : Tree} (h : Scene.Repeats T) (s : Scene) : ¬ IsScene T s := by
  rintro ⟨ms, hms, hs⟩
  obtain ⟨name, hname, -⟩ := hs.project
  obtain ⟨os, hos, -⟩ := hs.objects
  obtain ⟨id, hid, -⟩ := hs.selected
  obtain ⟨ss, hss, -⟩ := hs.catalog
  cases h with
  | scene hms' hkey htwice =>
    obtain rfl := Option.some.inj (hms'.symm.trans hms)
    simp only [Scene.keys, List.mem_cons, List.not_mem_nil, or_false] at hkey
    rcases hkey with rfl | rfl | rfl | rfl
    · exact htwice.not_fills hname
    · exact htwice.not_fills hos
    · exact htwice.not_fills hid
    · exact htwice.not_fills hss
  | project hms' hP hpms htwice =>
    obtain rfl := Option.some.inj (hms'.symm.trans hms)
    obtain ⟨_ | name', hproject⟩ := hname.exists_of_mem hP
    · obtain rfl : _ = Tree.null := hproject
      cases hpms
    · obtain ⟨-, _, hpms', -, hname'⟩ := hproject
      obtain rfl := Option.some.inj (hpms.symm.trans hpms')
      exact htwice.not_fills hname'
  | object hms' hes homs hkey htwice =>
    obtain rfl := Option.some.inj (hms'.symm.trans hms)
    obtain ⟨os', hos'⟩ := hos.exists_of_mem hes
    obtain ⟨o, ho⟩ := exists_of_mem_forall₂ hos' homs
    obtain ⟨ss', hss', -⟩ := SceneObject.OfMembers.scripts ho
    simp only [SceneObject.keys, List.mem_cons, List.not_mem_nil, or_false] at hkey
    rcases hkey with rfl | rfl | rfl | rfl | rfl
    · exact htwice.not_fills (SceneObject.OfMembers.id ho)
    · exact htwice.not_fills (SceneObject.OfMembers.name ho)
    · exact htwice.not_fills (SceneObject.OfMembers.x ho)
    · exact htwice.not_fills (SceneObject.OfMembers.y ho)
    · exact htwice.not_fills hss'

/-! ## Texts -/

/-- A text is a text of one tree only. -/
theorem Json.Tree.SpellsText.unique {T T' : Tree} {text : String} (h : T.SpellsText text)
    (h' : T'.SpellsText text) : T = T' :=
  Except.ok.inj ((Tree.spellsText_iff.1 h).symm.trans (Tree.spellsText_iff.1 h'))

/-- **Scenes are read whatever the order of their members, and never pick among
    repetitions.**  A text that is read as a scene is the text of a tree, and every text of
    that tree in another order is read as the same scene.  A text in which a known key
    occurs twice is refused. -/
theorem Scene.read_unordered (text : String) :
    (∀ s, read text = .ok s → (∃ T, Tree.SpellsText T text) ∧
      ∀ T T' text', T.SpellsText text → Rearranged T T' → T'.SpellsText text' →
        read text' = .ok s) ∧
    ∀ T, Tree.SpellsText T text → Repeats T → ∃ fault, read text = .error fault := by
  constructor
  · intro s hs
    obtain ⟨T, hT, hscene⟩ := read_eq_ok_iff.1 hs
    refine ⟨⟨T, hT⟩, fun T₁ T' text' hT₁ h hT' => ?_⟩
    obtain rfl := hT₁.unique hT
    exact read_eq_ok_iff.2 ⟨T', hT', hscene.rearranged h⟩
  · intro T hT hrepeats
    cases hread : read text with
    | error fault => exact ⟨fault, rfl⟩
    | ok s =>
      obtain ⟨T', hT', hscene⟩ := read_eq_ok_iff.1 hread
      obtain rfl := hT.unique hT'
      exact absurd hscene (hrepeats.not_isScene s)

/-! ### A scene, one in another order, and one that repeats a key -/

/-- The tree of a whole number. -/
def Json.Tree.ofNat (n : Nat) : Tree := .scalar (some (.number (.whole n)))

/-- The tree of a string. -/
def Json.Tree.ofString (s : String) : Tree := .scalar (some (.string s))

namespace Scene

def antScene : Scene := ⟨some "hill", [⟨7, "ant", ⟨.zero, .ofInt 2⟩, []⟩], none, []⟩

def antText : String :=
  "\x7b\"project\":\x7b\"name\":\"hill\"\x7d," ++
    "\"gameObjects\":[\x7b\"id\":7,\"name\":\"ant\",\"x\":0,\"y\":2\x7d]\x7d"

def antMembers : List (Option String × Tree) :=
  [(some "id", .ofNat 7), (some "name", .ofString "ant"), (some "x", .ofNat 0),
    (some "y", .ofNat 2)]

def antTree : Tree :=
  .map [(some "project", .map [(some "name", .ofString "hill")]),
    (some "gameObjects", .sequence [.map antMembers])]

/-- All members backwards, and unknown keys among them: one in the scene, one in the
    project, and one twice in the object. -/
def shuffledText : String :=
  "\x7b\"v\":1,\"gameObjects\":[\x7b\"t\":null,\"t\":[],\"y\":2,\"x\":0,\"name\":\"ant\"," ++
    "\"id\":7\x7d],\"project\":\x7b\"v\":1,\"name\":\"hill\"\x7d\x7d"

def shuffledMembers : List (Option String × Tree) :=
  [(some "t", .null), (some "t", .sequence []), (some "y", .ofNat 2), (some "x", .ofNat 0),
    (some "name", .ofString "ant"), (some "id", .ofNat 7)]

def shuffledProject : Tree := .map [(some "v", .ofNat 1), (some "name", .ofString "hill")]

def shuffledTree : Tree :=
  .map [(some "v", .ofNat 1), (some "gameObjects", .sequence [.map shuffledMembers]),
    (some "project", shuffledProject)]

theorem rearranged_antTree : Rearranged antTree shuffledTree := by
  have hobject : SceneObject.Rearranged (.map antMembers) (.map shuffledMembers) := by
    refine .map ⟨antMembers, [(some "t", .sequence []), (some "t", .null)], ?_, ?_, ?_⟩
    · exact List.forall₂_same.2 fun m _ => ⟨rfl, rfl⟩
    · simp only [List.forall_mem_cons]
      exact ⟨⟨"t", rfl, by decide, .sequence (List.forall_mem_nil _)⟩,
        ⟨"t", rfl, by decide, .scalar⟩, List.forall_mem_nil _⟩
    · exact List.reverse_perm (antMembers ++ [(some "t", .sequence []), (some "t", .null)])
  have hproject : ProjectRearranged (.map [(some "name", .ofString "hill")]) shuffledProject := by
    refine .members rfl rfl ⟨[(some "name", .ofString "hill")], [(some "v", .ofNat 1)], ?_, ?_, ?_⟩
    · exact List.forall₂_same.2 fun m _ => ⟨rfl, rfl⟩
    · exact List.forall_mem_singleton.2 ⟨"v", rfl, by decide, trivial⟩
    · exact .swap _ _ _
  refine ⟨_, _, rfl, rfl, [(some "project", shuffledProject),
    (some "gameObjects", .sequence [.map shuffledMembers])], [(some "v", .ofNat 1)], ?_, ?_, ?_⟩
  · exact .cons ⟨rfl, hproject⟩ (.cons ⟨rfl, .sequence (.cons hobject .nil)⟩ .nil)
  · exact List.forall_mem_singleton.2 ⟨"v", rfl, by decide, trivial⟩
  · exact List.reverse_perm [(some "project", shuffledProject),
      (some "gameObjects", .sequence [.map shuffledMembers]), (some "v", .ofNat 1)]

/-- A coordinate twice, the second time with something that is no number. -/
def doubledText : String :=
  "\x7b\"gameObjects\":[\x7b\"id\":7,\"name\":\"ant\",\"x\":0,\"y\":2,\"x\":\"\"\x7d]\x7d"

def doubledTree : Tree :=
  .map [(some "gameObjects", .sequence [.map (antMembers ++ [(some "x", .ofString "")])])]

theorem repeats_doubledTree : Repeats doubledTree := by
  have htwice : HasTwice "x" (antMembers ++ [(some "x", .ofString "")]) :=
    ⟨.ofNat 0, .ofString "", .cons _ (.cons _ (.cons_cons _ (.cons _ (.cons_cons _ .slnil))))⟩
  exact .object rfl List.mem_cons_self List.mem_cons_self (by decide) htwice

theorem read_unordered_antText : read antText = .ok antScene ∧
    (∃ T, Tree.SpellsText T antText) ∧ read shuffledText = .ok antScene ∧
      ∃ fault, read doubledText = .error fault := by
  have hread : read antText = .ok antScene := by decide +kernel
  have hant : antTree.SpellsText antText := Tree.spellsText_iff.2 (by cbv)
  have hshuffled : shuffledTree.SpellsText shuffledText := Tree.spellsText_iff.2 (by cbv)
  have hdoubled : doubledTree.SpellsText doubledText := Tree.spellsText_iff.2 (by cbv)
  obtain ⟨hexists, hunordered⟩ := (read_unordered antText).1 antScene hread
  exact ⟨hread, hexists, hunordered _ _ _ hant rearranged_antTree hshuffled,
    (read_unordered doubledText).2 _ hdoubled repeats_doubledTree⟩

end Scene

end SpriteScene
