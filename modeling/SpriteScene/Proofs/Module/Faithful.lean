/-
  A module carries what a scene means, and nothing else.

  * `SceneObject.Alike`: objects with the same name, the same coordinates and
    the same scripts, as far as a `key` tells references apart;
  * `moduleLines_congr`: scenes whose objects are alike by the module paths of
    their references have the same module;
  * `alike_of_flatten_eq`: from the statements of a module the objects are
    read back, alike by the names of their references;
  * `Scene.compile_inj_iff` puts both together: the imports of the module lead
    from the names back to the module paths.
-/
import SpriteScene.Proofs.Module.Scope

namespace SpriteScene

/-- Objects that agree in what a module holds of them, where `key` is what
    counts of a reference. -/
structure SceneObject.Alike (key : String → String) (o p : SceneObject) : Prop where
  name : o.name = p.name
  x : o.position.x.literal = p.position.x.literal
  y : o.position.y.literal = p.position.y.literal
  scripts : o.scripts.map key = p.scripts.map key

/-- Lists that agree by one key agree by every key that it determines. -/
theorem map_eq_map_of_imp {α β γ : Type} {f : α → β} {g : α → γ} :
    ∀ {as bs : List α}, (∀ a ∈ as, ∀ b ∈ bs, f a = f b → g a = g b) → as.map f = bs.map f →
      as.map g = bs.map g
  | [], [], _, _ => rfl
  | a :: as, b :: bs, himp, h => by
    obtain ⟨hhead, htail⟩ := List.cons.inj h
    rw [List.map_cons, List.map_cons, himp a (by simp) b (by simp) hhead, map_eq_map_of_imp ?_ htail]
    exact fun a' ha b' hb => himp a' (List.mem_cons_of_mem _ ha) b' (List.mem_cons_of_mem _ hb)

/-! ## Alike objects have one module -/

theorem SceneObject.Alike.codeLines_eq {o p : SceneObject} (h : o.Alike modulePathOf p)
    (index : Nat) : o.codeLines index = p.codeLines index := by
  have hconstruct : (o.scripts.map Script.named).map Script.construction =
      (p.scripts.map Script.named).map Script.construction := by
    rw [List.map_map, List.map_map]
    refine map_eq_map_of_imp (fun r _ r' _ he => ?_) h.scripts
    simp only [Function.comp, Script.construction, Script.named_symbol, symbolOf_congr he]
  have hempty : o.scripts = [] ↔ p.scripts = [] := by
    rw [← List.map_eq_nil_iff (f := modulePathOf), h.scripts, List.map_eq_nil_iff]
  simp only [codeLines, blockLines, creationLine, nameLine, scriptsLine, h.name, h.x, h.y,
    hconstruct, List.isEmpty_iff, List.map_eq_nil_iff, hempty]

theorem blockLinesFrom_congr {os ps : List SceneObject}
    (h : List.Forall₂ (SceneObject.Alike modulePathOf) os ps) :
    ∀ index, blockLinesFrom index os = blockLinesFrom index ps := by
  induction h with
  | nil => intro index; rfl
  | cons ho _ ih =>
    intro index
    rw [blockLinesFrom_cons, blockLinesFrom_cons, ho.codeLines_eq, ih]

theorem flatMap_modulePathOf_congr {os ps : List SceneObject}
    (h : List.Forall₂ (SceneObject.Alike modulePathOf) os ps) :
    (os.flatMap (·.scripts)).map modulePathOf = (ps.flatMap (·.scripts)).map modulePathOf := by
  induction h with
  | nil => rfl
  | cons ho _ ih =>
    rw [List.flatMap_cons, List.flatMap_cons, List.map_append, List.map_append, ho.scripts, ih]

namespace Scene

/-- Erasing repeated references and erasing repeated module paths agree. -/
theorem map_modulePathOf_distinctReferences {s : Scene} (h : Importable s.references) :
    s.distinctReferences.map modulePathOf = (s.references.map modulePathOf).eraseDups :=
  (eraseDups_map modulePathOf fun _ hr _ hr' => h.eq_of_modulePathOf_eq hr hr').symm

/-- Scenes with alike objects have the same module. -/
theorem moduleLines_congr {s t : Scene} (hs : Importable s.references)
    (ht : Importable t.references)
    (h : List.Forall₂ (SceneObject.Alike modulePathOf) s.objects t.objects) :
    s.moduleLines = t.moduleLines := by
  have hpaths : s.distinctReferences.map modulePathOf = t.distinctReferences.map modulePathOf := by
    rw [map_modulePathOf_distinctReferences hs, map_modulePathOf_distinctReferences ht, references,
      references, flatMap_modulePathOf_congr h]
  have himports : s.importLines = t.importLines := by
    refine map_eq_map_of_imp (fun r _ r' _ he => ?_) hpaths
    simp only [Script.importLine, Script.named_symbol, Script.named_modulePath, symbolOf_congr he, he]
  have hbody : s.bodyLines = t.bodyLines := by
    rw [bodyLines, bodyLines, blockLinesFrom_congr h]
  rw [moduleLines, moduleLines, himports, hbody]

end Scene

/-! ## Objects are read back from their statements -/

namespace SceneObject

theorem literals_eq_of_creationLine_eq {index : Nat} {o p : SceneObject}
    (h : o.creationLine index = p.creationLine index) :
    o.position.x.literal = p.position.x.literal ∧
      o.position.y.literal = p.position.y.literal := by
  have hcs := congrArg String.toList h
  simp only [creationLine, String.toList_append, List.append_assoc, List.append_cancel_left_eq]
    at hcs
  obtain ⟨hx, hrest⟩ := append_cons_inj (comma_notMem_literal _) (comma_notMem_literal _) hcs
  obtain ⟨hy, -⟩ := append_cons_inj (comma_notMem_literal _) (comma_notMem_literal _)
    (List.cons.inj hrest).2
  exact ⟨String.toList_injective hx, String.toList_injective hy⟩

theorem name_eq_of_nameLine_eq {index : Nat} {o p : SceneObject}
    (h : o.nameLine index = p.nameLine index) : o.name = p.name := by
  have hcs := congrArg String.toList h
  simp only [nameLine, String.toList_append, List.append_assoc, List.append_cancel_left_eq,
    List.append_cancel_right_eq] at hcs
  exact nameLiteral_injective (String.toList_injective hcs)

theorem symbols_eq_of_scriptsLine_eq {index : Nat} {refs refs' : List String}
    (hvalid : ∀ r ∈ refs, IsReference r) (hvalid' : ∀ r ∈ refs', IsReference r)
    (h : scriptsLine index (refs.map Script.named) = scriptsLine index (refs'.map Script.named)) :
    refs.map symbolOf = refs'.map symbolOf := by
  have hread := congrArg readAttachment? h
  rw [readAttachment?_scriptsLine index hvalid, readAttachment?_scriptsLine index hvalid'] at hread
  exact Option.some.inj hread

/-- **One object is read back** from the front of the statements, if no
    attachment follows its own. -/
theorem alike_of_codeLines_append {index : Nat} {o p : SceneObject} {rest rest' : List String}
    (ho : ∀ r ∈ o.scripts, IsReference r) (hp : ∀ r ∈ p.scripts, IsReference r)
    (hrest : ∀ scripts ls, rest ≠ scriptsLine index scripts :: ls)
    (hrest' : ∀ scripts ls, rest' ≠ scriptsLine index scripts :: ls)
    (h : o.codeLines index ++ rest = p.codeLines index ++ rest') :
    o.Alike symbolOf p ∧ rest = rest' := by
  have halike (hc : o.creationLine index = p.creationLine index)
      (hn : o.nameLine index = p.nameLine index)
      (hscripts : o.scripts.map symbolOf = p.scripts.map symbolOf) : o.Alike symbolOf p :=
    ⟨name_eq_of_nameLine_eq hn, (literals_eq_of_creationLine_eq hc).1,
      (literals_eq_of_creationLine_eq hc).2, hscripts⟩
  by_cases hoe : o.scripts = [] <;> by_cases hpe : p.scripts = []
  · rw [codeLines_eq_of_empty hoe, codeLines_eq_of_empty hpe] at h
    obtain ⟨hc, h⟩ := List.cons.inj h
    obtain ⟨hn, h⟩ := List.cons.inj h
    exact ⟨halike hc hn (by rw [hoe, hpe]), h⟩
  · rw [codeLines_eq_of_empty hoe, codeLines_eq_of_nonempty hpe] at h
    exact absurd (List.cons.inj (List.cons.inj h).2).2 (hrest _ _)
  · rw [codeLines_eq_of_nonempty hoe, codeLines_eq_of_empty hpe] at h
    exact absurd (List.cons.inj (List.cons.inj h).2).2.symm (hrest' _ _)
  · rw [codeLines_eq_of_nonempty hoe, codeLines_eq_of_nonempty hpe] at h
    obtain ⟨hc, h⟩ := List.cons.inj h
    obtain ⟨hn, h⟩ := List.cons.inj h
    obtain ⟨hs, h⟩ := List.cons.inj h
    exact ⟨halike hc hn (symbols_eq_of_scriptsLine_eq ho hp hs), h⟩

end SceneObject

/-- Statements of objects never begin with an attachment. -/
theorem blockLinesFrom_ne_scriptsLine (index : Nat) (os : List SceneObject) (scripts : List Script)
    (rest : List String) (i : Nat) :
    (blockLinesFrom index os).flatten ≠ SceneObject.scriptsLine i scripts :: rest := by
  intro h
  rcases os with _ | ⟨o, os⟩
  · cases h
  · rw [blockLinesFrom_cons, List.flatten_cons, SceneObject.codeLines, SceneObject.blockLines] at h
    have hline : o.creationLine index = SceneObject.scriptsLine i scripts := (List.cons.inj h).1
    have hread := readConstant?_creationLine index o
    rw [hline, readConstant?_scriptsLine] at hread
    cases hread

/-- **The objects are read back from their statements**, with the names of
    their references. -/
theorem alike_of_flatten_eq {os : List SceneObject} :
    ∀ {ps : List SceneObject} {index : Nat}, (∀ o ∈ os, ∀ r ∈ o.scripts, IsReference r) →
      (∀ p ∈ ps, ∀ r ∈ p.scripts, IsReference r) →
      (blockLinesFrom index os).flatten = (blockLinesFrom index ps).flatten →
      List.Forall₂ (SceneObject.Alike symbolOf) os ps := by
  induction os with
  | nil =>
    intro ps index _ _ h
    rcases ps with _ | ⟨p, ps⟩
    · exact List.Forall₂.nil
    · rw [blockLinesFrom_cons, List.flatten_cons] at h
      exact absurd (List.append_eq_nil_iff.1 h.symm).1 (p.codeLines_ne_nil index)
  | cons o os ih =>
    intro ps index hos hps h
    rcases ps with _ | ⟨p, ps⟩
    · rw [blockLinesFrom_cons, List.flatten_cons] at h
      exact absurd (List.append_eq_nil_iff.1 h).1 (o.codeLines_ne_nil index)
    obtain ⟨ho, hos⟩ := List.forall_mem_cons.1 hos
    obtain ⟨hp, hps⟩ := List.forall_mem_cons.1 hps
    rw [blockLinesFrom_cons, blockLinesFrom_cons, List.flatten_cons, List.flatten_cons] at h
    obtain ⟨halike, hrest⟩ := SceneObject.alike_of_codeLines_append ho hp
      (fun scripts ls => blockLinesFrom_ne_scriptsLine _ _ scripts ls _)
      (fun scripts ls => blockLinesFrom_ne_scriptsLine _ _ scripts ls _) h
    exact .cons halike (ih hos hps hrest)

/-! ## The theorem -/

theorem Frame.orBlank_inj {parts parts' : List String} (h : "" ∉ parts) (h' : "" ∉ parts')
    (he : orBlank parts = orBlank parts') : parts = parts' := by
  rcases eq_or_ne parts [] with rfl | hne <;> rcases eq_or_ne parts' [] with rfl | hne'
  · rfl
  · rw [orBlank_nil, orBlank_of_ne_nil hne'] at he
    exact absurd (he ▸ List.mem_singleton_self _) h'
  · rw [orBlank_nil, orBlank_of_ne_nil hne] at he
    exact absurd (he ▸ List.mem_singleton_self _) h
  · rwa [orBlank_of_ne_nil hne, orBlank_of_ne_nil hne'] at he

namespace Scene

theorem blank_notMem_bodyLines (s : Scene) : "" ∉ s.bodyLines := fun h =>
  (indented_ne_mark (indented_of_mem_bodyLines h)).2.1 rfl

/-- Scenes with one module import the same scripts and have the same
    statements. -/
theorem parts_eq_of_compile {s t : Scene} {code : String} (hs : s.compile = .ok code)
    (ht : t.compile = .ok code) :
    s.scriptImports = t.scriptImports ∧ s.bodyLines = t.bodyLines := by
  constructor
  · have himports := (boundImports_compile hs).symm.trans (boundImports_compile ht)
    exact List.append_cancel_left himports
  · have hlines := (rawLines_compile hs).symm.trans (rawLines_compile ht)
    have hbody := congrArg (linesBetween Frame.createLine "  \x7d") hlines
    rw [linesBetween_moduleLines, linesBetween_moduleLines] at hbody
    exact Frame.orBlank_inj (blank_notMem_bodyLines s) (blank_notMem_bodyLines t) hbody

/-- The imports lead from the name of a reference to its module path. -/
theorem modulePathOf_eq_of_symbolOf_eq {s t : Scene} (ht : Importable t.references)
    (himports : s.scriptImports = t.scriptImports) {r r' : String} (hr : r ∈ s.references)
    (hr' : r' ∈ t.references) (he : symbolOf r = symbolOf r') :
    modulePathOf r = modulePathOf r' := by
  have hmem : (symbolOf r, "./" ++ modulePathOf r) ∈ s.scriptImports :=
    List.mem_map.2 ⟨r, List.mem_eraseDups.2 hr, rfl⟩
  rw [himports] at hmem
  obtain ⟨q, hq, hpair⟩ := List.mem_map.1 hmem
  obtain ⟨hsymbol, hpath⟩ := Prod.mk.inj hpair
  have hqr : q = r' := ht.eq_of_symbolOf_eq (List.mem_eraseDups.1 hq) hr' (hsymbol.trans he)
  rw [← hqr]
  simpa using hpath.symm

/-- Scenes with one module have alike objects. -/
theorem alike_of_compile {s t : Scene} {code : String} (hs : s.compile = .ok code)
    (ht : t.compile = .ok code) :
    List.Forall₂ (SceneObject.Alike modulePathOf) s.objects t.objects := by
  have hsi := (compile_eq_ok_iff.1 hs).1
  have hti := (compile_eq_ok_iff.1 ht).1
  obtain ⟨himports, hbody⟩ := parts_eq_of_compile hs ht
  have halike := alike_of_flatten_eq (isReference_of_mem_scripts hsi)
    (isReference_of_mem_scripts hti) hbody
  rw [List.forall₂_iff_get] at halike ⊢
  refine ⟨halike.1, fun i h₁ h₂ => ?_⟩
  obtain ⟨hname, hx, hy, hscripts⟩ := halike.2 i h₁ h₂
  refine ⟨hname, hx, hy, map_eq_map_of_imp (fun r hr r' hr' he => ?_) hscripts⟩
  exact modulePathOf_eq_of_symbolOf_eq hti himports
    (mem_references.2 ⟨_, List.get_mem _ _, hr⟩) (mem_references.2 ⟨_, List.get_mem _ _, hr'⟩) he

/-- **A module is faithful.**  Two scenes have the same module iff they have as
    many objects and, place by place, objects of the same name, with the same
    literals for their coordinates and with references that are equal, one by
    one, up to a suffix. -/
theorem compile_inj_iff {s t : Scene} {a b : String} (hs : s.compile = .ok a)
    (ht : t.compile = .ok b) :
    a = b ↔ s.objects.length = t.objects.length ∧
      ∀ (i : Nat) (o p : SceneObject), s.objects[i]? = some o → t.objects[i]? = some p →
        o.name = p.name ∧ o.position.x.literal = p.position.x.literal ∧
        o.position.y.literal = p.position.y.literal ∧
        o.scripts.map (fun r => dropScriptSuffix r.toList) =
          p.scripts.map (fun r => dropScriptSuffix r.toList) := by
  have hkey (rs rs' : List String) : rs.map modulePathOf = rs'.map modulePathOf ↔
      rs.map (fun r => dropScriptSuffix r.toList) = rs'.map (fun r => dropScriptSuffix r.toList) :=
    ⟨map_eq_map_of_imp fun _ _ _ _ he => by simpa [modulePathOf] using congrArg String.toList he,
      map_eq_map_of_imp fun _ _ _ _ he => congrArg String.ofList he⟩
  constructor
  · rintro rfl
    obtain ⟨hlen, halike⟩ := List.forall₂_iff_get.1 (alike_of_compile hs ht)
    refine ⟨hlen, fun i o p ho hp => ?_⟩
    obtain ⟨hi, rfl⟩ := List.getElem?_eq_some_iff.1 ho
    obtain ⟨hi', rfl⟩ := List.getElem?_eq_some_iff.1 hp
    obtain ⟨hname, hx, hy, hscripts⟩ := halike i hi hi'
    exact ⟨hname, hx, hy, (hkey _ _).1 hscripts⟩
  · rintro ⟨hlen, halike⟩
    obtain ⟨hsi, rfl⟩ := compile_eq_ok_iff.1 hs
    obtain ⟨hti, rfl⟩ := compile_eq_ok_iff.1 ht
    refine congrArg unlines (moduleLines_congr hsi hti (List.forall₂_iff_get.2 ⟨hlen, ?_⟩))
    intro i h₁ h₂
    obtain ⟨hname, hx, hy, hscripts⟩ := halike i _ _ (List.getElem?_eq_getElem h₁)
      (List.getElem?_eq_getElem h₂)
    exact ⟨hname, hx, hy, (hkey _ _).2 hscripts⟩

end Scene

/-- The hostile scene with other ids, nothing selected and no catalog, and with
    suffixes in other places. -/
def respelledScene : Scene where
  project := none
  objects :=
    [⟨2, "a';\n  \x7d\nimport B from './B';\u2028", ⟨.nan, .zero⟩,
      ["ai/Walk", "Jump.ts", "ai/Walk"]⟩,
     ⟨3, "", ⟨.infinite true, .finite true .zero⟩, []⟩]
  selected := none
  catalog := []

theorem compile_inj_iff_respelledScene : ∃ a b, hostileScene.compile = .ok a ∧
    respelledScene.compile = .ok b ∧ a = b := by
  obtain ⟨a, ha⟩ : ∃ a, hostileScene.compile = .ok a := ⟨_, rfl⟩
  obtain ⟨b, hb⟩ : ∃ b, respelledScene.compile = .ok b := ⟨_, rfl⟩
  refine ⟨a, b, ha, hb, (Scene.compile_inj_iff ha hb).2 ⟨rfl, fun i o p ho hp => ?_⟩⟩
  match i with
  | 0 =>
    cases ho
    cases hp
    decide
  | 1 =>
    cases ho
    cases hp
    decide
  | _ + 2 => cases ho

end SpriteScene
