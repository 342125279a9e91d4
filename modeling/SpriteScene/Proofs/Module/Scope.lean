/-
  The names that a module binds.

  `Scene.scope_of_compile`: no name is bound twice in a compiled module, and the names
  that the block of an object makes instances of are imported once each, from the module
  paths of its references.
-/
import SpriteScene.Proofs.Module.Parts

namespace SpriteScene

/-! ## No name is bound twice -/

/-- In a list that a key tells apart, one element has the key of an element. -/
theorem filter_eq_singleton {α β : Type} [DecidableEq β] {f : α → β} {as : List α}
    (hnodup : (as.map f).Nodup) {a : α} (ha : a ∈ as) : as.filter (f · = f a) = [a] := by
  induction as with
  | nil => cases ha
  | cons b as ih =>
    obtain ⟨hb, hnodup⟩ := List.nodup_cons.1 hnodup
    rcases List.mem_cons.1 ha with rfl | ha
    · have hrest : as.filter (f · = f a) = [] := by
        refine List.filter_eq_nil_iff.2 fun c hc => ?_
        simpa using fun he => hb (List.mem_map.2 ⟨c, hc, he⟩)
      rw [List.filter_cons_of_pos (by simp), hrest]
    · have hne : f b ≠ f a := fun he => hb (List.mem_map.2 ⟨a, ha, he.symm⟩)
      rw [List.filter_cons_of_neg (by simpa using hne), ih hnodup ha]

theorem nodup_names {refs : List String} (h : Importable refs) (n : Nat) :
    (frameNames ++ refs.eraseDups.map symbolOf ++ (List.range n).map spriteName).Nodup := by
  have hname : ∀ name ∈ refs.eraseDups.map symbolOf, IsName name := by
    intro name hm
    obtain ⟨r, hr, rfl⟩ := List.mem_map.1 hm
    exact isName_symbolOf (h.valid r (List.mem_eraseDups.1 hr))
  have hsprites : ((List.range n).map spriteName).Nodup :=
    List.nodup_range.map fun _ _ => spriteName_injective
  have hframe : frameNames.Nodup := by decide
  refine List.nodup_append'.2 ⟨List.nodup_append'.2 ⟨hframe, h.nodup_symbols, ?_⟩, hsprites, ?_⟩
  · exact fun name hf hm => (hname name hm).notFrame hf
  · intro name hm hs
    obtain ⟨i, -, rfl⟩ := List.mem_map.1 hs
    rcases List.mem_append.1 hm with hf | hm
    · exact spriteName_notMem_frameNames i hf
    · exact absurd (isSpriteName_spriteName i) (by simp [(hname _ hm).notSprite])

namespace Scene

theorem map_fst_scriptImports (s : Scene) :
    s.scriptImports.map Prod.fst = s.references.eraseDups.map symbolOf := by
  simp [scriptImports, distinctReferences]

/-- The name of a reference is bound by one import, that of its module path. -/
theorem filter_boundImports {s : Scene} {code : String} (h : s.compile = .ok code) {r : String}
    (hr : r ∈ s.references) :
    (boundImports code).filter (·.1 = symbolOf r) = [(symbolOf r, "./" ++ modulePathOf r)] := by
  have hmem : (symbolOf r, "./" ++ modulePathOf r) ∈ boundImports code := by
    rw [boundImports_compile h, List.mem_append]
    exact Or.inr (List.mem_map.2 ⟨r, List.mem_eraseDups.2 hr, rfl⟩)
  -- the imports of the frame bind names of the frame, so they count as well
  have hall : ((boundImports code).map Prod.fst).Nodup := by
    rw [boundImports_compile h, List.map_append, map_fst_scriptImports]
    refine List.Nodup.sublist ?_ (nodup_names (compile_eq_ok_iff.1 h).1 0)
    exact (List.Sublist.append (by decide) (List.Sublist.refl _)).trans
      (List.sublist_append_left _ _)
  exact filter_eq_singleton (f := Prod.fst) hall hmem

/-- **The names of a module do not clash.**  The names of the frame, those that
    the script imports bind and the constants of the objects are all different;
    the imported names are identifiers that are not reserved, and no module is
    imported twice.  The block of an object makes instances of the names of its
    references, in their order, and each of these names is bound by one import, that of
    the module path of its reference. -/
theorem scope_of_compile {s : Scene} {code : String} (h : s.compile = .ok code) :
    ∃ imports : List (String × String),
      boundImports code = [("Phaser", "phaser"), ("React", "react")] ++ imports ∧
      boundConstants code = (List.range s.objects.length).map spriteName ∧
      (["Phaser", "React", "Level1", "GameComponent"] ++ imports.map Prod.fst ++
        boundConstants code).Nodup ∧
      (∀ name ∈ imports.map Prod.fst, name ∉ reservedWords ∧
        ∃ c cs, name.toList = c :: cs ∧ (c.isAlpha ∨ c = '_' ∨ c = '$') ∧
          ∀ d ∈ cs, d.isAlphanum ∨ d = '_' ∨ d = '$') ∧
      (imports.map Prod.snd).Nodup ∧
      ∀ i, ∀ o : SceneObject, s.objects[i]? = some o →
        ∃ (scripts : List Script) (block : List String),
        (objectBlocks code)[i]? = some block ∧ block = o.blockLines i scripts ∧
        o.block i = .ok (unlines block) ∧
        constructedNames block = scripts.map Script.symbol ∧
        List.Forall₂ (fun r script => Script.ofReference r = .ok script ∧
          (boundImports code).filter (·.1 = script.symbol) =
            [(script.symbol, "./" ++ script.modulePath)]) o.scripts scripts := by
  have himp := (compile_eq_ok_iff.1 h).1
  refine ⟨s.scriptImports, boundImports_compile h, boundConstants_compile h, ?_, ?_, ?_, ?_⟩
  · rw [boundConstants_compile h, map_fst_scriptImports]
    exact nodup_names himp s.objects.length
  · rw [map_fst_scriptImports]
    intro name hm
    obtain ⟨r, hr, rfl⟩ := List.mem_map.1 hm
    have hname := isName_symbolOf (himp.valid r (List.mem_eraseDups.1 hr))
    exact ⟨hname.notReserved, hname.identifier⟩
  · rw [scriptImports, List.map_map]
    refine (nodup_eraseDups s.references).map_on fun r hr r' hr' he => ?_
    refine himp.eq_of_modulePathOf_eq (List.mem_eraseDups.1 hr) (List.mem_eraseDups.1 hr') ?_
    simpa using he
  · intro i o ho
    have hreferences : ∀ r ∈ o.scripts, r ∈ s.references :=
      fun r hr => mem_references.2 ⟨o, List.mem_of_getElem? ho, hr⟩
    have hvalid : ∀ r ∈ o.scripts, IsReference r := fun r hr => himp.valid r (hreferences r hr)
    refine ⟨o.scripts.map Script.named, o.codeLines i, ?_, rfl,
      SceneObject.block_eq_ok_iff.2 ⟨hvalid, rfl⟩, ?_, ?_⟩
    · rw [objectBlocks_compile h, getElem?_blockLinesFrom, ho, Nat.zero_add]
      rfl
    · rw [constructedNames_codeLines i hvalid, List.map_map]
      rfl
    · rw [List.forall₂_map_right_iff]
      refine List.forall₂_same.2 fun r hr => ?_
      exact ⟨ofReference_eq_ok_iff.2 ⟨hvalid r hr, rfl⟩, filter_boundImports h (hreferences r hr)⟩

end Scene

theorem scope_of_compile_hostileScene : ∃ code, hostileScene.compile = .ok code ∧
    ∃ imports : List (String × String),
      boundImports code = [("Phaser", "phaser"), ("React", "react")] ++ imports ∧
      boundConstants code = ["sprite0", "sprite1"] ∧
      (["Phaser", "React", "Level1", "GameComponent"] ++ imports.map Prod.fst ++
        boundConstants code).Nodup ∧
      (objectBlocks code)[0]?.map constructedNames = some ["Walk", "Jump", "Walk"] ∧
      (boundImports code).filter (·.1 = "Walk") = [("Walk", "./ai/Walk")] := by
  obtain ⟨code, h⟩ : ∃ code, hostileScene.compile = .ok code := ⟨_, rfl⟩
  obtain ⟨imports, himports, hconstants, hnodup, -, -, hobjects⟩ := Scene.scope_of_compile h
  obtain ⟨scripts, block, hblock, -, -, hnames, hscripts⟩ := hobjects 0 _ rfl
  obtain ⟨walk, _, ⟨hwalk, hone⟩, hmore, rfl⟩ := List.forall₂_cons_left_iff.1 hscripts
  obtain ⟨jump, _, ⟨hjump, -⟩, hlast, rfl⟩ := List.forall₂_cons_left_iff.1 hmore
  obtain ⟨again, _, ⟨hagain, -⟩, ⟨⟩, rfl⟩ := List.forall₂_cons_left_iff.1 hlast
  have hwalk' : Script.ofReference "ai/Walk.ts" = .ok ⟨"ai/Walk.ts", "Walk", "ai/Walk"⟩ := by
    decide
  have hjump' : Script.ofReference "Jump" = .ok ⟨"Jump", "Jump", "Jump"⟩ := by decide
  cases hwalk'.symm.trans hwalk
  cases hjump'.symm.trans hjump
  cases hwalk'.symm.trans hagain
  refine ⟨code, h, imports, himports, hconstants.trans (by decide), hnodup, ?_, hone⟩
  rw [hblock, Option.map_some, hnames]
  rfl

end SpriteScene
