/-
  The fault that is reported.

  * `FaultAt` is what can be wrong with a reference at its place in a list: it is not
    valid, or an earlier one is imported under its name; `IsFirstFault` if nothing is
    wrong before;
  * `bindScripts_eq_error_iff`: the references of a list have their first fault, and
    `bindScripts_eq_ok_iff_forall₂`: without one each of them has its script;
  * `Scene.idxOf_lt_of_symbolCollision`: of two scripts of a scene under one name the
    first is the one that is attached first, and they are different;
  * `first_fault_reported`: so lists and scenes report the first fault there is.
-/
import Mathlib.Data.Set.Subsingleton
import SpriteScene.Proofs.Module.Append

namespace SpriteScene

/-- Whether a reference is imported under a name. -/
def ImportsAs (reference symbol : String) : Prop :=
  ∃ script, Script.ofReference reference = .ok script ∧ script.symbol = symbol

/-- What is wrong with the reference at a place of a list. -/
inductive FaultAt (refs : List String) (k : Nat) : CompileFault → Prop
  | invalid {reference : String} {reason : ReferenceFault} :
      refs[k]? = some reference → Script.ofReference reference = .error reason →
      FaultAt refs k (.invalidReference reference reason)
  | collision {j : Nat} {symbol first second : String} :
      j < k → refs[j]? = some first → ImportsAs first symbol →
      refs[k]? = some second → ImportsAs second symbol →
      FaultAt refs k (.symbolCollision symbol first second)

/-- A fault with none at the places before. -/
structure IsFirstFault (refs : List String) (k : Nat) (fault : CompileFault) : Prop where
  faultAt : FaultAt refs k fault
  clear : ∀ i < k, ∀ other, ¬ FaultAt refs i other

variable {refs : List String} {k : Nat} {fault : CompileFault}

theorem importsAs_iff {r symbol : String} :
    ImportsAs r symbol ↔ IsReference r ∧ symbolOf r = symbol := by
  simp only [ImportsAs, ofReference_eq_ok_iff]
  constructor
  · rintro ⟨_, ⟨hr, rfl⟩, rfl⟩
    exact ⟨hr, rfl⟩
  · rintro ⟨hr, rfl⟩
    exact ⟨_, ⟨hr, rfl⟩, rfl⟩

theorem ImportsAs.ne_error {r symbol : String} {reason : ReferenceFault}
    (h : ImportsAs r symbol) : Script.ofReference r ≠ .error reason := by
  intro herror
  obtain ⟨script, hscript, -⟩ := h
  cases herror.symm.trans hscript

/-! ## Places -/

theorem FaultAt.lt_length (h : FaultAt refs k fault) : k < refs.length := by
  cases h with
  | invalid hk => exact (List.getElem?_eq_some_iff.1 hk).1
  | collision _ _ _ hk => exact (List.getElem?_eq_some_iff.1 hk).1

/-- What follows a reference has nothing to do with its fault. -/
theorem faultAt_append_iff (hk : k < refs.length) (more : List String) :
    FaultAt (refs ++ more) k fault ↔ FaultAt refs k fault := by
  have hget {i : Nat} (hi : i ≤ k) : (refs ++ more)[i]? = refs[i]? :=
    List.getElem?_append_left (by omega)
  constructor
  · rintro (⟨hr, herror⟩ | ⟨hlt, hfirst, himports, hsecond, himports'⟩)
    · exact .invalid (hget le_rfl ▸ hr) herror
    · exact .collision hlt (hget hlt.le ▸ hfirst) himports (hget le_rfl ▸ hsecond) himports'
  · rintro (⟨hr, herror⟩ | ⟨hlt, hfirst, himports, hsecond, himports'⟩)
    · exact .invalid ((hget le_rfl).trans hr) herror
    · exact .collision hlt ((hget hlt.le).trans hfirst) himports ((hget le_rfl).trans hsecond)
        himports'

theorem IsFirstFault.append (h : IsFirstFault refs k fault) (more : List String) :
    IsFirstFault (refs ++ more) k fault := by
  have hlt := h.faultAt.lt_length
  refine ⟨(faultAt_append_iff hlt more).2 h.faultAt, fun i hi other hother => ?_⟩
  exact h.clear i hi other ((faultAt_append_iff (hi.trans hlt) more).1 hother)

/-- Before the first fault no name occurs twice. -/
theorem IsFirstFault.subsingleton (h : IsFirstFault refs k fault) (symbol : String) :
    {j | j < k ∧ ∃ r, refs[j]? = some r ∧ ImportsAs r symbol}.Subsingleton := by
  rintro i ⟨hi, r, hr, himports⟩ j ⟨hj, r', hr', himports'⟩
  rcases lt_trichotomy i j with hlt | rfl | hlt
  · exact absurd (.collision hlt hr himports hr' himports') (h.clear j hj _)
  · rfl
  · exact absurd (.collision hlt hr' himports' hr himports) (h.clear i hi _)

/-- **There is one first fault**, if any. -/
theorem IsFirstFault.unique {k' : Nat} {fault' : CompileFault} (h : IsFirstFault refs k fault)
    (h' : IsFirstFault refs k' fault') : fault = fault' := by
  obtain rfl : k = k' := by
    rcases lt_trichotomy k k' with hlt | heq | hlt
    · exact absurd h.faultAt (h'.clear k hlt _)
    · exact heq
    · exact absurd h'.faultAt (h.clear k' hlt _)
  cases h.faultAt with
  | @invalid r reason hr herror =>
    cases h'.faultAt with
    | invalid hr' herror' =>
      obtain rfl := Option.some.inj (hr.symm.trans hr')
      obtain rfl := Except.error.inj (herror.symm.trans herror')
      rfl
    | collision _ _ _ hr' himports =>
      obtain rfl := Option.some.inj (hr.symm.trans hr')
      exact absurd herror himports.ne_error
  | @collision j symbol first second hj hfirst hfirstAs hsecond hsecondAs =>
    cases h'.faultAt with
    | invalid hr' herror =>
      obtain rfl := Option.some.inj (hsecond.symm.trans hr')
      exact absurd herror hsecondAs.ne_error
    | @collision j' symbol' first' second' hj' hfirst' hfirstAs' hsecond' hsecondAs' =>
      obtain rfl := Option.some.inj (hsecond.symm.trans hsecond')
      obtain rfl : symbol = symbol' :=
        (importsAs_iff.1 hsecondAs).2.symm.trans (importsAs_iff.1 hsecondAs').2
      obtain rfl := h.subsingleton symbol ⟨hj, first, hfirst, hfirstAs⟩
        ⟨hj', first', hfirst', hfirstAs'⟩
      obtain rfl := Option.some.inj (hfirst.symm.trans hfirst')
      rfl

/-! ## Binding -/

/-- References that are bound have no faults. -/
theorem not_faultAt_of_ok {scripts : List Script} (h : bindScripts refs = .ok scripts) :
    ¬ FaultAt refs k fault := by
  obtain ⟨hvalid, hnodup, -⟩ := bindScripts_eq_ok_iff.1 h
  rintro (⟨hr, herror⟩ | @⟨j, symbol, first, second, hlt, hfirst, hfirstAs, hsecond, hsecondAs⟩)
  · obtain ⟨script, hscript⟩ := hvalid _ (List.mem_of_getElem? hr)
    cases herror.symm.trans hscript
  · have hk : k < (refs.map symbolOf).length := by
      rw [List.length_map]
      exact (List.getElem?_eq_some_iff.1 hsecond).1
    refine List.nodup_iff_getElem?_ne_getElem?.1 hnodup j k hlt hk ?_
    simp [hfirst, hsecond, (importsAs_iff.1 hfirstAs).2, (importsAs_iff.1 hsecondAs).2]

/-- A reference behind ones that are bound is refused for its own fault. -/
theorem faultAt_of_concat {scripts : List Script} (hbound : bindScripts refs = .ok scripts)
    {r : String} (h : bindScripts (refs ++ [r]) = .error fault) :
    FaultAt (refs ++ [r]) refs.length fault := by
  have hlast : (refs ++ [r])[refs.length]? = some r := List.getElem?_concat_length
  rw [bindScripts, bindFrom_append, ← bindScripts, hbound] at h
  simp only [bind, Except.bind, List.append_nil, bindFrom, scriptOf] at h
  cases hr : Script.ofReference r with
  | error reason =>
    simp only [hr, Except.error.injEq] at h
    subst h
    exact .invalid hlast hr
  | ok script =>
    cases hfind : scripts.reverse.find? (·.symbol = script.symbol) with
    | none => simp [hr, hfind, pure, Except.pure] at h
    | some first =>
      simp only [hr, hfind, throw, throwThe, MonadExceptOf.throw, Except.error.injEq] at h
      subst h
      -- the script of that name is the one of a reference before
      have hmem := List.mem_reverse.1 (List.mem_of_find?_eq_some hfind)
      have hsymbol := List.find?_some hfind
      obtain ⟨hvalid, -, rfl⟩ := bindScripts_eq_ok_iff.1 hbound
      obtain ⟨r', hr', rfl⟩ := List.mem_map.1 hmem
      obtain ⟨j, hj, hget⟩ := List.mem_iff_getElem.1 hr'
      have himports := importsAs_iff.2 ⟨hvalid r' hr', of_decide_eq_true hsymbol⟩
      refine .collision hj ?_ himports hlast ⟨script, hr, rfl⟩
      rw [List.getElem?_append_left hj, List.getElem?_eq_getElem hj, hget]
      rfl

/-- References that are not bound have a first fault, which is the one given. -/
theorem exists_isFirstFault (h : bindScripts refs = .error fault) :
    ∃ k, IsFirstFault refs k fault := by
  -- from the end of the list: more references behind leave the fault of the others alone
  induction refs using List.reverseRecOn generalizing fault with
  | nil => cases h
  | append_singleton refs r ih =>
    cases hbound : bindScripts refs with
    | error fault' =>
      obtain ⟨k, hk⟩ := ih hbound
      have heq := bindFrom_append_of_error hbound [r]
      rw [← bindScripts, h] at heq
      cases heq
      exact ⟨k, hk.append [r]⟩
    | ok scripts =>
      refine ⟨refs.length, faultAt_of_concat hbound h, fun i hi other hother => ?_⟩
      exact not_faultAt_of_ok hbound ((faultAt_append_iff hi [r]).1 hother)

/-- **References have their first fault.** -/
theorem bindScripts_eq_error_iff :
    bindScripts refs = .error fault ↔ ∃ k, IsFirstFault refs k fault := by
  refine ⟨exists_isFirstFault, fun ⟨k, hk⟩ => ?_⟩
  cases h : bindScripts refs with
  | ok scripts => exact absurd hk.faultAt (not_faultAt_of_ok h)
  | error fault' =>
    obtain ⟨k', hk'⟩ := exists_isFirstFault h
    rw [hk'.unique hk]

theorem forall₂_ofReference_iff {scripts : List Script} :
    List.Forall₂ (fun r script => Script.ofReference r = .ok script) refs scripts ↔
      (∀ r ∈ refs, IsReference r) ∧ scripts = refs.map Script.named := by
  have hmap : List.Forall₂ (fun r script => script = Script.named r) refs scripts ↔
      scripts = refs.map Script.named := by
    rw [@eq_comm _ scripts, ← List.forall₂_eq_eq_eq, List.forall₂_map_left_iff]
    exact ⟨.imp fun _ _ => Eq.symm, .imp fun _ _ => Eq.symm⟩
  simp only [ofReference_eq_ok_iff, List.forall₂_and_left, hmap]

/-- References without faults have their scripts, one for each and in order. -/
theorem bindScripts_eq_ok_iff_forall₂ {scripts : List Script} :
    bindScripts refs = .ok scripts ↔
      List.Forall₂ (fun r script => Script.ofReference r = .ok script) refs scripts ∧
        (scripts.map Script.symbol).Nodup := by
  rw [forall₂_ofReference_iff, bindScripts_eq_ok_iff, and_assoc]
  refine and_congr_right fun _ => ?_
  constructor
  · rintro ⟨hnodup, rfl⟩
    refine ⟨rfl, ?_⟩
    rwa [List.map_map]
  · rintro ⟨rfl, hnodup⟩
    rw [List.map_map] at hnodup
    exact ⟨hnodup, rfl⟩

/-! ## Scenes -/

/-- Two scripts of a scene under one name are different ones, and the first is attached
    first. -/
theorem Scene.idxOf_lt_of_symbolCollision {s : Scene} {symbol first second : String}
    (h : s.compile = .error (.symbolCollision symbol first second)) :
    second ∈ s.references ∧ s.references.idxOf first < s.references.idxOf second := by
  obtain ⟨k, hfault⟩ := bindScripts_eq_error_iff.1 (Scene.compile_eq_error_iff.1 h)
  cases hfault.faultAt with
  | @collision j _ _ _ hlt hfirst _ hsecond _ =>
    obtain ⟨hj, rfl⟩ := List.getElem?_eq_some_iff.1 hfirst
    obtain ⟨hk, rfl⟩ := List.getElem?_eq_some_iff.1 hsecond
    refine ⟨List.mem_eraseDups.1 (List.getElem_mem hk), ?_⟩
    exact List.pairwise_iff_getElem.1 (pairwise_idxOf_eraseDups s.references) j k hj hk hlt

/-- **The first fault is the one reported.**  References are bound iff each of them is
    valid and their names are different, and then to their scripts in order.  Otherwise
    the fault is that of the first place that has one; a name that it shares is the one
    of a single place before.  A scene has the fault of its distinct references, and two
    scripts that share a name are different ones in the order in which the scene attaches
    them. -/
theorem first_fault_reported (refs : List String) (s : Scene) :
    (∀ scripts, bindScripts refs = .ok scripts ↔
      List.Forall₂ (fun r script => Script.ofReference r = .ok script) refs scripts ∧
        (scripts.map Script.symbol).Nodup) ∧
    (∀ fault, bindScripts refs = .error fault ↔ ∃ k, IsFirstFault refs k fault) ∧
    (∀ k fault, IsFirstFault refs k fault → ∀ symbol,
      {j | j < k ∧ ∃ r, refs[j]? = some r ∧ ImportsAs r symbol}.Subsingleton) ∧
    (∀ fault, s.compile = .error fault ↔ bindScripts s.distinctReferences = .error fault) ∧
    ∀ symbol first second, s.compile = .error (.symbolCollision symbol first second) →
      first ≠ second ∧ first ∈ s.references ∧ second ∈ s.references ∧
        s.references.idxOf first < s.references.idxOf second := by
  refine ⟨fun _ => bindScripts_eq_ok_iff_forall₂, fun _ => bindScripts_eq_error_iff,
    fun _ _ h => h.subsingleton, fun _ => Scene.compile_eq_error_iff,
    fun symbol first second h => ?_⟩
  obtain ⟨hmem, hlt⟩ := Scene.idxOf_lt_of_symbolCollision h
  refine ⟨?_, List.idxOf_lt_length_iff.1 (hlt.trans_le List.idxOf_le_length), hmem, hlt⟩
  rintro rfl
  exact lt_irrefl _ hlt

/-- Two scripts share a name, so do two more behind, and one between is not valid. -/
def contestedScene : Scene :=
  { objects := [⟨1, "Hero", .origin, ["ai/Walk.ts", "Jump.ts", "ai/Walk.ts"]⟩,
      ⟨2, "Foe", .origin, ["Jump.ts", "Walk", "no name.ts", "Jump"]⟩]
    selected := none
    project := none
    catalog := [] }

theorem first_fault_contestedScene :
    let refs := ["ai/Walk.ts", "Jump.ts", "Walk", "no name.ts", "Jump"]
    let collision := CompileFault.symbolCollision "Walk" "ai/Walk.ts" "Walk"
    bindScripts refs = .error collision ∧
      (∃ k, IsFirstFault refs k collision ∧
        {j | j < k ∧ ∃ r, refs[j]? = some r ∧ ImportsAs r "Walk"}.Subsingleton) ∧
      contestedScene.compile = .error collision ∧
      contestedScene.references.idxOf "ai/Walk.ts" < contestedScene.references.idxOf "Walk" := by
  intro refs collision
  obtain ⟨-, hfirst, hsubsingleton, hcompile, horder⟩ := first_fault_reported refs contestedScene
  have hbind : bindScripts refs = .error collision := by decide
  have hscene : contestedScene.compile = .error collision := (hcompile collision).2 hbind
  obtain ⟨k, hk⟩ := (hfirst collision).1 hbind
  exact ⟨hbind, ⟨k, hk, hsubsingleton k collision hk "Walk"⟩, hscene, (horder _ _ _ hscene).2.2.2⟩

end SpriteScene
