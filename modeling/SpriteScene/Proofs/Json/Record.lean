/-
  Records, from the trees of what they are read from.

  `follows_record`: a record is read from a map, whose members are gone through in order,
  or from a sequence, whose elements are the values of the fields in order and not more of
  them.
-/
import SpriteScene.Json.Record
import SpriteScene.Proofs.Json.Skim

namespace SpriteScene.Json

/-- The values of fields gone through in order, from draft to draft. -/
inductive RunFields (Step : Field σ → σ → Tree → σ → Prop) :
    List (Field σ) → σ → List Tree → σ → Prop
  | stop {fields : List (Field σ)} {st : σ} : RunFields Step fields st [] st
  | next {field : Field σ} {fields : List (Field σ)} {st next st' : σ} {e : Tree} {es : List Tree} :
      Step field st e next → RunFields Step fields next es st' →
        RunFields Step (field :: fields) st (e :: es) st'

/-- What a member does to the draft of a record, by what values do to the draft where
    they are the values of fields. -/
def Record.Step (r : Record σ α) (Step : Field σ → σ → Tree → σ → Prop) (st : σ) (key : String)
    (T : Tree) (st' : σ) : Prop :=
  match r.fields.find? (·.key = key) with
  | some field => field.present st = false ∧ Step field st T st'
  | none => st' = st

/-- What a record is read from: a map of its fields, or the sequence of their values. -/
def IsRecord (r : Record σ α) (Step : Field σ → σ → Tree → σ → Prop) : Tree → α → Prop
  | .map ms, a => ∃ st, Run (r.Step Step) r.start ms st ∧ r.ofMap st = .ok a
  | .sequence es, a =>
    ∃ st, RunFields Step r.fields r.start es st ∧ r.ofSequence es.length st = .ok a
  | .scalar _, _ => False

theorem closeSequence_of_nextElement {first : Bool} {cs rest : List Char}
    (h : closeSequence cs = .ok rest) : nextElement first cs = .ok none := by
  obtain ⟨gap, hgap, rfl⟩ := closeSequence_eq_ok h
  exact nextElement_close _ first hgap

theorem readFields_cons_eq_ok_iff {field : Field σ} {fields : List (Field σ)} {count : Nat} {st : σ}
    {cs rest : List Char} {result : Nat × σ} :
    Record.readFields (field :: fields) count st cs = .ok (result, rest) ↔
      (nextElement (count = 0) cs = .ok none ∧ result = (count, st) ∧ rest = cs) ∨
        ∃ more next behind, nextElement (count = 0) cs = .ok (some more) ∧
          field.read st more = .ok (next, behind) ∧
          Record.readFields fields (count + 1) next behind = .ok (result, rest) := by
  rw [Record.readFields]
  constructor
  · intro h
    obtain ⟨more, hnext, hread⟩ := bind_eq_ok_iff.1 h
    cases more with
    | none =>
      obtain ⟨rfl, rfl⟩ := Prod.mk.inj (Except.ok.inj hread)
      exact Or.inl ⟨hnext, rfl, rfl⟩
    | some more =>
      obtain ⟨⟨next, behind⟩, hvalue, hmore⟩ := bind_eq_ok_iff.1 hread
      exact Or.inr ⟨more, next, behind, hnext, hvalue, hmore⟩
  · rintro (⟨hnext, rfl, rfl⟩ | ⟨more, next, behind, hnext, hvalue, hmore⟩)
    · exact bind_eq_ok_iff.2 ⟨_, hnext, rfl⟩
    · exact bind_eq_ok_iff.2 ⟨_, hnext, bind_eq_ok_iff.2 ⟨_, hvalue, hmore⟩⟩

/-- An element takes at least a character. -/
theorem length_lt_of_nextElement {first : Bool} {cs more behind : List Char} {T : Tree}
    (hnext : nextElement first cs = .ok (some more)) (hT : readTree more = .ok (T, behind)) :
    behind.length < cs.length := by
  obtain ⟨gap, -, rfl⟩ := nextElement_eq_ok hnext
  have hbehind := onlySpelled_readTree.length_lt hT
  rw [List.length_append]
  omega

/-- The values of fields are gone through in order, up to the end of the sequence. -/
theorem readFields_closeSequence_iff {Step : Field σ → σ → Tree → σ → Prop}
    {fields : List (Field σ)}
    (h : ∀ field ∈ fields, ∀ st, Follows readTree (field.read st) (Step field st))
    {limit count count' : Nat} {st st' : σ} {cs rest : List Char} (hlimit : cs.length < limit) :
    (∃ behind, Record.readFields fields count st cs = .ok ((count', st'), behind) ∧
        closeSequence behind = .ok rest) ↔
      ∃ es, elementsFrom readTree limit (count = 0) cs = .ok (es, rest) ∧
        RunFields Step fields st es st' ∧ count' = count + es.length := by
  induction fields generalizing limit count st cs with
  | nil =>
    obtain ⟨limit, rfl⟩ := Nat.exists_eq_succ_of_ne_zero (Nat.ne_of_gt (Nat.zero_lt_of_lt hlimit))
    constructor
    · rintro ⟨_, hread, hclose⟩
      cases hread
      exact ⟨[], elementsFrom_succ_eq_ok_iff.2
        (Or.inl ⟨closeSequence_of_nextElement hclose, hclose, rfl⟩), .stop, rfl⟩
    · rintro ⟨es, hes, ⟨⟩, rfl⟩
      rcases elementsFrom_succ_eq_ok_iff.1 hes with ⟨-, hclose, -⟩ | ⟨_, _, _, _, _, _, _, hnil⟩
      · exact ⟨cs, rfl, hclose⟩
      · cases hnil
  | cons field fields ih =>
    obtain ⟨limit, rfl⟩ := Nat.exists_eq_succ_of_ne_zero (Nat.ne_of_gt (Nat.zero_lt_of_lt hlimit))
    obtain ⟨hfield, hfields⟩ := List.forall_mem_cons.1 h
    have hlater : decide (count + 1 = 0) = false := decide_eq_false (Nat.succ_ne_zero count)
    have hcs : cs.length ≤ limit := Nat.le_of_lt_succ hlimit
    simp only [readFields_cons_eq_ok_iff, elementsFrom_succ_eq_ok_iff]
    constructor
    · rintro ⟨behind, ⟨hnext, hresult, rfl⟩ | ⟨more, next, mid, hnext, hvalue, hmore⟩, hclose⟩
      · cases hresult
        exact ⟨[], Or.inl ⟨hnext, hclose, rfl⟩, .stop, rfl⟩
      · obtain ⟨T, hT, hstep⟩ := (hfield st _ _ _).1 hvalue
        have hbehind := (length_lt_of_nextElement hnext hT).trans_le hcs
        obtain ⟨es, hes, hrun, rfl⟩ := (ih hfields hbehind).1 ⟨behind, hmore, hclose⟩
        rw [hlater] at hes
        refine ⟨T :: es, Or.inr ⟨more, T, mid, es, hnext, hT, hes, rfl⟩, .next hstep hrun, ?_⟩
        rw [List.length_cons]
        omega
    · rintro ⟨_, ⟨hnext, hclose, rfl⟩ | ⟨more, T, mid, es, hnext, hT, hes, rfl⟩, hrun, rfl⟩
      · cases hrun
        exact ⟨cs, Or.inl ⟨hnext, rfl, rfl⟩, hclose⟩
      · cases hrun with
        | next hstep hrun =>
          have hcount : count + (T :: es).length = count + 1 + es.length := by
            rw [List.length_cons]
            omega
          rw [← hlater] at hes
          have hbehind := (length_lt_of_nextElement hnext hT).trans_le hcs
          obtain ⟨behind, hmore, hclose⟩ := (ih hfields hbehind).2 ⟨es, hes, hrun, hcount⟩
          exact ⟨behind, Or.inr ⟨more, _, mid, hnext, (hfield st _ _ _).2 ⟨T, hT, hstep⟩, hmore⟩,
            hclose⟩

theorem Record.finish_eq_ok_iff {result : Except Mismatch α} {cs rest : List Char} {a : α} :
    Record.finish result cs = .ok (a, rest) ↔ result = .ok a ∧ cs = rest := by
  cases result <;> simp [Record.finish]

section
variable {r : Record σ α} {Step : Field σ → σ → Tree → σ → Prop}
  (h : ∀ field ∈ r.fields, ∀ st, Follows readTree (field.read st) (Step field st))

include h

theorem followsMembers_record : FollowsMembers readTree r.member (r.Step Step) := by
  constructor
  · intro st key read hread
    rw [Record.member] at hread
    split at hread
    · rename_i field hfield
      split at hread
      · cases hread
      · rename_i habsent
        cases hread
        refine (h field (List.mem_of_find?_eq_some hfield) st).congr fun T st' => ?_
        rw [Record.Step, hfield]
        simp [habsent]
    · rename_i hfield
      cases hread
      refine (follows_skipValue.map fun _ => st).congr fun T st' => ?_
      rw [Record.Step, hfield]
      simp
  · intro st key hrepeated T st' hstep
    rw [Record.member] at hrepeated
    rw [Record.Step] at hstep
    split at hrepeated
    · rename_i field hfield
      rw [hfield] at hstep
      split at hrepeated
      · rename_i hpresent
        rw [hstep.1] at hpresent
        cases hpresent
      · cases hrepeated
    · cases hrepeated

/-- **A record is read** from a map of its fields, or from a sequence of their values. -/
theorem follows_record : Follows readTree r.read (IsRecord r Step) := by
  refine follows_readTree fun c => follows_treeAt ?_ ?_ fun hsequence hmap => ?_
  · rintro rfl cs a rest
    have hfields {count : Nat} {st : σ} :
        (∃ behind, Record.readFields r.fields 0 r.start cs = .ok ((count, st), behind) ∧
            closeSequence behind = .ok rest) ↔
          ∃ es, elements readTree cs = .ok (es, rest) ∧ RunFields Step r.fields r.start es st ∧
            count = 0 + es.length :=
      readFields_closeSequence_iff h (Nat.lt_succ_self cs.length)
    constructor
    · intro ha
      obtain ⟨⟨⟨count, st⟩, behind⟩, hst, hread⟩ := bind_eq_ok_iff.1 ha
      obtain ⟨⟨a', _⟩, hresult, hend⟩ := bind_eq_ok_iff.1 hread
      obtain ⟨_, hclose, heq⟩ := bind_eq_ok_iff.1 hend
      obtain ⟨hvalue, rfl⟩ := Record.finish_eq_ok_iff.1 hresult
      obtain ⟨rfl, rfl⟩ := Prod.mk.inj (Except.ok.inj heq)
      obtain ⟨es, hes, hrun, rfl⟩ := hfields.1 ⟨_, hst, hclose⟩
      rw [Nat.zero_add] at hvalue
      exact ⟨es, hes, st, hrun, hvalue⟩
    · rintro ⟨es, hes, st, hrun, hvalue⟩
      obtain ⟨behind, hst, hclose⟩ := hfields.2 ⟨es, hes, hrun, (Nat.zero_add _).symm⟩
      exact bind_eq_ok_iff.2 ⟨_, hst, bind_eq_ok_iff.2 ⟨_, Record.finish_eq_ok_iff.2 ⟨hvalue, rfl⟩,
        bind_eq_ok_iff.2 ⟨_, hclose, rfl⟩⟩⟩
  · rintro rfl cs a rest
    constructor
    · intro ha
      obtain ⟨⟨st, _⟩, hst, hread⟩ := bind_eq_ok_iff.1 ha
      obtain ⟨hvalue, rfl⟩ := Record.finish_eq_ok_iff.1 hread
      obtain ⟨ms, hms, hrun⟩ := (follows_members (followsMembers_record h) r.start _ _ _).1 hst
      exact ⟨ms, hms, st, hrun, hvalue⟩
    · rintro ⟨ms, hms, st, hrun, hvalue⟩
      exact bind_eq_ok_iff.2 ⟨_, (follows_members (followsMembers_record h) r.start _ _ _).2
        ⟨ms, hms, hrun⟩, Record.finish_eq_ok_iff.2 ⟨hvalue, rfl⟩⟩
  · simp only [if_neg hsequence, if_neg hmap]
    exact follows_error fun _ _ => id

end

/-! ## Sequences as maps -/

/-- The members of a value that stands for a record with fields of the given keys.  The
    elements of a sequence are the values of the first fields. -/
def Tree.members? (keys : List String) : Tree → Option (List (Option String × Tree))
  | .map ms => some ms
  | .sequence es => if es.length ≤ keys.length then some ((keys.map some).zip es) else none
  | .scalar _ => none

/-- Fields that are told apart by their keys and read apart from each other. -/
structure Record.HasOwnFields (r : Record σ α) (Step : Field σ → σ → Tree → σ → Prop) : Prop where
  distinct : (r.fields.map (·.key)).Nodup
  absent : ∀ field ∈ r.fields, field.present r.start = false
  frame : ∀ field ∈ r.fields, ∀ other ∈ r.fields, other.key ≠ field.key →
    ∀ {st T st'}, Step field st T st' → other.present st' = other.present st

theorem find?_key_eq_some {fields : List (Field σ)} (h : (fields.map (·.key)).Nodup)
    {field : Field σ} (hfield : field ∈ fields) :
    fields.find? (·.key = field.key) = some field := by
  induction fields with
  | nil => cases hfield
  | cons other fields ih =>
    rw [List.map_cons, List.nodup_cons] at h
    rcases List.mem_cons.1 hfield with rfl | hfield
    · simp
    · have hne : other.key ≠ field.key := fun heq =>
        h.1 (heq ▸ List.mem_map_of_mem hfield)
      rw [List.find?_cons_of_neg (by simpa using hne)]
      exact ih h.2 hfield

section
variable {r : Record σ α} {Step : Field σ → σ → Tree → σ → Prop}

theorem Record.HasOwnFields.step_iff (h : r.HasOwnFields Step) {field : Field σ}
    (hfield : field ∈ r.fields) {st st' : σ} {T : Tree} :
    r.Step Step st field.key T st' ↔ field.present st = false ∧ Step field st T st' := by
  rw [Record.Step, find?_key_eq_some h.distinct hfield]

theorem Record.HasOwnFields.runFields_iff (h : r.HasOwnFields Step) {fields : List (Field σ)}
    (hfields : ∀ field ∈ fields, field ∈ r.fields) (hdistinct : (fields.map (·.key)).Nodup)
    {st st' : σ} (habsent : ∀ field ∈ fields, field.present st = false) {es : List Tree} :
    RunFields Step fields st es st' ↔ es.length ≤ fields.length ∧
      Run (r.Step Step) st ((fields.map fun field => some field.key).zip es) st' := by
  induction fields generalizing st es with
  | nil =>
    constructor
    · rintro ⟨⟩
      exact ⟨le_rfl, .nil⟩
    · rintro ⟨hlength, hrun⟩
      obtain rfl : es = [] := List.eq_nil_of_length_eq_zero (Nat.le_zero.1 hlength)
      obtain rfl := run_nil_iff.1 hrun
      exact .stop
  | cons field fields ih =>
    obtain ⟨hfield, hfields⟩ := List.forall_mem_cons.1 hfields
    obtain ⟨hnew, habsent⟩ := List.forall_mem_cons.1 habsent
    rw [List.map_cons, List.nodup_cons] at hdistinct
    cases es with
    | nil =>
      rw [List.zip_nil_right, run_nil_iff]
      constructor
      · rintro ⟨⟩
        exact ⟨Nat.zero_le _, rfl⟩
      · rintro ⟨-, rfl⟩
        exact .stop
    | cons e es =>
      have hnext {next : σ} (hstep : Step field st e next) :
          ∀ other ∈ fields, other.present next = false := by
        intro other hother
        have hne : other.key ≠ field.key := fun heq =>
          hdistinct.1 (heq ▸ List.mem_map_of_mem hother)
        rw [h.frame field hfield other (hfields other hother) hne hstep]
        exact habsent other hother
      rw [List.map_cons, List.zip_cons_cons, run_cons_iff, List.length_cons, List.length_cons,
        Nat.succ_le_succ_iff]
      simp only [h.step_iff hfield]
      constructor
      · rintro (_ | ⟨hstep, hrun⟩)
        obtain ⟨hlength, hrun⟩ := (ih hfields hdistinct.2 (hnext hstep)).1 hrun
        exact ⟨hlength, _, ⟨hnew, hstep⟩, hrun⟩
      · rintro ⟨hlength, next, ⟨-, hstep⟩, hrun⟩
        exact .next hstep ((ih hfields hdistinct.2 (hnext hstep)).2 ⟨hlength, hrun⟩)

/-- **A sequence is read as the map of its fields.** -/
theorem Record.HasOwnFields.isRecord_iff (h : r.HasOwnFields Step)
    (hsame : ∀ length st a, r.ofSequence length st = .ok a ↔ r.ofMap st = .ok a)
    {T : Tree} {a : α} :
    IsRecord r Step T a ↔ ∃ ms st, T.members? (r.fields.map (·.key)) = some ms ∧
      Run (r.Step Step) r.start ms st ∧ r.ofMap st = .ok a := by
  cases T with
  | scalar found =>
    refine iff_of_false id ?_
    rintro ⟨_, _, hms, -⟩
    cases hms
  | map ms =>
    constructor
    · rintro ⟨st, hrun, ha⟩
      exact ⟨ms, st, rfl, hrun, ha⟩
    · rintro ⟨_, st, ⟨⟩, hrun, ha⟩
      exact ⟨st, hrun, ha⟩
  | sequence es =>
    have hrun {st : σ} : RunFields Step r.fields r.start es st ↔ es.length ≤ r.fields.length ∧
        Run (r.Step Step) r.start ((r.fields.map fun field => some field.key).zip es) st :=
      h.runFields_iff (fun _ => id) h.distinct h.absent
    rw [Tree.members?, List.length_map, List.map_map]
    constructor
    · rintro ⟨st, hst, ha⟩
      obtain ⟨hlength, hst⟩ := hrun.1 hst
      exact ⟨_, st, if_pos hlength, hst, (hsame _ _ _).1 ha⟩
    · rintro ⟨ms, st, hms, hst, ha⟩
      split at hms
      · rename_i hlength
        cases hms
        exact ⟨st, hrun.2 ⟨hlength, hst⟩, (hsame _ _ _).2 ha⟩
      · cases hms

end

end SpriteScene.Json
