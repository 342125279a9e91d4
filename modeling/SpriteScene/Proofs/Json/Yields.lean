/-
  What readers can give.

  `Yields read P`: whatever a reader gives, on whatever text, satisfies `P`.  The
  lemmas go along the readers: what the parts of a value yield, the whole yields
  (`yields_sequence`, `yields_members`, `yields_record`).
-/
import SpriteScene.Json.Record
import SpriteScene.Proofs.Steps

namespace SpriteScene.Json

/-- Whatever a reader gives satisfies a property. -/
def Yields (read : Reader α) (P : α → Prop) : Prop := ∀ cs a rest, read cs = .ok (a, rest) → P a

variable {P : α → Prop}

theorem yields_atValue {read : Char → Reader α} (h : ∀ c, Yields (read c) P) :
    Yields (atValue read) P := by
  intro cs a rest ha
  rw [atValue] at ha
  split at ha
  · cases ha
  · exact h _ _ _ _ ha

theorem Yields.map {read : Reader α} (h : Yields read P) {Q : β → Prop}
    {g : α × List Char → β × List Char} (hg : ∀ a cs, P a → Q (g (a, cs)).1) :
    Yields (fun cs => (read cs).map g) Q := by
  intro cs b rest hb
  obtain ⟨⟨a, rest'⟩, ha, hb⟩ := map_eq_ok_iff.1 hb
  have := hg a rest' (h _ _ _ ha)
  rwa [hb] at this

/-- What is made of anything that was read. -/
theorem of_map_eq_ok {α β : Type} {P : α → Prop} {x : Except Fault β} {g : β → α × List Char}
    (hg : ∀ b, P (g b).1) {a : α} {rest : List Char} (h : x.map g = .ok (a, rest)) : P a := by
  obtain ⟨b, -, hb⟩ := map_eq_ok_iff.1 h
  have := hg b
  rwa [hb] at this

theorem yields_map {read : Reader α} {Q : β → Prop} {g : α × List Char → β × List Char}
    (hg : ∀ a cs, Q (g (a, cs)).1) : Yields (fun cs => (read cs).map g) Q :=
  fun _ _ _ hb => of_map_eq_ok (fun (p : α × List Char) => hg p.1 p.2) hb

theorem yields_finish {result : Except Mismatch α} (h : ∀ a, result = .ok a → P a) :
    Yields (Record.finish result) P := by
  intro cs a rest ha
  cases result with
  | ok a' =>
    cases ha
    exact h a rfl
  | error => cases ha

theorem Yields.readText {read : Reader α} (h : Yields read P) {text : String} {a : α}
    (ha : readText read text = .ok a) : P a := by
  obtain ⟨⟨a', rest⟩, hread, ha⟩ := bind_eq_ok_iff.1 ha
  dsimp only at ha
  split at ha
  · cases ha
    exact h _ _ _ hread
  · cases ha

/-! ## Containers -/

theorem yields_elementsFrom {read : Reader α} (h : Yields read P) (limit : Nat) (first : Bool) :
    Yields (elementsFrom read limit first) fun as => ∀ a ∈ as, P a := by
  induction limit generalizing first with
  | zero => exact fun cs as rest has => nomatch has
  | succ limit ih =>
    intro cs as rest has
    obtain ⟨next, -, has⟩ := bind_eq_ok_iff.1 has
    dsimp only at has
    split at has
    · obtain ⟨_, -, has⟩ := bind_eq_ok_iff.1 has
      cases has
      exact List.forall_mem_nil _
    · obtain ⟨⟨a, cs'⟩, ha, has⟩ := bind_eq_ok_iff.1 has
      obtain ⟨⟨as', cs''⟩, has', has⟩ := bind_eq_ok_iff.1 has
      cases has
      exact List.forall_mem_cons.2 ⟨h _ _ _ ha, ih false _ _ _ has'⟩

theorem yields_sequence {read : Reader α} (h : Yields read P) :
    Yields (readSequence read) fun as => ∀ a ∈ as, P a := by
  refine yields_atValue fun c cs as rest has => ?_
  split at has
  · exact yields_elementsFrom h _ _ _ _ _ has
  · cases has

theorem yields_membersFrom {member : σ → String → Member σ} {Q : σ → Prop}
    (h : ∀ st key read, Q st → member st key = .value read → Yields read Q) (limit : Nat) :
    ∀ (first : Bool) {st : σ}, Q st → Yields (membersFrom member limit first st) Q := by
  induction limit with
  | zero => exact fun first st hst cs st' rest hst' => nomatch hst'
  | succ limit ih =>
    intro first st hst cs st' rest hst'
    obtain ⟨⟨more, cs'⟩, -, hst'⟩ := bind_eq_ok_iff.1 hst'
    dsimp only at hst'
    split at hst'
    · obtain ⟨⟨key, cs''⟩, -, hst'⟩ := bind_eq_ok_iff.1 hst'
      dsimp only at hst'
      split at hst'
      · cases hst'
      · rename_i read hkey
        obtain ⟨_, -, hst'⟩ := bind_eq_ok_iff.1 hst'
        obtain ⟨⟨next, _⟩, hnext, hst'⟩ := bind_eq_ok_iff.1 hst'
        exact ih false (h _ _ _ hst hkey _ _ _ hnext) _ _ _ hst'
    · cases hst'
      exact hst

/-- **What a state satisfies at the beginning of a map and what every member
    keeps**, the state satisfies at its end. -/
theorem yields_members {member : σ → String → Member σ} {Q : σ → Prop}
    (h : ∀ st key read, Q st → member st key = .value read → Yields read Q) {st : σ} (hst : Q st) :
    Yields (members member st) Q := fun cs =>
  yields_membersFrom h (cs.length + 1) true hst cs

/-! ## Records -/

theorem yields_readFields {fields : List (Field σ)} {Q : σ → Prop}
    (h : ∀ field ∈ fields, ∀ st, Q st → Yields (field.read st) Q) :
    ∀ (count : Nat) {st : σ}, Q st → Yields (Record.readFields fields count st) fun r => Q r.2 := by
  induction fields with
  | nil =>
    intro count st hst cs r rest hr
    cases hr
    exact hst
  | cons field fields ih =>
    intro count st hst cs r rest hr
    rw [List.forall_mem_cons] at h
    obtain ⟨next, -, hr⟩ := bind_eq_ok_iff.1 hr
    dsimp only at hr
    split at hr
    · cases hr
      exact hst
    · obtain ⟨⟨st', cs'⟩, hst', hr⟩ := bind_eq_ok_iff.1 hr
      exact ih h.2 (count + 1) (h.1 st hst _ _ _ hst') _ _ _ hr

/-- **What the fields of a record keep** holds of the draft at the end, and so of
    the record. -/
theorem yields_record {r : Record σ α} {Q : σ → Prop} (hstart : Q r.start)
    (hfields : ∀ field ∈ r.fields, ∀ st, Q st → Yields (field.read st) Q)
    (hmap : ∀ st a, Q st → r.ofMap st = .ok a → P a)
    (hsequence : ∀ n st a, Q st → r.ofSequence n st = .ok a → P a) : Yields r.read P := by
  have hmember : ∀ st key read, Q st → r.member st key = .value read → Yields read Q := by
    intro st key read hst hread
    rw [Record.member] at hread
    split at hread
    · rename_i field hfield
      split at hread
      · cases hread
      · cases hread
        exact hfields field (List.mem_of_find?_eq_some hfield) st hst
    · cases hread
      intro cs st' rest hst'
      obtain ⟨_, -, h⟩ := map_eq_ok_iff.1 hst'
      cases h
      exact hst
  refine yields_atValue fun c cs a rest ha => ?_
  dsimp only at ha
  split at ha
  · obtain ⟨⟨st, cs'⟩, hst, ha⟩ := bind_eq_ok_iff.1 ha
    exact yields_finish (hmap st · (yields_members hmember hstart _ _ _ hst)) _ _ _ ha
  · split at ha
    · obtain ⟨⟨⟨count, st⟩, cs'⟩, hst, ha⟩ := bind_eq_ok_iff.1 ha
      obtain ⟨⟨a', cs''⟩, ha', ha⟩ := bind_eq_ok_iff.1 ha
      obtain ⟨_, -, ha⟩ := bind_eq_ok_iff.1 ha
      cases ha
      exact yields_finish (hsequence count st · (yields_readFields hfields 0 hstart _ _ _ hst))
        _ _ _ ha'
    · cases ha

end SpriteScene.Json
