/-
  Written values taken for values again.

  * `Takes read text result`: what a reader takes a text for wherever the text
    may stand, behind white space and in front of anything that ends a number;
    `Reads read text a` if that is a value;
  * `reads_string`, `reads_unsigned`, `reads_null` and `reads_optional` are about
    scalars;
  * `takes_sequence`, `members_parts` and `takes_record` are about containers, in
    any layout that puts nothing but white space between their parts: they are
    taken for what their parts are taken for, up to the first fault.
-/
import Mathlib.Data.List.Forall2
import SpriteScene.Json.Record
import SpriteScene.Json.Writer
import SpriteScene.Proofs.Json.Numeral
import SpriteScene.Proofs.Json.Text

namespace SpriteScene.Json

/-! ## White space -/

/-- White space and nothing else. -/
def IsBlank (cs : List Char) : Prop := ∀ c ∈ cs, isSpace c

theorem isBlank_nil : IsBlank [] := nofun

theorem skipSpace_append {gap : List Char} (h : IsBlank gap) {c : Char} (hc : isSpace c = false)
    (cs : List Char) : skipSpace (gap ++ c :: cs) = c :: cs := by
  rw [skipSpace, List.dropWhile_append_of_pos h, List.dropWhile_cons_of_neg (by simp [hc])]

theorem endsNumber_cons {c : Char} (h : c.isDigit = false ∧ c ≠ '.' ∧ c ≠ 'e' ∧ c ≠ 'E')
    (rest : List Char) : EndsNumber (c :: rest) := fun d hd => by
  obtain rfl : c = d := by simpa using hd
  exact h

theorem endsNumber_nil : EndsNumber [] := nofun

/-- White space ends a number. -/
theorem endsNumber_blank {gap rest : List Char} (h : IsBlank gap) (hr : EndsNumber rest) :
    EndsNumber (gap ++ rest) := by
  cases gap with
  | nil => exact hr
  | cons c gap =>
    refine endsNumber_cons ?_ _
    have hc : isSpace c := h c List.mem_cons_self
    simp only [isSpace, Bool.or_eq_true, decide_eq_true_eq] at hc
    rcases hc with ((rfl | rfl) | rfl) | rfl <;> decide

/-! ## What a text is taken for -/

/-- What a reader takes a text for, behind white space and in front of anything
    that ends a number: a value or a fault.  The text does not begin with white
    space, nor as if there were no value. -/
structure Takes (read : Reader α) (text : String) (result : Except Fault α) : Prop where
  head : ∃ c cs, text.toList = c :: cs ∧ isSpace c = false ∧ c ≠ ']'
  read : ∀ gap rest, IsBlank gap → EndsNumber rest →
    read (gap ++ (text.toList ++ rest)) = result.map fun a => (a, rest)

/-- A reader takes a text for a value. -/
abbrev Reads (read : Reader α) (text : String) (a : α) : Prop := Takes read text (.ok a)

theorem takes_atValue {read : Char → Reader α} {text : String} {result : Except Fault α} {c : Char}
    {cs : List Char} (htext : text.toList = c :: cs) (hc : isSpace c = false) (hclose : c ≠ ']')
    (h : ∀ rest, EndsNumber rest → read c (cs ++ rest) = result.map fun a => (a, rest)) :
    Takes (atValue read) text result := by
  refine ⟨⟨c, cs, htext, hc, hclose⟩, fun gap rest hgap hr => ?_⟩
  rw [htext, List.cons_append, atValue, skipSpace_append hgap hc]
  exact h rest hr

theorem Takes.map {read : Reader α} {text : String} {result : Except Fault α}
    (h : Takes read text result) (f : α → β) :
    Takes (fun cs => (read cs).map fun (a, cs) => (f a, cs)) text (result.map f) :=
  ⟨h.head, fun gap rest hgap hr => by rw [h.read gap rest hgap hr]; cases result <;> rfl⟩

theorem Takes.readText {read : Reader α} {text : String} {result : Except Fault α}
    (h : Takes read text result) : readText read text = result := by
  have hread := h.read [] [] isBlank_nil endsNumber_nil
  rw [List.append_nil, List.nil_append] at hread
  rw [Json.readText, hread]
  cases result <;> rfl

/-! ## Scalars -/

theorem reads_string (wanted : String) (s : String) :
    Reads (readString wanted) (writeString s) s := by
  refine takes_atValue (toList_writeString s) (by decide) (by decide) fun rest _ => ?_
  rw [if_pos rfl, List.append_assoc]
  exact takeString_writeString s rest

theorem not_isSpace_of_isDigit {c : Char} (h : c.isDigit) : isSpace c = false ∧ c ≠ ']' := by
  constructor
  · by_contra hs
    simp only [isSpace, Bool.not_eq_false, Bool.or_eq_true, decide_eq_true_eq] at hs
    rcases hs with ((rfl | rfl) | rfl) | rfl <;> exact absurd h (by decide)
  · rintro rfl
    exact absurd h (by decide)

theorem reads_unsigned (n : UInt64) : Reads readUnsigned (toString n.toNat) n := by
  obtain ⟨c, cs, hcs⟩ := List.exists_cons_of_ne_nil (isDigits_toDigits n.toNat).1
  have hc : c.isDigit := (isDigits_toDigits n.toNat).2 c (by rw [hcs]; exact List.mem_cons_self)
  have htext : (toString n.toNat).toList = c :: cs := by
    rw [Nat.toString_eq_ofList_toDigits, String.toList_ofList, hcs]
  refine takes_atValue htext (not_isSpace_of_isDigit hc).1 (not_isSpace_of_isDigit hc).2
    fun rest hr => ?_
  have hscalar : takeScalar c (cs ++ rest) = .ok (.number (.whole n.toNat), rest) := by
    rw [takeScalar_digit hc, ← List.cons_append, ← hcs, takeNumber_whole n.toNat_lt hr]
    rfl
  rw [if_pos (Or.inr hc), hscalar]
  exact congrArg (fun n => Except.ok (n, rest)) UInt64.ofNat_toNat

/-- `null` is read as nothing. -/
theorem reads_null (read : Reader α) : Reads (readOptional read) "null" none := by
  refine ⟨⟨'n', "ull".toList, rfl, by decide, by decide⟩, fun gap rest hgap _ => ?_⟩
  rw [readOptional, show "null".toList = 'n' :: "ull".toList from rfl, List.cons_append,
    skipSpace_append hgap (by decide)]
  rfl

/-- Any other value is read as something. -/
theorem reads_optional {read : Reader α} {text : String} {a : α} (h : Reads read text a)
    (hnull : text.toList.head? ≠ some 'n') : Reads (readOptional read) text (some a) := by
  refine ⟨h.head, fun gap rest hgap hr => ?_⟩
  obtain ⟨c, cs, hcs, hc, -⟩ := h.head
  have hread := h.read [] rest isBlank_nil hr
  rw [List.nil_append, hcs, List.cons_append] at hread
  rw [readOptional, hcs, List.cons_append, skipSpace_append hgap hc]
  split
  · rename_i heq
    cases heq
    exact absurd (by rw [hcs]; rfl) hnull
  · rw [hread]
    rfl

/-! ## Layouts -/

/-- A layout that puts nothing but white space between the parts of a container. -/
structure Layout.IsSpaced (l : Layout) : Prop where
  gap : ∀ depth, IsBlank (l.gap depth).toList
  colon : ∃ gap, IsBlank gap ∧ l.colon.toList = ':' :: gap

theorem isSpaced_compact : Layout.compact.IsSpaced := ⟨fun _ => nofun, [], isBlank_nil, rfl⟩

theorem isSpaced_pretty : Layout.pretty.IsSpaced := by
  refine ⟨fun depth c hc => ?_, [' '], by simp [IsBlank, isSpace], rfl⟩
  simp only [Layout.pretty, String.toList_ofList, List.mem_cons] at hc
  rcases hc with rfl | hc
  · decide
  · rw [List.eq_of_mem_replicate hc]
    decide

/-- The parts of a container behind its first one. -/
def laterParts (gap : List Char) (parts : List String) : List Char :=
  parts.flatMap fun part => ',' :: (gap ++ part.toList)

theorem toList_intercalate_cons (gap part : String) (parts : List String) :
    ((("," ++ gap).intercalate (part :: parts)).toList) =
      part.toList ++ laterParts gap.toList parts := by
  induction parts generalizing part with
  | nil => simp [laterParts]
  | cons next parts ih =>
    rw [String.intercalate_cons_cons, String.toList_append, ih, laterParts, laterParts,
      List.flatMap_cons]
    simp

theorem enclose_nil (l : Layout) (depth : Nat) (opening closing : String) :
    l.enclose depth opening closing [] = opening ++ closing := rfl

theorem toList_enclose_cons (l : Layout) (depth : Nat) {opening closing : String} {o c : Char}
    (ho : opening.toList = [o]) (hc : closing.toList = [c]) (part : String)
    (parts : List String) :
    (l.enclose depth opening closing (part :: parts)).toList =
      o :: ((l.gap (depth + 1)).toList ++ (part.toList ++
        (laterParts (l.gap (depth + 1)).toList parts ++ ((l.gap depth).toList ++ [c])))) := by
  rw [Layout.enclose, if_neg (by simp)]
  simp only [String.toList_append, toList_intercalate_cons, ho, hc, List.append_assoc,
    List.cons_append, List.nil_append]

theorem length_le_laterParts (gap : List Char) (parts : List String) :
    parts.length ≤ (laterParts gap parts).length := by
  induction parts with
  | nil => exact Nat.le_refl _
  | cons part parts ih =>
    rw [laterParts, List.flatMap_cons, List.length_append, ← laterParts] at *
    simp only [List.length_cons, List.length_append]
    omega

theorem endsNumber_laterParts {gap last rest : List Char} (hlast : IsBlank last)
    (hr : EndsNumber rest) (parts : List String) :
    EndsNumber (laterParts gap parts ++ (last ++ rest)) := by
  cases parts with
  | nil =>
    rw [laterParts, List.flatMap_nil, List.nil_append]
    exact endsNumber_blank hlast hr
  | cons part parts => exact endsNumber_cons (by decide) _

/-! ## Sequences -/

section
variable {gap last : List Char} {c : Char} (cs : List Char)

theorem nextElement_first (hgap : IsBlank gap) (hc : isSpace c = false) (hclose : c ≠ ']') :
    nextElement true (gap ++ c :: cs) = .ok (some (c :: cs)) := by
  rw [nextElement, skipSpace_append hgap hc]
  simp only [if_neg hclose, if_true]

theorem nextElement_comma (hgap : IsBlank gap) (hc : isSpace c = false) (hclose : c ≠ ']') :
    nextElement false (',' :: (gap ++ c :: cs)) = .ok (some (c :: cs)) := by
  rw [nextElement, ← List.nil_append (',' :: _), skipSpace_append isBlank_nil (by decide)]
  simp only [show ',' ≠ ']' by decide, if_false, Bool.false_eq_true, if_true,
    skipSpace_append hgap hc]
  split
  · rename_i heq
    cases heq
    exact absurd rfl hclose
  · rfl

theorem nextElement_close (first : Bool) (hlast : IsBlank last) :
    nextElement first (last ++ ']' :: cs) = .ok none := by
  rw [nextElement, skipSpace_append hlast (by decide)]
  rfl

theorem closeSequence_append (hlast : IsBlank last) :
    closeSequence (last ++ ']' :: cs) = .ok cs := by
  rw [closeSequence, skipSpace_append hlast (by decide)]
  rfl

end

/-- The elements behind a first one, up to the first fault. -/
theorem elementsFrom_laterParts {read : Reader α} {gap last : List Char} (hgap : IsBlank gap)
    (hlast : IsBlank last) {parts : List String} {results : List (Except Fault α)}
    (h : List.Forall₂ (Takes read) parts results) (rest : List Char) :
    ∀ limit, parts.length < limit →
      elementsFrom read limit false (laterParts gap parts ++ (last ++ ']' :: rest)) =
        (results.mapM id).map fun as => (as, rest) := by
  induction h with
  | nil =>
    intro limit hlimit
    obtain ⟨limit, rfl⟩ := Nat.exists_eq_succ_of_ne_zero (Nat.ne_of_gt hlimit)
    rw [laterParts, List.flatMap_nil, List.nil_append, elementsFrom,
      nextElement_close _ _ hlast]
    simp only [bind, Except.bind, closeSequence_append _ hlast]
    rfl
  | @cons part result parts results hpart _ ih =>
    intro limit hlimit
    obtain ⟨limit, rfl⟩ := Nat.exists_eq_succ_of_ne_zero (Nat.ne_of_gt (Nat.zero_lt_of_lt hlimit))
    have hends : EndsNumber (laterParts gap parts ++ (last ++ ']' :: rest)) :=
      endsNumber_laterParts hlast (endsNumber_cons (by decide) rest) parts
    obtain ⟨c, cs, hcs, hc, hclose⟩ := hpart.head
    have hread := hpart.read [] _ isBlank_nil hends
    rw [List.nil_append, hcs, List.cons_append] at hread
    have htext : laterParts gap (part :: parts) ++ (last ++ ']' :: rest) =
        ',' :: (gap ++ c :: (cs ++ (laterParts gap parts ++ (last ++ ']' :: rest)))) := by
      rw [laterParts, List.flatMap_cons, ← laterParts, hcs]
      simp
    rw [htext, elementsFrom, nextElement_comma _ hgap hc hclose, List.mapM_cons]
    simp only [bind, Except.bind, hread, id_eq]
    cases result with
    | error fault => rfl
    | ok a =>
      simp only [Except.map, ih limit (Nat.lt_of_succ_lt_succ hlimit)]
      cases results.mapM id <;> rfl

theorem elements_parts {read : Reader α} {gap last : List Char} (hgap : IsBlank gap)
    (hlast : IsBlank last) {part : String} {parts : List String} {results : List (Except Fault α)}
    (h : List.Forall₂ (Takes read) (part :: parts) results) (rest : List Char) :
    elements read (gap ++ (part.toList ++ (laterParts gap parts ++ (last ++ ']' :: rest)))) =
      (results.mapM id).map fun as => (as, rest) := by
  cases h with
  | @cons _ result _ results hpart hparts =>
    have hends : EndsNumber (laterParts gap parts ++ (last ++ ']' :: rest)) :=
      endsNumber_laterParts hlast (endsNumber_cons (by decide) rest) parts
    obtain ⟨c, cs, hcs, hc, hclose⟩ := hpart.head
    have hread := hpart.read [] _ isBlank_nil hends
    have hlength := length_le_laterParts gap parts
    rw [List.nil_append, hcs, List.cons_append] at hread
    rw [hcs, List.cons_append, elements, elementsFrom, nextElement_first _ hgap hc hclose,
      List.mapM_cons]
    simp only [bind, Except.bind, hread, id_eq]
    cases result with
    | error fault => rfl
    | ok a =>
      simp only [Except.map]
      rw [elementsFrom_laterParts hgap hlast hparts rest]
      · cases results.mapM id <;> rfl
      · simp only [List.length_append, List.length_cons]
        omega

/-- **A sequence is taken for its elements**, or for the first fault among them. -/
theorem takes_sequence {read : Reader α} {l : Layout} (hl : l.IsSpaced) (depth : Nat)
    {parts : List String} {results : List (Except Fault α)}
    (h : List.Forall₂ (Takes read) parts results) :
    Takes (readSequence read) (l.enclose depth "[" "]" parts) (results.mapM id) := by
  cases parts with
  | nil =>
    cases h
    rw [enclose_nil]
    have htext : "[]".toList = '[' :: [']'] := rfl
    refine takes_atValue htext (by decide) (by decide) fun rest _ => ?_
    rw [if_pos rfl, elements, elementsFrom, List.singleton_append, ← List.nil_append (']' :: rest),
      nextElement_close _ _ isBlank_nil]
    simp only [bind, Except.bind, closeSequence_append _ isBlank_nil]
    rfl
  | cons part parts =>
    refine takes_atValue (toList_enclose_cons l depth (o := '[') (c := ']') rfl rfl part parts)
      (by decide) (by decide) fun rest _ => ?_
    rw [if_pos rfl]
    simpa only [List.append_assoc, List.singleton_append] using
      elements_parts (hl.gap (depth + 1)) (hl.gap depth) h rest

/-! ## Members of maps -/

section
variable {gap last : List Char} (cs : List Char)

theorem nextKey_first (hgap : IsBlank gap) : nextKey true (gap ++ '"' :: cs) = .ok (true, cs) := by
  rw [nextKey, skipSpace_append hgap (by decide)]
  rfl

theorem nextKey_comma (hgap : IsBlank gap) :
    nextKey false (',' :: (gap ++ '"' :: cs)) = .ok (true, cs) := by
  rw [nextKey, ← List.nil_append (',' :: _), skipSpace_append isBlank_nil (by decide)]
  simp only [show ',' ≠ '\x7d' by decide, if_false, Bool.false_eq_true, if_true,
    skipSpace_append hgap (show isSpace '"' = false by decide)]

theorem nextKey_close (first : Bool) (hlast : IsBlank last) :
    nextKey first (last ++ '\x7d' :: cs) = .ok (false, cs) := by
  rw [nextKey, skipSpace_append hlast (by decide)]
  rfl

end

/-- What the members of a map, each a key with the text of its value, make of a
    state: another state, or the first fault. -/
inductive TakesMembers (member : σ → String → Member σ) :
    σ → List (String × String) → Except Fault σ → Prop
  | nil (st : σ) : TakesMembers member st [] (.ok st)
  | cons {st st' : σ} {key text : String} {read : Reader σ} {ms : List (String × String)}
    {result : Except Fault σ} (hkey : member st key = .value read) (hvalue : Reads read text st')
    (rest : TakesMembers member st' ms result) : TakesMembers member st ((key, text) :: ms) result
  | refused {st : σ} {key text : String} {read : Reader σ} {ms : List (String × String)}
    {fault : Fault} (hkey : member st key = .value read) (hvalue : Takes read text (.error fault)) :
    TakesMembers member st ((key, text) :: ms) (.error fault)

/-- The text of a member. -/
def memberText (l : Layout) (m : String × String) : String := writeString m.1 ++ l.colon ++ m.2

/-- The text of a member behind the opening quote of its key. -/
def memberChars (gap : List Char) (m : String × String) : List Char :=
  m.1.toList.flatMap escapeChar ++ '"' :: ':' :: (gap ++ m.2.toList)

theorem toList_memberText {l : Layout} {gap : List Char} (hcolon : l.colon.toList = ':' :: gap)
    (m : String × String) : (memberText l m).toList = '"' :: memberChars gap m := by
  simp [memberText, memberChars, toList_writeString, hcolon]

/-- One member takes its state to the next, or ends the reading. -/
theorem membersFrom_memberChars {member : σ → String → Member σ} {st : σ} {key text : String}
    {read : Reader σ} {result : Except Fault σ} (hkey : member st key = .value read)
    (hvalue : Takes read text result) {gap rest cs : List Char} (hgap : IsBlank gap)
    (hrest : EndsNumber rest) {first : Bool}
    (hnext : nextKey first cs = .ok (true, memberChars gap (key, text) ++ rest)) (limit : Nat) :
    membersFrom member (limit + 1) first st cs =
      result.bind fun st' => membersFrom member limit false st' rest := by
  have hstring : takeString (memberChars gap (key, text) ++ rest) =
      .ok (key, ':' :: (gap ++ (text.toList ++ rest))) := by
    rw [memberChars, List.append_assoc]
    simpa using takeString_writeString key (':' :: (gap ++ (text.toList ++ rest)))
  have hcolon : takeColon (':' :: (gap ++ (text.toList ++ rest))) =
      .ok (gap ++ (text.toList ++ rest)) := by
    rw [takeColon, ← List.nil_append (':' :: _), skipSpace_append isBlank_nil (by decide)]
    rfl
  rw [membersFrom, hnext]
  simp only [bind, Except.bind, if_true, hstring, hkey, hcolon, hvalue.read gap rest hgap hrest]
  cases result <;> rfl

section
variable {member : σ → String → Member σ} {l : Layout} (hl : l.IsSpaced) {st : σ}
  {result : Except Fault σ}

include hl

/-- The members behind a first one, up to the first fault. -/
theorem membersFrom_laterParts {gap last : List Char} (hgap : IsBlank gap) (hlast : IsBlank last)
    {ms : List (String × String)} (h : TakesMembers member st ms result) (rest : List Char) :
    ∀ limit, ms.length < limit →
      membersFrom member limit false st
        (laterParts gap (ms.map (memberText l)) ++ (last ++ '\x7d' :: rest)) =
          result.map fun st => (st, rest) := by
  obtain ⟨colonGap, hcolonGap, hcolon⟩ := hl.colon
  have hends (ms : List (String × String)) :
      EndsNumber (laterParts gap (ms.map (memberText l)) ++ (last ++ '\x7d' :: rest)) :=
    endsNumber_laterParts hlast (endsNumber_cons (by decide) rest) _
  have hnext (key text : String) (ms : List (String × String)) :
      nextKey false (laterParts gap (((key, text) :: ms).map (memberText l)) ++
        (last ++ '\x7d' :: rest)) = .ok (true, memberChars colonGap (key, text) ++
          (laterParts gap (ms.map (memberText l)) ++ (last ++ '\x7d' :: rest))) := by
    rw [List.map_cons, laterParts, List.flatMap_cons, ← laterParts, toList_memberText hcolon]
    simpa using nextKey_comma (memberChars colonGap (key, text) ++
      (laterParts gap (ms.map (memberText l)) ++ (last ++ '\x7d' :: rest))) hgap
  induction h with
  | nil st =>
    intro limit hlimit
    obtain ⟨limit, rfl⟩ := Nat.exists_eq_succ_of_ne_zero (Nat.ne_of_gt hlimit)
    rw [List.map_nil, laterParts, List.flatMap_nil, List.nil_append, membersFrom,
      nextKey_close _ _ hlast]
    rfl
  | @cons _ _ key text _ ms _ hkey hvalue _ ih =>
    intro limit hlimit
    obtain ⟨limit, rfl⟩ := Nat.exists_eq_succ_of_ne_zero (Nat.ne_of_gt (Nat.zero_lt_of_lt hlimit))
    rw [membersFrom_memberChars hkey hvalue hcolonGap (hends ms) (hnext key text ms)]
    exact ih limit (Nat.lt_of_succ_lt_succ hlimit)
  | @refused _ key text _ ms _ hkey hvalue =>
    intro limit hlimit
    obtain ⟨limit, rfl⟩ := Nat.exists_eq_succ_of_ne_zero (Nat.ne_of_gt (Nat.zero_lt_of_lt hlimit))
    rw [membersFrom_memberChars hkey hvalue hcolonGap (hends ms) (hnext key text ms)]
    rfl

/-- **A map is taken for what its members make of the state**, or for the first
    fault among them. -/
theorem members_parts (depth : Nat) {m : String × String} {ms : List (String × String)}
    (h : TakesMembers member st (m :: ms) result) :
    ∃ cs, (l.enclose depth "\x7b" "\x7d" ((m :: ms).map (memberText l))).toList = '\x7b' :: cs ∧
      ∀ rest, members member st (cs ++ rest) = result.map fun st => (st, rest) := by
  obtain ⟨colonGap, hcolonGap, hcolon⟩ := hl.colon
  refine ⟨_, toList_enclose_cons l depth (o := '\x7b') (c := '\x7d') rfl rfl _ _, fun rest => ?_⟩
  have hgap := hl.gap (depth + 1)
  have hlast := hl.gap depth
  have hlength := length_le_laterParts (l.gap (depth + 1)).toList (ms.map (memberText l))
  generalize (l.gap (depth + 1)).toList = gap at *
  generalize (l.gap depth).toList = last at *
  have hends : EndsNumber (laterParts gap (ms.map (memberText l)) ++ (last ++ '\x7d' :: rest)) :=
    endsNumber_laterParts hlast (endsNumber_cons (by decide) rest) _
  have hnext : nextKey true (gap ++ ((memberText l m).toList ++
      (laterParts gap (ms.map (memberText l)) ++ (last ++ ['\x7d']))) ++ rest) =
        .ok (true, memberChars colonGap m ++
          (laterParts gap (ms.map (memberText l)) ++ (last ++ '\x7d' :: rest))) := by
    rw [toList_memberText hcolon]
    simpa using nextKey_first (memberChars colonGap m ++
      (laterParts gap (ms.map (memberText l)) ++ (last ++ '\x7d' :: rest))) hgap
  cases h with
  | cons hkey hvalue hms =>
    rw [members, membersFrom_memberChars hkey hvalue hcolonGap hends hnext]
    refine membersFrom_laterParts hl hgap hlast hms rest _ ?_
    rw [List.length_map] at hlength
    simp only [List.length_append, List.length_singleton]
    omega
  | refused hkey hvalue =>
    rw [members, membersFrom_memberChars hkey hvalue hcolonGap hends hnext]
    rfl

end

/-! ## Records -/

theorem Record.finish_eq (result : Except Mismatch α) (cs : List Char) :
    Record.finish result cs = (result.mapError .mismatch).map fun a => (a, cs) := by
  cases result <;> rfl

/-- **A record is taken for the record of its fields**, or for the first fault
    among them. -/
theorem takes_record (r : Record σ α) {l : Layout} (hl : l.IsSpaced) (depth : Nat)
    {result : Except Fault σ} {m : String × String} {ms : List (String × String)}
    (h : TakesMembers r.member r.start (m :: ms) result) :
    Takes r.read (l.enclose depth "\x7b" "\x7d" ((m :: ms).map (memberText l)))
      (result.bind fun st => (r.ofMap st).mapError .mismatch) := by
  obtain ⟨cs, hcs, hread⟩ := members_parts hl depth h
  refine takes_atValue hcs (by decide) (by decide) fun rest _ => ?_
  rw [if_pos rfl, hread]
  cases result with
  | error fault => rfl
  | ok st => exact Record.finish_eq _ _

end SpriteScene.Json
