/-
  Texts as lists of lines.

  * `segments_append`: how the parts of a text come from those of its halves, and
    `exists_append_of_segments`: a text is cut in two where one of its parts is;
  * `rawLines` cuts a text at its line feeds, and `rawLines_unlines_of_notMem`: lines
    without line feeds, put together, are cut into the same lines;
  * `count_unlines_concat`: what a text of lines holds that are each ended;
  * `linesBetween` are the lines between two marks;
  * `unlines_map_unlines`: blocks of lines put together are their lines put
    together.
-/
import Mathlib.Data.List.Basic
import SpriteScene.Module.Literal
import SpriteScene.Text.Segments

namespace SpriteScene

/-! ## Cutting at a separator -/

/-- The parts of a text are those of the library's splitting. -/
theorem segments_eq_splitOn (sep : Char) (cs : List Char) : segments sep cs = cs.splitOn sep := by
  induction cs with
  | nil => rfl
  | cons c cs ih =>
    obtain ⟨part, parts, hs⟩ := List.exists_cons_of_ne_nil (segments_ne_nil sep cs)
    rw [segments_cons, List.splitOn_cons_eq_if_modifyHead, ← ih, hs]
    by_cases hc : c = sep
    · simp [hc]
    · simp [hc, growFirst]

/-- Parts without the separator, joined by it, are cut into the same parts. -/
theorem segments_intercalate {sep : Char} {parts : List (List Char)} (hne : parts ≠ [])
    (h : ∀ part ∈ parts, sep ∉ part) : segments sep ([sep].intercalate parts) = parts := by
  rw [segments_eq_splitOn, List.splitOn_intercalate sep h hne]

/-- A separator of more characters is one of its first, with the others in front of every
    part but the first. -/
theorem intercalate_cons_eq (sep : Char) (more : List Char) (front part : List Char)
    (parts : List (List Char)) :
    front ++ (sep :: more).intercalate (part :: parts) =
      [sep].intercalate ((front ++ part) :: parts.map (more ++ ·)) := by
  induction parts generalizing front part with
  | nil => simp
  | cons next parts ih =>
    rw [List.intercalate_cons_cons, List.map_cons, List.intercalate_cons_cons, ← ih more next]
    simp

/-- Parts without the first character of their separator are cut there. -/
theorem segments_intercalate_cons {sep : Char} {more part : List Char} {parts : List (List Char)}
    (hmore : sep ∉ more) (h : ∀ p ∈ part :: parts, sep ∉ p) :
    segments sep ((sep :: more).intercalate (part :: parts)) = part :: parts.map (more ++ ·) := by
  obtain ⟨hpart, hparts⟩ := List.forall_mem_cons.1 h
  have hjoin := intercalate_cons_eq sep more [] part parts
  rw [List.nil_append, List.nil_append] at hjoin
  rw [hjoin]
  refine segments_intercalate (List.cons_ne_nil _ _) (List.forall_mem_cons.2 ⟨hpart, ?_⟩)
  intro p hp
  obtain ⟨q, hq, rfl⟩ := List.mem_map.1 hp
  exact List.not_mem_append hmore (hparts q hq)

theorem mem_of_mem_intercalate {sep : List Char} {parts : List (List Char)} {c : Char}
    (h : c ∈ sep.intercalate parts) : c ∈ sep ∨ ∃ part ∈ parts, c ∈ part := by
  induction parts with
  | nil => simp at h
  | cons part parts ih =>
    rcases parts with _ | ⟨next, parts⟩
    · exact Or.inr ⟨part, by simp, by simpa using h⟩
    · rw [List.intercalate_cons_cons, List.mem_append, List.mem_append] at h
      rcases h with (h | h) | h
      · exact Or.inr ⟨part, by simp, h⟩
      · exact Or.inl h
      · exact (ih h).imp_right fun ⟨p, hp, hc⟩ => ⟨p, List.mem_cons_of_mem _ hp, hc⟩

/-- A character of a text is the separator or stands in a part. -/
theorem mem_segments_of_mem {sep c : Char} {cs : List Char} (h : c ∈ cs) :
    c = sep ∨ ∃ part ∈ segments sep cs, c ∈ part := by
  rw [← intercalate_segments sep cs] at h
  exact (mem_of_mem_intercalate h).imp_left List.mem_singleton.1

/-- The characters of the parts are characters of the text. -/
theorem mem_of_mem_segments {sep c : Char} {cs part : List Char} (h : part ∈ segments sep cs)
    (hc : c ∈ part) : c ∈ cs := by
  induction cs generalizing part with
  | nil =>
    rw [segments_nil, List.mem_singleton] at h
    exact absurd hc (h ▸ List.not_mem_nil)
  | cons d cs ih =>
    obtain ⟨first, parts, hs⟩ := List.exists_cons_of_ne_nil (segments_ne_nil sep cs)
    rw [segments_cons, hs] at h
    rw [hs] at ih
    by_cases hd : d = sep
    · rw [if_pos hd] at h
      rcases List.mem_cons.1 h with rfl | h
      · cases hc
      · exact List.mem_cons_of_mem d (ih h hc)
    · rw [if_neg hd] at h
      rcases List.mem_cons.1 h with rfl | h
      · rcases List.mem_cons.1 hc with rfl | hc
        · exact List.mem_cons_self
        · exact List.mem_cons_of_mem d (ih List.mem_cons_self hc)
      · exact List.mem_cons_of_mem d (ih (List.mem_cons_of_mem first h) hc)

/-- Of two texts put together the last part of the one and the first of the other make one
    part. -/
theorem segments_append {sep : Char} (cs ds : List Char) : ∃ parts last first rest,
    segments sep cs = parts ++ [last] ∧ segments sep ds = first :: rest ∧
      segments sep (cs ++ ds) = parts ++ (last ++ first) :: rest := by
  induction cs with
  | nil =>
    obtain ⟨first, rest, hds⟩ := List.exists_cons_of_ne_nil (segments_ne_nil sep ds)
    exact ⟨[], [], first, rest, rfl, hds, hds⟩
  | cons c cs ih =>
    obtain ⟨parts, last, first, rest, hcs, hds, happend⟩ := ih
    rw [List.cons_append, segments_cons, segments_cons, hcs, happend]
    by_cases hc : c = sep
    · rw [if_pos hc, if_pos hc]
      exact ⟨[] :: parts, last, first, rest, rfl, hds, rfl⟩
    · rw [if_neg hc, if_neg hc]
      cases parts with
      | nil => exact ⟨[], c :: last, first, rest, rfl, hds, rfl⟩
      | cons part parts => exact ⟨(c :: part) :: parts, last, first, rest, rfl, hds, rfl⟩

/-- A character that is no separator stands in the part that is begun before it. -/
theorem segments_append_cons {sep c : Char} (hc : c ≠ sep) (cs ds : List Char) :
    ∃ parts last more rest, segments sep cs = parts ++ [last] ∧
      segments sep (cs ++ c :: ds) = parts ++ (last ++ c :: more) :: rest := by
  obtain ⟨parts, last, first, rest, hcs, hds, happend⟩ := @segments_append sep cs (c :: ds)
  obtain ⟨more, others, hmore⟩ := List.exists_cons_of_ne_nil (segments_ne_nil sep ds)
  rw [segments_cons, if_neg hc, hmore] at hds
  obtain ⟨rfl, rfl⟩ := List.cons.inj hds
  exact ⟨parts, last, more, others, hcs, happend⟩

/-- A text is cut in two where a part of it is. -/
theorem exists_append_of_segments {sep c : Char} {cs p q : List Char}
    {before after : List (List Char)} (h : segments sep cs = before ++ (p ++ c :: q) :: after) :
    ∃ front rest, cs = front ++ c :: rest ∧ segments sep front = before ++ [p] := by
  have hfree {part : List Char} (hpart : part ∈ before ++ (p ++ c :: q) :: after) : sep ∉ part :=
    sep_notMem_of_mem_segments (h ▸ hpart)
  have hlast := @hfree (p ++ c :: q) (by simp)
  have hfront : segments sep ([sep].intercalate (before ++ [p])) = before ++ [p] := by
    refine segments_intercalate (by simp) fun part hpart => ?_
    rw [List.mem_append, List.mem_singleton] at hpart
    rcases hpart with hmem | rfl
    · exact hfree (by simp [hmem])
    · exact fun hsep => hlast (by simp [hsep])
  have hback : segments sep ([sep].intercalate ((c :: q) :: after)) = (c :: q) :: after := by
    refine segments_intercalate (by simp) fun part hpart => ?_
    rcases List.mem_cons.1 hpart with rfl | hmem
    · exact fun hsep => hlast (List.mem_append_right p hsep)
    · exact hfree (by simp [hmem])
  obtain ⟨parts, last, first, rest, h₁, h₂, happend⟩ := @segments_append sep
    ([sep].intercalate (before ++ [p])) ([sep].intercalate ((c :: q) :: after))
  rw [hfront] at h₁
  rw [hback] at h₂
  obtain ⟨rfl, rfl⟩ := List.append_singleton_inj.1 h₁
  obtain ⟨rfl, rfl⟩ := List.cons.inj h₂
  have hgrow : [sep].intercalate ((c :: q) :: after) = c :: [sep].intercalate (q :: after) :=
    intercalate_growFirst sep c (List.cons_ne_nil q after)
  refine ⟨_, [sep].intercalate (q :: after), ?_, hfront⟩
  rw [← hgrow, ← intercalate_segments sep cs, h, ← happend, intercalate_segments]

theorem takeWhile_ne_append {c : Char} {cs : List Char} (h : c ∉ cs) (rest : List Char) :
    (cs ++ c :: rest).takeWhile (· ≠ c) = cs := by
  rw [List.takeWhile_append_of_pos fun d hd => by simpa using ne_of_mem_of_not_mem hd h]
  simp

theorem dropWhile_ne_append {c : Char} {cs : List Char} (h : c ∉ cs) (rest : List Char) :
    (cs ++ c :: rest).dropWhile (· ≠ c) = c :: rest := by
  rw [List.dropWhile_append_of_pos fun d hd => by simpa using ne_of_mem_of_not_mem hd h]
  simp

/-- Texts that agree up to their first mark and behind it are cut alike. -/
theorem append_cons_inj {c : Char} {cs ds rest rest' : List Char} (hcs : c ∉ cs) (hds : c ∉ ds)
    (h : cs ++ c :: rest = ds ++ c :: rest') : cs = ds ∧ rest = rest' := by
  have htake := congrArg (List.takeWhile (· ≠ c)) h
  have hdrop := congrArg (List.dropWhile (· ≠ c)) h
  rw [takeWhile_ne_append hcs, takeWhile_ne_append hds] at htake
  rw [dropWhile_ne_append hcs, dropWhile_ne_append hds] at hdrop
  exact ⟨htake, (List.cons.inj hdrop).2⟩

/-! ## Plain texts -/

/-- Whether a character neither ends a line nor controls anything else. -/
def isPlainChar (c : Char) : Bool := !(isControl c || endsLine c)

/-- A text without control characters that stays on its line. -/
def IsPlain (s : String) : Prop := ∀ c ∈ s.toList, isPlainChar c

instance (s : String) : Decidable (IsPlain s) :=
  decidable_of_iff (s.toList.all isPlainChar) List.all_eq_true

theorem toNat_of_isAlphanum {c : Char} (h : c.isAlphanum) : 0x30 ≤ c.toNat ∧ c.toNat ≤ 0x7a := by
  have hrange (lo hi : Char) (h : lo.val ≤ c.val ∧ c.val ≤ hi.val) :
      lo.toNat ≤ c.toNat ∧ c.toNat ≤ hi.toNat :=
    h.imp UInt32.le_iff_toNat_le.1 UInt32.le_iff_toNat_le.1
  rcases Bool.or_eq_true_iff.1 h with h | h
  · rcases Bool.or_eq_true_iff.1 h with h | h
    · have := hrange 'A' 'Z' (of_decide_eq_true h)
      simp only [Char.reduceToNat] at this
      omega
    · have := hrange 'a' 'z' (by simpa using Bool.and_eq_true_iff.1 h)
      simp only [Char.reduceToNat] at this
      omega
  · have := hrange '0' '9' (by simpa using Bool.and_eq_true_iff.1 h)
    simp only [Char.reduceToNat] at this
    omega

theorem isPlainChar_of_isAlphanum {c : Char} (h : c.isAlphanum) : isPlainChar c := by
  have hrange := toNat_of_isAlphanum h
  have hcontrol : isControl c = false := by
    simp only [isControl, Bool.or_eq_false_iff, Bool.and_eq_false_iff, decide_eq_false_iff_not]
    omega
  have hends : endsLine c = false := by
    simp only [endsLine, Bool.or_eq_false_iff, decide_eq_false_iff_not]
    refine ⟨⟨⟨?_, ?_⟩, ?_⟩, ?_⟩
    all_goals
      rintro rfl
      revert hrange
      decide
  simp [isPlainChar, hcontrol, hends]

@[simp] theorem isPlain_append {s t : String} : IsPlain (s ++ t) ↔ IsPlain s ∧ IsPlain t := by
  simp only [IsPlain, String.toList_append, List.mem_append, or_imp, forall_and]

theorem IsPlain.intercalate {sep : String} {parts : List String} (hsep : IsPlain sep)
    (h : ∀ part ∈ parts, IsPlain part) : IsPlain (sep.intercalate parts) := by
  intro c hc
  rw [String.toList_intercalate] at hc
  rcases mem_of_mem_intercalate hc with hc | ⟨cs, hcs, hc⟩
  · exact hsep c hc
  · obtain ⟨part, hp, rfl⟩ := List.mem_map.1 hcs
    exact h part hp c hc

theorem IsPlain.notMem {s : String} (h : IsPlain s) {c : Char} (hc : isPlainChar c = false) :
    c ∉ s.toList := by
  intro hmem
  rw [h c hmem] at hc
  cases hc

theorem IsPlain.lineFeed_notMem {s : String} (h : IsPlain s) : '\n' ∉ s.toList :=
  h.notMem (by decide)

theorem IsPlain.count_eq_zero {s : String} (h : IsPlain s) {c : Char}
    (hc : isPlainChar c = false) : s.toList.count c = 0 :=
  List.count_eq_zero.2 (h.notMem hc)

/-! ## Lines -/

/-- The lines of a text: its parts between line feeds. -/
def rawLines (text : String) : List String := (segments '\n' text.toList).map String.ofList

/-- The lines behind the first line `first` and before the next line `last`. -/
def linesBetween (first last : String) (lines : List String) : List String :=
  ((lines.dropWhile (· ≠ first)).drop 1).takeWhile (· ≠ last)

/-- **Lines survive being put together.** -/
theorem rawLines_unlines_of_notMem {lines : List String} (hne : lines ≠ [])
    (h : ∀ l ∈ lines, '\n' ∉ l.toList) : rawLines (unlines lines) = lines := by
  rw [rawLines, unlines, String.toList_intercalate, show "\n".toList = ['\n'] from rfl,
    segments_intercalate (by simpa using hne) (List.forall_mem_map.2 h)]
  simp

theorem rawLines_unlines {lines : List String} (hne : lines ≠ []) (h : ∀ l ∈ lines, IsPlain l) :
    rawLines (unlines lines) = lines :=
  rawLines_unlines_of_notMem hne fun l hl => (h l hl).lineFeed_notMem

theorem lineFeed_notMem_of_mem_rawLines {text l : String} (h : l ∈ rawLines text) :
    '\n' ∉ l.toList := by
  obtain ⟨part, hpart, rfl⟩ := List.mem_map.1 h
  rw [String.toList_ofList]
  exact sep_notMem_of_mem_segments hpart

/-- A text is its lines put together. -/
theorem unlines_rawLines (text : String) : unlines (rawLines text) = text := by
  rw [← String.toList_inj, unlines, String.toList_intercalate, rawLines, List.map_map,
    show String.toList ∘ String.ofList = id from funext fun _ => String.toList_ofList, List.map_id]
  exact intercalate_segments '\n' text.toList

/-- The line feeds between plain lines are the only characters that end a line
    and the only control characters. -/
theorem eq_lineFeed_of_mem_unlines {lines : List String} (h : ∀ l ∈ lines, IsPlain l) {c : Char}
    (hc : c ∈ (unlines lines).toList) (hplain : isControl c ∨ endsLine c) : c = '\n' := by
  rw [unlines, String.toList_intercalate] at hc
  rcases mem_of_mem_intercalate hc with hc | ⟨cs, hcs, hc⟩
  · simpa using hc
  · obtain ⟨l, hl, rfl⟩ := List.mem_map.1 hcs
    have hp := h l hl c hc
    rw [isPlainChar, Bool.or_eq_true_iff.2 hplain] at hp
    cases hp

theorem unlines_append {ls ms : List String} (hl : ls ≠ []) (hm : ms ≠ []) :
    unlines (ls ++ ms) = unlines ls ++ "\n" ++ unlines ms :=
  String.intercalate_append_of_ne_nil hl hm

/-- Lines before the last one are ended by a line feed. -/
theorem toList_unlines_concat (lines : List String) (last : String) :
    (unlines (lines ++ [last])).toList =
      lines.flatMap (fun l => l.toList ++ ['\n']) ++ last.toList := by
  induction lines with
  | nil => simp [unlines]
  | cons l lines ih =>
    rw [List.cons_append, ← List.singleton_append, unlines_append (by simp) (by simp),
      String.toList_append, ih]
    simp [unlines]

theorem count_unlines_concat (lines : List String) (c : Char) :
    (unlines (lines ++ [""])).toList.count c =
      (lines.flatMap String.toList).count c + if c = '\n' then lines.length else 0 := by
  rw [toList_unlines_concat]
  induction lines with
  | nil => simp
  | cons l lines ih =>
    simp only [List.flatMap_cons, List.count_append, List.append_assoc, List.length_cons] at ih ⊢
    by_cases h : c = '\n'
    · subst h
      simp only [if_true, List.count_singleton_self] at ih ⊢
      omega
    · have hne : ¬ '\n' = c := fun heq => h heq.symm
      simp only [if_neg h, List.count_singleton, beq_iff_eq, if_neg hne] at ih ⊢
      omega

/-- Blocks of lines put together are their lines put together. -/
theorem unlines_map_unlines {blocks : List (List String)} (h : ∀ b ∈ blocks, b ≠ []) :
    unlines (blocks.map unlines) = unlines blocks.flatten := by
  induction blocks with
  | nil => rfl
  | cons b blocks ih =>
    have hb := h b (by simp)
    have hbs := ih fun b' hb' => h b' (by simp [hb'])
    rcases blocks with _ | ⟨b', blocks⟩
    · simp [unlines]
    · have hne : (b' :: blocks).flatten ≠ [] := by simp [h b' (by simp)]
      rw [List.map_cons, ← List.singleton_append, unlines_append (by simp) (by simp), hbs,
        List.flatten_cons (l := b), unlines_append hb hne]
      simp [unlines]

/-- What stands between the first mark and the next is what was put there. -/
theorem linesBetween_append {first last : String} {before body behind : List String}
    (hbefore : first ∉ before) (hbody : last ∉ body) :
    linesBetween first last (before ++ [first] ++ body ++ [last] ++ behind) = body := by
  have hdrop : (before ++ [first] ++ body ++ [last] ++ behind).dropWhile (· ≠ first) =
      first :: (body ++ [last] ++ behind) := by
    rw [show before ++ [first] ++ body ++ [last] ++ behind =
      before ++ (first :: (body ++ [last] ++ behind)) by simp,
      List.dropWhile_append_of_pos fun l hl => by simpa using ne_of_mem_of_not_mem hl hbefore]
    simp
  rw [linesBetween, hdrop, List.drop_succ_cons, List.drop_zero, List.append_assoc,
    List.takeWhile_append_of_pos fun l hl => by simpa using ne_of_mem_of_not_mem hl hbody]
  simp

end SpriteScene
