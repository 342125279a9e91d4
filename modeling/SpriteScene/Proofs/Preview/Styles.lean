/-
  What a terminal shows.

  * `takeStyle?` takes a style sequence from the front of a text, and `cells` are the
    characters that are left when all such sequences are taken out, each with the styles
    that are on there;
  * `Shows`: what a text shows in front of any other.  One without escapes shows itself
    (`Shows.of_notMem`), and any text shows what it shows alone if a character follows
    that goes on with no sequence (`shows_concat`);
  * `TextStyle.cells_apply`: a styled text is shown in its style;
  * `unstyled` is a text without its style sequences, and `shownLines` are the lines that
    are shown; `rawLines_unstyled`: these are the same lines.
-/
import SpriteScene.Preview
import SpriteScene.Proofs.Text.Lines

namespace SpriteScene

/-! ## Style sequences -/

/-- Whether a character can stand among the parameters of a sequence. -/
def isParameter (c : Char) : Bool := '0' ≤ c && c ≤ '?'

/-- The parameters of the style sequence at the front of a text and the text behind it: a
    sequence is an escape and a bracket, parameters, and an `m`. -/
def takeStyle? : List Char → Option (String × List Char)
  | '\x1b' :: '[' :: cs =>
    match cs.dropWhile isParameter with
    | 'm' :: rest => some (String.ofList (cs.takeWhile isParameter), rest)
    | _ => none
  | _ => none

theorem length_lt_of_takeStyle? {cs rest : List Char} {parameters : String}
    (h : takeStyle? cs = some (parameters, rest)) : rest.length < cs.length := by
  unfold takeStyle? at h
  split at h
  · rename_i cs
    split at h
    · rename_i behind hbehind
      cases h
      have hle : (cs.dropWhile isParameter).length ≤ cs.length :=
        (List.dropWhile_suffix _).length_le
      rw [hbehind, List.length_cons] at hle
      rw [List.length_cons, List.length_cons]
      omega
    · cases h
  · cases h

theorem eq_of_takeStyle? {cs rest : List Char} {parameters : String}
    (h : takeStyle? cs = some (parameters, rest)) :
    cs = '\x1b' :: '[' :: (parameters.toList ++ 'm' :: rest) ∧
      ∀ c ∈ parameters.toList, isParameter c := by
  unfold takeStyle? at h
  split at h
  · rename_i cs
    split at h
    · rename_i behind hbehind
      cases h
      rw [String.toList_ofList]
      refine ⟨?_, List.all_eq_true.1 List.all_takeWhile⟩
      rw [← hbehind, List.takeWhile_append_dropWhile]
    · cases h
  · cases h

theorem takeStyle?_of_ne {c : Char} (hc : c ≠ '\x1b') (cs : List Char) :
    takeStyle? (c :: cs) = none := by
  rw [takeStyle?]
  rintro cs' ⟨⟩
  exact hc rfl

/-- Whether no style sequence begins or goes on with a character. -/
def breaksStyle (c : Char) : Bool := c ≠ '\x1b' && c ≠ '[' && c ≠ 'm' && !isParameter c

/-- A sequence in front of a character that breaks it ends before. -/
theorem takeStyle?_append {c : Char} (hc : breaksStyle c) (cs rest : List Char) :
    takeStyle? (cs ++ c :: rest) = (takeStyle? cs).map fun (parameters, behind) =>
      (parameters, behind ++ c :: rest) := by
  simp only [breaksStyle, Bool.and_eq_true, decide_eq_true_eq, Bool.not_eq_true'] at hc
  obtain ⟨⟨⟨hescape, hbracket⟩, hmark⟩, hparameter⟩ := hc
  match cs with
  | [] => exact takeStyle?_of_ne hescape rest
  | [d] => simp [takeStyle?, hbracket]
  | d :: e :: cs =>
    by_cases h : d = '\x1b' ∧ e = '['
    · obtain ⟨rfl, rfl⟩ := h
      simp only [List.cons_append, takeStyle?, List.dropWhile_append, List.takeWhile_append]
      cases hdrop : cs.dropWhile isParameter with
      | nil => simp [hparameter, hmark]
      | cons f behind =>
        have hlength : (cs.takeWhile isParameter).length ≠ cs.length := by
          intro heq
          have hall := (List.takeWhile_prefix isParameter).eq_of_length heq
          have happend := List.takeWhile_append_dropWhile (p := isParameter) (l := cs)
          rw [hall, hdrop] at happend
          simp at happend
        by_cases hf : f = 'm' <;> simp [hf, hlength]
    · have hnone (cs : List Char) : takeStyle? (d :: e :: cs) = none := by
        rw [takeStyle?]
        rintro cs' ⟨⟩
        exact h ⟨rfl, rfl⟩
      rw [List.cons_append, List.cons_append, hnone, hnone]
      rfl

/-- The styles that are on behind a sequence: none behind a reset. -/
def switchStyles (styles : List String) (parameters : String) : List String :=
  if parameters = "" ∨ parameters = "0" then [] else styles ++ [parameters]

/-! ## Cells -/

/-- A character that is shown, with the parameters of the styles that are on there. -/
structure Cell where
  styles : List String
  char : Char
deriving DecidableEq

/-- The characters of a text that are shown; some styles may be on before it. -/
def cells (styles : List String) (cs : List Char) : List Cell :=
  match _h : takeStyle? cs with
  | some (parameters, rest) => cells (switchStyles styles parameters) rest
  | none =>
    match cs with
    | [] => []
    | c :: cs => ⟨styles, c⟩ :: cells styles cs
termination_by cs.length
decreasing_by
  · exact length_lt_of_takeStyle? _h
  · exact Nat.lt_succ_self _

variable {styles : List String} {cs : List Char}

@[simp] theorem cells_nil (styles : List String) : cells styles [] = [] := by
  rw [cells]
  rfl

theorem cells_of_takeStyle?_eq_none {c : Char} {cs : List Char} (h : takeStyle? (c :: cs) = none) :
    cells styles (c :: cs) = ⟨styles, c⟩ :: cells styles cs := by
  rw [cells]
  split
  · rename_i h'
    rw [h] at h'
    cases h'
  · rfl

theorem cells_cons {c : Char} (hc : c ≠ '\x1b') (cs : List Char) :
    cells styles (c :: cs) = ⟨styles, c⟩ :: cells styles cs :=
  cells_of_takeStyle?_eq_none (takeStyle?_of_ne hc cs)

theorem cells_of_takeStyle? {rest : List Char} {parameters : String}
    (h : takeStyle? cs = some (parameters, rest)) :
    cells styles cs = cells (switchStyles styles parameters) rest := by
  rw [cells]
  split
  · rename_i h'
    rw [h] at h'
    cases h'
    rfl
  · rename_i h'
    rw [h] at h'
    cases h'

/-- A text without escapes is shown as it is. -/
theorem cells_plain (h : '\x1b' ∉ cs) (rest : List Char) :
    cells styles (cs ++ rest) = cs.map (Cell.mk styles) ++ cells styles rest := by
  induction cs with
  | nil => rfl
  | cons c cs ih =>
    rw [List.mem_cons, not_or] at h
    rw [List.cons_append, cells_cons (Ne.symm h.1), ih h.2, List.map_cons, List.cons_append]

/-! ## What is shown -/

/-- The characters of a text that are shown. -/
def shownChars (cs : List Char) : List Char := (cells [] cs).map (·.char)

/-- Styles that are on before a text do not change its characters. -/
theorem map_char_cells (styles : List String) (cs : List Char) :
    (cells styles cs).map (·.char) = shownChars cs := by
  suffices h : ∀ styles', (cells styles cs).map (·.char) = (cells styles' cs).map (·.char) from h []
  fun_induction cells styles cs with
  | case1 styles cs parameters rest h ih =>
    intro styles'
    rw [cells_of_takeStyle? h, ih]
  | case2 styles h =>
    intro styles'
    rw [cells_nil]
  | case3 styles c cs h ih =>
    intro styles'
    rw [cells_of_takeStyle?_eq_none h, List.map_cons, List.map_cons, ih styles']

theorem shownChars_of_takeStyle? {rest : List Char} {parameters : String}
    (h : takeStyle? cs = some (parameters, rest)) : shownChars cs = shownChars rest := by
  rw [shownChars, cells_of_takeStyle? h, map_char_cells]

/-- Going through a text, sequence by sequence and character by character. -/
@[elab_as_elim]
theorem shownChars_induction {motive : List Char → List Char → Prop} (nil : motive [] [])
    (sequence : ∀ parameters rest, (∀ c ∈ parameters, isParameter c) →
      motive rest (shownChars rest) →
      motive ('\x1b' :: '[' :: (parameters ++ 'm' :: rest)) (shownChars rest))
    (char : ∀ c cs, motive cs (shownChars cs) → motive (c :: cs) (c :: shownChars cs))
    (cs : List Char) : motive cs (shownChars cs) := by
  suffices h : ∀ styles, motive cs ((cells styles cs).map (·.char)) from h []
  intro styles
  fun_induction cells styles cs with
  | case1 styles cs parameters rest h ih =>
    obtain ⟨hcs, hparameters⟩ := eq_of_takeStyle? h
    rw [map_char_cells] at ih ⊢
    rw [hcs]
    exact sequence _ _ hparameters ih
  | case2 styles h => exact nil
  | case3 styles c cs h ih =>
    rw [map_char_cells] at ih
    rw [List.map_cons, map_char_cells]
    exact char c cs ih

/-- No line ends inside a sequence. -/
theorem count_lineFeed_shownChars (cs : List Char) :
    (shownChars cs).count '\n' = cs.count '\n' := by
  induction cs using shownChars_induction with
  | nil => rfl
  | sequence parameters rest hparameters ih =>
    have hcount : parameters.count '\n' = 0 :=
      List.count_eq_zero.2 fun hmem => absurd (hparameters _ hmem) (by decide)
    simp [hcount, ih]
  | char c cs ih => rw [List.count_cons, List.count_cons, ih]

/-- What is not shown as it is has an escape that is not shown. -/
theorem shownChars_eq_or_count_lt (cs : List Char) :
    shownChars cs = cs ∨ (shownChars cs).count '\x1b' < cs.count '\x1b' := by
  induction cs using shownChars_induction with
  | nil => exact Or.inl rfl
  | sequence parameters rest hparameters ih =>
    have hle : (shownChars rest).count '\x1b' ≤ rest.count '\x1b' := by
      rcases ih with heq | hlt
      · exact Nat.le_of_eq (congrArg (List.count '\x1b') heq)
      · exact Nat.le_of_lt hlt
    right
    rw [List.count_cons_self, List.count_cons_of_ne (by decide), List.count_append,
      List.count_cons_of_ne (by decide)]
    omega
  | char c cs ih =>
    refine ih.imp (congrArg (c :: ·)) fun hlt => ?_
    rw [List.count_cons, List.count_cons]
    exact Nat.add_lt_add_right hlt _

/-- Whether a text shows some characters in front of any text, whatever styles are on.  If
    these are all its characters, it leaves the styles as they are. -/
structure Shows (cs shown : List Char) : Prop where
  sublist : shown.Sublist cs
  shownChars_append : ∀ rest, shownChars (cs ++ rest) = shown ++ shownChars rest
  cells_append : shown = cs → ∀ styles rest,
    cells styles (cs ++ rest) = cs.map (Cell.mk styles) ++ cells styles rest

namespace Shows

theorem of_notMem (h : '\x1b' ∉ cs) : Shows cs cs := by
  refine ⟨List.Sublist.refl cs, fun rest => ?_, fun _ styles rest => cells_plain h rest⟩
  rw [shownChars, cells_plain h, List.map_append, List.map_map]
  exact congrArg (· ++ _) (List.map_id cs)

theorem of_isPlain {text : String} (h : IsPlain text) : Shows text.toList text.toList :=
  of_notMem (h.notMem (by decide))

theorem append {shown cs' shown' : List Char} (h : Shows cs shown) (h' : Shows cs' shown') :
    Shows (cs ++ cs') (shown ++ shown') := by
  refine ⟨h.sublist.append h'.sublist, fun rest => ?_, fun heq styles rest => ?_⟩
  · rw [List.append_assoc, h.shownChars_append, h'.shownChars_append, List.append_assoc]
  · have hle := h.sublist.length_le
    have hle' := h'.sublist.length_le
    have hlength := congrArg List.length heq
    rw [List.length_append, List.length_append] at hlength
    obtain ⟨hshown, hshown'⟩ := List.append_inj heq (by omega)
    rw [List.append_assoc, h.cells_append hshown, h'.cells_append hshown', List.map_append,
      List.append_assoc]

end Shows

/-- **Any text shows what it shows alone**, once a character follows that breaks a sequence
    at its end. -/
theorem shows_concat {c : Char} (hc : breaksStyle c) (cs : List Char) :
    Shows (cs ++ [c]) (shownChars cs ++ [c]) := by
  have hescape : c ≠ '\x1b' := by
    rintro rfl
    exact absurd hc (by decide)
  suffices h : ∀ styles, Shows (cs ++ [c]) ((cells styles cs).map (·.char) ++ [c]) from h []
  intro styles
  fun_induction cells styles cs with
  | case1 styles cs parameters behind h ih =>
    have hbehind : behind <:+ cs := by
      refine ⟨'\x1b' :: '[' :: (parameters.toList ++ ['m']), ?_⟩
      rw [(eq_of_takeStyle? h).1]
      simp
    refine ⟨ih.sublist.trans (hbehind.sublist.append_right [c]), fun rest => ?_, fun heq => ?_⟩
    · have happend := takeStyle?_append hc cs rest
      rw [h, Option.map_some] at happend
      rw [List.append_assoc, List.singleton_append, shownChars_of_takeStyle? happend,
        ← ih.shownChars_append, List.append_assoc, List.singleton_append]
    · -- the sequence is hidden, so not all characters are shown
      have hlt := length_lt_of_takeStyle? h
      have hle := ih.sublist.length_le
      have hlength := congrArg List.length heq
      simp only [List.length_append] at hlength hle
      omega
  | case2 styles h => exact Shows.of_notMem (by simpa using hescape.symm)
  | case3 styles d cs h ih =>
    have hcells (styles : List String) (rest : List Char) : cells styles (d :: cs ++ [c] ++ rest) =
        ⟨styles, d⟩ :: cells styles (cs ++ [c] ++ rest) := by
      have happend := takeStyle?_append hc (d :: cs) rest
      rw [h, Option.map_none] at happend
      simp only [List.cons_append, List.append_assoc, List.nil_append] at happend ⊢
      exact cells_of_takeStyle?_eq_none happend
    refine ⟨ih.sublist.cons_cons d, fun rest => ?_, fun heq styles rest => ?_⟩
    · rw [shownChars, hcells, List.map_cons, map_char_cells, ih.shownChars_append]
      rfl
    · rw [hcells, ih.cells_append (List.cons.inj heq).2]
      rfl

/-! ## Styled texts -/

/-- The parameters of the sequence that switches a style on. -/
def TextStyle.parameters : TextStyle → String
  | bold => "1"
  | dim => "2"
  | highlight => "48;5;12"
  | accent => "38;5;14"

theorem TextStyle.takeStyle?_code (style : TextStyle) (rest : List Char) :
    takeStyle? (style.code.toList ++ rest) = some (style.parameters, rest) := by
  cases style <;> rfl

theorem takeStyle?_resetCode (rest : List Char) :
    takeStyle? (resetCode.toList ++ rest) = some ("0", rest) := rfl

theorem shownChars_code (style : TextStyle) (rest : List Char) :
    shownChars (style.code.toList ++ rest) = shownChars rest :=
  shownChars_of_takeStyle? (style.takeStyle?_code rest)

theorem shownChars_resetCode (rest : List Char) :
    shownChars (resetCode.toList ++ rest) = shownChars rest :=
  shownChars_of_takeStyle? (takeStyle?_resetCode rest)

theorem TextStyle.lineFeed_notMem_apply (style : TextStyle) {s : String}
    (h : '\n' ∉ s.toList) : '\n' ∉ (style.apply s).toList := by
  rw [apply, String.toList_append, String.toList_append, List.mem_append, List.mem_append,
    not_or, not_or]
  exact ⟨⟨by cases style <;> decide, h⟩, by decide⟩

/-- A style hides nothing. -/
theorem Shows.shownChars_apply {s : String} {shown : List Char} (h : Shows s.toList shown)
    (style : TextStyle) (rest : List Char) :
    shownChars ((style.apply s).toList ++ rest) = shown ++ shownChars rest := by
  rw [TextStyle.apply, String.toList_append, String.toList_append, List.append_assoc,
    List.append_assoc, shownChars_code, h.shownChars_append, shownChars_resetCode]

/-- A styled text is shown in its style, and what follows it in none. -/
theorem Shows.cells_apply {s : String} (h : Shows s.toList s.toList) (style : TextStyle)
    (rest : List Char) : cells [] ((style.apply s).toList ++ rest) =
      s.toList.map (Cell.mk [style.parameters]) ++ cells [] rest := by
  have hon : switchStyles [] style.parameters = [style.parameters] := by cases style <;> rfl
  have hoff : switchStyles [style.parameters] "0" = [] := rfl
  rw [TextStyle.apply, String.toList_append, String.toList_append, List.append_assoc,
    List.append_assoc, cells_of_takeStyle? (style.takeStyle?_code _), hon, h.cells_append rfl,
    cells_of_takeStyle? (takeStyle?_resetCode rest), hoff]

theorem TextStyle.cells_apply (style : TextStyle) {s : String} (h : '\x1b' ∉ s.toList)
    (rest : List Char) : cells [] ((style.apply s).toList ++ rest) =
      s.toList.map (Cell.mk [style.parameters]) ++ cells [] rest :=
  (Shows.of_notMem h).cells_apply style rest

/-! ## Texts and lines without styles -/

/-- A text without its style sequences. -/
def unstyled (text : String) : String := String.ofList ((cells [] text.toList).map (·.char))

theorem toList_unstyled (text : String) : (unstyled text).toList = shownChars text.toList := by
  rw [unstyled, String.toList_ofList, shownChars]

theorem IsPlain.unstyled_eq {text : String} (h : IsPlain text) : unstyled text = text := by
  have hshown := (Shows.of_isPlain h).shownChars_append []
  rw [List.append_nil] at hshown
  rw [← String.toList_inj, toList_unstyled, hshown, shownChars, cells_nil, List.map_nil,
    List.append_nil]

theorem count_lineFeed_map_unstyled (texts : List String) :
    ((texts.map unstyled).flatMap String.toList).count '\n' =
      (texts.flatMap String.toList).count '\n' := by
  induction texts with
  | nil => rfl
  | cons t texts ih =>
    rw [List.map_cons, List.flatMap_cons, List.flatMap_cons, List.count_append, List.count_append,
      toList_unstyled, count_lineFeed_shownChars, ih]

/-- Of texts that are not all shown as they are an escape is not shown. -/
theorem unstyled_eq_or_count_lt (texts : List String) : (∀ t ∈ texts, unstyled t = t) ∨
    ((texts.map unstyled).flatMap String.toList).count '\x1b' <
      (texts.flatMap String.toList).count '\x1b' := by
  induction texts with
  | nil => exact Or.inl (List.forall_mem_nil _)
  | cons t texts ih =>
    have ht : unstyled t = t ∨ (unstyled t).toList.count '\x1b' < t.toList.count '\x1b' := by
      rw [← String.toList_inj, toList_unstyled]
      exact shownChars_eq_or_count_lt t.toList
    rw [List.map_cons, List.flatMap_cons, List.flatMap_cons, List.count_append, List.count_append,
      List.forall_mem_cons]
    rcases ht with heq | hlt <;> rcases ih with hall | hlt'
    · exact Or.inl ⟨heq, hall⟩
    · right
      rw [heq]
      omega
    · right
      rw [List.map_congr_left hall, List.map_id']
      omega
    · right
      omega

/-- The lines of a text as they are shown. -/
def shownLines (text : String) : List (List Cell) :=
  (cells [] text.toList).splitOnP (·.char = '\n')

/-- The places of the lines of a text that are shown with a highlight. -/
def highlightedLines (text : String) : List Nat :=
  (shownLines text).findIdxs fun line =>
    line.any fun cell => TextStyle.highlight.parameters ∈ cell.styles

theorem splitOnP_map {f : α → β} (p : β → Bool) (as : List α) :
    (as.map f).splitOnP p = (as.splitOnP fun a => p (f a)).map (List.map f) := by
  induction as with
  | nil => simp [List.splitOnP_nil]
  | cons a as ih =>
    rw [List.map_cons, List.splitOnP_cons_eq_if_modifyHead, List.splitOnP_cons_eq_if_modifyHead, ih]
    obtain ⟨first, rest, hs⟩ :=
      List.exists_cons_of_ne_nil (List.splitOnP_ne_nil (fun a => p (f a)) as)
    split <;> simp [hs]

/-- Without its styles a text has the lines that are shown. -/
theorem rawLines_unstyled (text : String) : rawLines (unstyled text) =
    (shownLines text).map fun line => String.ofList (line.map (·.char)) := by
  rw [rawLines, unstyled, String.toList_ofList, segments_eq_splitOn, List.splitOn_eq_splitOnP,
    splitOnP_map, List.map_map]
  rfl

end SpriteScene
