/-
  Texts in segments.

  `segments sep cs` are the parts of a text between the occurrences of a
  character; there is always at least one.  None of them holds the character,
  and joined by it they are the text again.  `unlines` puts a line feed between
  parts.
-/

namespace SpriteScene

/-- Puts a character in front of the first part. -/
def growFirst (c : Char) : List (List Char) → List (List Char)
  | [] => [[c]]
  | part :: parts => (c :: part) :: parts

/-- The parts of a text between the occurrences of `sep`. -/
def segments (sep : Char) (cs : List Char) : List (List Char) :=
  cs.foldr (fun c parts => if c = sep then [] :: parts else growFirst c parts) [[]]

@[simp] theorem segments_nil (sep : Char) : segments sep [] = [[]] := rfl

theorem segments_cons (sep c : Char) (cs : List Char) :
    segments sep (c :: cs) =
      if c = sep then [] :: segments sep cs else growFirst c (segments sep cs) := rfl

theorem segments_ne_nil (sep : Char) (cs : List Char) : segments sep cs ≠ [] := by
  cases cs with
  | nil => simp
  | cons c cs =>
    rw [segments_cons]
    split
    · simp
    · unfold growFirst
      split <;> simp

theorem intercalate_growFirst (sep c : Char) {parts : List (List Char)} (h : parts ≠ []) :
    [sep].intercalate (growFirst c parts) = c :: [sep].intercalate parts := by
  match parts with
  | [part] => simp [growFirst, List.intercalate]
  | part :: next :: parts => simp [growFirst, List.intercalate]

/-- Nothing is lost between the parts but the separators. -/
theorem intercalate_segments (sep : Char) (cs : List Char) :
    [sep].intercalate (segments sep cs) = cs := by
  induction cs with
  | nil => rfl
  | cons c cs ih =>
    rw [segments_cons]
    split
    · rename_i h
      obtain ⟨part, parts, hs⟩ := List.exists_cons_of_ne_nil (segments_ne_nil sep cs)
      rw [hs] at ih ⊢
      simp only [List.intercalate, List.intersperse_cons_cons, List.flatten_cons, List.nil_append,
        List.cons_append, h] at ih ⊢
      rw [ih]
    · rw [intercalate_growFirst sep c (segments_ne_nil sep cs), ih]

/-- No part holds the separator. -/
theorem sep_notMem_of_mem_segments {sep : Char} {cs part : List Char} (h : part ∈ segments sep cs) :
    sep ∉ part := by
  induction cs generalizing part with
  | nil => simp_all
  | cons c cs ih =>
    rw [segments_cons] at h
    split at h
    · rcases List.mem_cons.1 h with rfl | h
      · simp
      · exact ih h
    · rename_i hc
      obtain ⟨first, parts, hs⟩ := List.exists_cons_of_ne_nil (segments_ne_nil sep cs)
      rw [hs] at h ih
      rcases List.mem_cons.1 h with rfl | h
      · have := ih (List.mem_cons_self)
        simp_all [eq_comm]
      · exact ih (List.mem_cons_of_mem _ h)

/-- Lines with a line feed between them. -/
def unlines (lines : List String) : String := "\n".intercalate lines

end SpriteScene
