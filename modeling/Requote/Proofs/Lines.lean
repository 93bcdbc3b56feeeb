import Mathlib
import Requote.Position

/-!
# Lines of a text

The lines of a text are the pieces between its line feeds, so there is one more of them than there
are line feeds, and each piece stands in the text where its line starts. A line and a column
therefore name a place between two characters.
-/

namespace Requote.Text

variable {t before after : Text} {start offset line column : Nat} {pieces : List Text} {l : Line}

/-! ### Places between two characters -/

lemma isBoundary_append (before after : Text) :
    (before ++ after).isBoundary before.size = true := by
  simp [isBoundary, cut?_append]

lemma exists_append_of_isBoundary (h : t.isBoundary offset = true) :
    ∃ before after, t = before ++ after ∧ before.size = offset := by
  obtain ⟨⟨before, after⟩, hcut⟩ := Option.isSome_iff_exists.mp h
  obtain ⟨heq, hsize⟩ := append_eq_of_cut? hcut
  exact ⟨before, after, heq.symm, hsize⟩

lemma le_size_of_isBoundary (h : t.isBoundary offset = true) : offset ≤ t.size := by
  obtain ⟨before, after, rfl, rfl⟩ := exists_append_of_isBoundary h
  rw [size_append]
  omega

@[simp]
lemma offset_position (t : Text) (offset : Nat) : (t.position offset).offset = offset := by
  rw [position, Position.ofLines]
  split <;> rfl

lemma position?_of_isBoundary (h : t.isBoundary offset = true) :
    t.position? offset = .ok (t.position offset) := by
  have hle := le_size_of_isBoundary h
  rw [position?, if_neg (by omega), if_pos h]

/-! ### The pieces between the line feeds -/

lemma splitLines_ne_nil (t : Text) : splitLines t ≠ [] := by
  fun_cases splitLines t <;> simp

/-- The pieces with the line feeds between them are the text. -/
lemma intercalate_splitLines (t : Text) : List.intercalate ['\n'] (splitLines t) = t := by
  fun_induction splitLines t with
  | case1 => rfl
  | case2 t ih =>
    obtain ⟨p, ps, hp⟩ := List.exists_cons_of_ne_nil (splitLines_ne_nil t)
    rw [hp] at ih ⊢
    simp [List.intercalate_cons_cons, ih]
  | case3 c t _ h => exact absurd h (splitLines_ne_nil t)
  | case4 c t _ p ps hp ih =>
    rw [hp] at ih
    cases ps <;> simp_all [List.intercalate_cons_cons]

lemma length_splitLines (t : Text) : (splitLines t).length = t.count '\n' + 1 := by
  fun_induction splitLines t with
  | case1 => rfl
  | case2 t ih => simp [ih]
  | case3 c t _ h => exact absurd h (splitLines_ne_nil t)
  | case4 c t hc p ps hp ih =>
    rw [hp] at ih
    simpa [hc] using ih

lemma length_linesFrom (start : Nat) (pieces : List Text) :
    (linesFrom start pieces).length = pieces.length := by
  fun_induction linesFrom start pieces <;> simp_all

/-- There is one line more than there are line feeds. -/
lemma length_lines (t : Text) : t.lines.length = t.count '\n' + 1 := by
  rw [lines, length_linesFrom, length_splitLines]

lemma dropReturn_prefix (t : Text) : dropReturn t <+: t := by
  rw [dropReturn]
  split
  · exact List.dropLast_prefix t
  · exact List.prefix_rfl

/-- Every line is a stretch of the text, at the offset where it starts. -/
lemma exists_append_of_mem_linesFrom (h : l ∈ linesFrom start pieces) :
    ∃ before after : Text, List.intercalate ['\n'] pieces = before ++ (l.text ++ after) ∧
      l.start = start + before.size := by
  fun_induction linesFrom start pieces with
  | case1 => simp at h
  | case2 start p =>
    obtain rfl := List.mem_singleton.mp h
    exact ⟨[], [], by simp, by simp⟩
  | case3 start p ps hps ih =>
    obtain ⟨p', ps, rfl⟩ := List.exists_cons_of_ne_nil (by simpa using hps)
    rw [List.intercalate_cons_cons]
    rcases List.mem_cons.mp h with rfl | h
    · obtain ⟨rest, hrest⟩ := dropReturn_prefix p
      refine ⟨[], rest ++ '\n' :: List.intercalate ['\n'] (p' :: ps), ?_, by simp⟩
      rw [List.nil_append, ← List.append_assoc, hrest]
      simp
    · obtain ⟨before, after, heq, hstart⟩ := ih h
      refine ⟨p ++ '\n' :: before, after, by simp [heq], ?_⟩
      have hfeed : '\n'.utf8Size = 1 := by decide
      rw [hstart, size_append, size_cons, hfeed]
      omega

lemma exists_append_of_mem_lines (h : l ∈ t.lines) :
    ∃ before after, t = before ++ (l.text ++ after) ∧ l.start = before.size := by
  obtain ⟨before, after, heq, hstart⟩ := exists_append_of_mem_linesFrom h
  rw [intercalate_splitLines] at heq
  exact ⟨before, after, heq, by simpa using hstart⟩

/-! ### From a line and a column to a place -/

lemma offset?_eq_none_iff :
    t.offset? line column = none ↔ line = 0 ∨ column = 0 ∨ t.count '\n' + 1 < line := by
  by_cases hcolumn : column = 0
  · simp [offset?, hcolumn]
  · by_cases hline : line = 0
    · simp [offset?, line?, hcolumn, hline]
    · simp only [offset?, line?, hcolumn, hline, if_false, Option.map_eq_none_iff, false_or,
        List.getElem?_eq_none_iff, length_lines]
      omega

lemma isBoundary_of_offset? (h : t.offset? line column = some offset) :
    t.isBoundary offset = true := by
  simp only [offset?] at h
  split at h
  · simp at h
  · obtain ⟨l, hl, rfl⟩ := Option.map_eq_some_iff.mp h
    simp only [line?] at hl
    split at hl
    · simp at hl
    · obtain ⟨before, after, rfl, hstart⟩ := exists_append_of_mem_lines (List.mem_of_getElem? hl)
      have hsplit : before ++ (l.text ++ after) = before ++ l.text.take (column - 1)
          ++ (l.text.drop (column - 1) ++ after) := by
        rw [List.append_assoc, ← List.append_assoc (l.text.take _), List.take_append_drop]
      rw [hstart, ← size_append, hsplit]
      exact isBoundary_append _ _

end Requote.Text
