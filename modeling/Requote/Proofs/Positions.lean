import Requote.Proofs.Lines
import Requote.Proofs.Splicing

/-!
# Positions of a text

The lines of a text start at increasing offsets, so the line of a place is the last one that does
not start behind it, and it is found by counting the line feeds in front of the place. The column
counts the characters from there on, up to the end of the line. Line and column lead back to the
place, or to the end of the line if the place lies in what ends the line.
-/

namespace Requote

/-- The offset where a line ends, in front of its terminator. -/
def Line.stop (l : Line) : Nat :=
  l.start + l.text.size

namespace Text

variable {t before after s w : Text} {start offset line column i m n : Nat}
  {pieces : List Text} {l : Line}

/-! ### Characters in the first bytes -/

lemma charsWithin_zero (t : Text) : charsWithin t 0 = 0 := by
  cases t <;> rfl

lemma charsWithin_cons {c : Char} (h : c.utf8Size ≤ n) :
    charsWithin (c :: t) n = charsWithin t (n - c.utf8Size) + 1 := by
  have hpos := c.utf8Size_pos
  obtain ⟨k, rfl⟩ : ∃ k, n = k + 1 := ⟨n - 1, by omega⟩
  rfl

lemma charsWithin_append (s t : Text) : charsWithin (s ++ t) (size s) = s.length := by
  induction s with
  | nil => exact charsWithin_zero t
  | cons c s ih =>
    have hsub : c.utf8Size + size s - c.utf8Size = size s := by omega
    rw [List.cons_append, size_cons, charsWithin_cons (Nat.le_add_right _ _), hsub, ih,
      List.length_cons]

lemma charsWithin_of_size_le (h : size t ≤ n) : charsWithin t n = t.length := by
  induction t generalizing n with
  | nil => cases n <;> rfl
  | cons c t ih =>
    rw [size_cons] at h
    rw [charsWithin_cons (by omega), ih (by omega), List.length_cons]

lemma charsWithin_mono (t : Text) (h : m ≤ n) : charsWithin t m ≤ charsWithin t n := by
  induction t generalizing m n with
  | nil => cases m <;> cases n <;> rfl
  | cons c t ih =>
    cases m with
    | zero =>
      rw [charsWithin_zero]
      exact Nat.zero_le _
    | succ m =>
      obtain ⟨k, rfl⟩ : ∃ k, n = k + 1 := ⟨n - 1, by omega⟩
      exact Nat.succ_le_succ (ih (by omega))

/-- Of two texts that start alike, the shorter one is what both have in common. -/
lemma exists_inside (hs : s <+: w) (ht : t <+: w) :
    ∃ inside, inside <+: s ∧ inside <+: t ∧ size inside = min (size s) (size t) ∧
      charsWithin t (size s) = inside.length := by
  rcases List.prefix_or_prefix_of_prefix hs ht with h | h
  · obtain ⟨rest, rfl⟩ := h
    refine ⟨s, List.prefix_rfl, List.prefix_append s rest, ?_, charsWithin_append s rest⟩
    rw [size_append]
    omega
  · obtain ⟨rest, rfl⟩ := h
    have hle : size t ≤ size (t ++ rest) := by
      rw [size_append]
      omega
    exact ⟨t, List.prefix_append t rest, List.prefix_rfl, by omega, charsWithin_of_size_le hle⟩

/-! ### Lines in order -/

lemma start_le_of_mem_linesFrom (h : l ∈ linesFrom start pieces) : start ≤ l.start := by
  fun_induction linesFrom start pieces with
  | case1 => simp at h
  | case2 start p =>
    obtain rfl := List.mem_singleton.mp h
    exact Nat.le_refl _
  | case3 start p ps _ ih =>
    rcases List.mem_cons.mp h with rfl | h
    · exact Nat.le_refl _
    · have := ih h
      omega

/-- A line ends in front of the next one. So the lines that start in front of a place come first. -/
lemma pairwise_linesFrom (start : Nat) (pieces : List Text) :
    (linesFrom start pieces).Pairwise fun a b => a.stop < b.start := by
  fun_induction linesFrom start pieces with
  | case1 => exact .nil
  | case2 start p => exact List.pairwise_singleton _ _
  | case3 start p ps _ ih =>
    refine List.pairwise_cons.mpr ⟨fun b hb => ?_, ih⟩
    have hle := start_le_of_mem_linesFrom hb
    obtain ⟨rest, hrest⟩ := dropReturn_prefix p
    have hsize : size (dropReturn p) + size rest = size p := by
      rw [← size_append, hrest]
    simp only [Line.stop]
    omega

lemma pairwise_lines (t : Text) : t.lines.Pairwise fun a b => a.stop < b.start :=
  pairwise_linesFrom 0 (splitLines t)

lemma stop_lt_start_of_lines {next : Line} {j : Nat} (h : t.lines[i]? = some l)
    (hnext : t.lines[j]? = some next) (hlt : i < j) : l.stop < next.start := by
  obtain ⟨hi, rfl⟩ := List.getElem?_eq_some_iff.mp h
  obtain ⟨hj, rfl⟩ := List.getElem?_eq_some_iff.mp hnext
  exact List.pairwise_iff_getElem.mp (pairwise_lines t) i j hi hj hlt

/-- The line of a place is the last one that does not start behind it. -/
lemma position_of_getElem? (h : t.lines[i]? = some l) (hstart : l.start ≤ offset)
    (hnext : ∀ next, t.lines[i + 1]? = some next → offset < next.start) :
    t.position offset = ⟨offset, i + 1, charsWithin l.text (offset - l.start) + 1⟩ := by
  obtain ⟨hi, rfl⟩ := List.getElem?_eq_some_iff.mp h
  have hfront : ∀ a ∈ t.lines.take (i + 1), decide (a.start ≤ offset) = true := by
    intro a ha
    rw [decide_eq_true_eq]
    obtain ⟨j, hj, rfl⟩ := List.mem_take_iff_getElem.mp ha
    rcases Nat.lt_or_eq_of_le (Nat.le_of_lt_succ (Nat.lt_of_lt_of_le hj (Nat.min_le_left _ _)))
      with hlt | rfl
    · have hstop := stop_lt_start_of_lines (List.getElem?_eq_getElem (by omega)) h hlt
      rw [Line.stop] at hstop
      omega
    · exact hstart
  have hback : (t.lines.drop (i + 1)).takeWhile (fun a => decide (a.start ≤ offset)) = [] := by
    rw [← List.head?_drop] at hnext
    match hdrop : t.lines.drop (i + 1) with
    | [] => rfl
    | next :: rest =>
      have hlt := hnext next (by rw [hdrop, List.head?_cons])
      rw [List.takeWhile_cons_of_neg (by simpa using hlt)]
  have hwhile : t.lines.takeWhile (fun a => decide (a.start ≤ offset)) = t.lines.take (i + 1) := by
    conv_lhs => rw [← List.take_append_drop (i + 1) t.lines]
    rw [List.takeWhile_append_of_pos hfront, hback, List.append_nil]
  have hlast : (t.lines.take (i + 1)).getLast? = some t.lines[i] := by
    rw [List.take_add_one, h, Option.toList_some, List.getLast?_concat]
  rw [position, Position.ofLines, hwhile]
  simp only [hlast, List.length_take, Nat.min_eq_left hi]

/-! ### The line around a place -/

/-- Induction along the lines of a text. -/
@[elab_as_elim]
lemma line_induction {P : Text → Prop} (t : Text) (last : ∀ l, '\n' ∉ l → P l)
    (feed : ∀ l t, '\n' ∉ l → P t → P (l ++ '\n' :: t)) : P t := by
  by_cases h : '\n' ∈ t
  · obtain ⟨l, rest, heq, hl⟩ := List.eq_append_cons_of_mem h
    have hlt : rest.length < t.length := by
      rw [heq, List.length_append, List.length_cons]
      omega
    rw [heq]
    exact feed l rest hl (line_induction rest last feed)
  · exact last t h
termination_by t.length

lemma splitLines_of_not_mem (h : '\n' ∉ t) : splitLines t = [t] := by
  induction t with
  | nil => rfl
  | cons c t ih =>
    obtain ⟨hc, ht⟩ := not_or.mp (mt List.mem_cons.mpr h)
    rw [splitLines, if_neg (Ne.symm hc), ih ht]

lemma splitLines_feed (h : '\n' ∉ s) (t : Text) :
    splitLines (s ++ '\n' :: t) = s :: splitLines t := by
  induction s with
  | nil => simp [splitLines]
  | cons c s ih =>
    obtain ⟨hc, hs⟩ := not_or.mp (mt List.mem_cons.mpr h)
    rw [List.cons_append, splitLines, if_neg (Ne.symm hc), ih hs]

lemma linesFrom_cons (start : Nat) (p : Text) {ps : List Text} (h : ps ≠ []) :
    linesFrom start (p :: ps) = ⟨start, dropReturn p⟩ :: linesFrom (start + size p + 1) ps := by
  rw [linesFrom]
  exact h

/-- The line around a place, given what stands in front of the place and what follows. It reaches
from the last line feed in front to the next one, and a carriage return right before that one is
left out. -/
def lineAround (before after : Text) : Line :=
  let piece := before.rtakeWhile (· != '\n') ++ after.takeWhile (· != '\n')
  ⟨size (before.rdropWhile (· != '\n')), if '\n' ∈ after then dropReturn piece else piece⟩

lemma prefix_lineAround (before after : Text) :
    (lineAround before after).text
      <+: before.rtakeWhile (· != '\n') ++ after.takeWhile (· != '\n') := by
  rw [lineAround]
  split
  · exact dropReturn_prefix _
  · exact List.prefix_rfl

lemma bne_feed_of_mem (h : '\n' ∉ t) : ∀ c ∈ t, (c != '\n') = true := by
  intro c hc
  rw [bne_iff_ne]
  rintro rfl
  exact h hc

lemma lineAround_of_not_mem (h : '\n' ∉ before) (after : Text) :
    lineAround before after = ⟨0,
      if '\n' ∈ after then dropReturn (before ++ after.takeWhile (· != '\n'))
      else before ++ after.takeWhile (· != '\n')⟩ := by
  have hall := bne_feed_of_mem h
  rw [lineAround, List.rtakeWhile_eq_self_iff.mpr hall, List.rdropWhile_eq_nil_iff.mpr hall]
  rfl

/-- Lines further up only move the line. -/
lemma lineAround_feed (s before after : Text) :
    lineAround (s ++ '\n' :: before) after
      = ⟨size s + 1 + (lineAround before after).start, (lineAround before after).text⟩ := by
  have hdrop : (s ++ '\n' :: before).rdropWhile (· != '\n')
      = s ++ '\n' :: before.rdropWhile (· != '\n') := by
    simp only [List.rdropWhile, List.reverse_append, List.reverse_cons, List.append_assoc,
      List.singleton_append, List.dropWhile_append]
    split <;> simp_all
  have htake : (s ++ '\n' :: before).rtakeWhile (· != '\n') = before.rtakeWhile (· != '\n') := by
    have hsplit := List.rdropWhile_append_rtakeWhile (p := (· != '\n')) (l := s ++ '\n' :: before)
    have hbefore := List.rdropWhile_append_rtakeWhile (p := (· != '\n')) (l := before)
    rw [hdrop, List.append_assoc, List.cons_append, List.append_cancel_left_eq,
      List.cons.injEq] at hsplit
    exact List.append_cancel_left (hsplit.2.trans hbefore.symm)
  have hfeed : '\n'.utf8Size = 1 := by decide
  simp only [lineAround, hdrop, htake, size_append, size_cons, hfeed, Nat.add_assoc]

/-- The line around a place stands behind as many lines as there are line feeds in front of the
place, and the next line starts behind the place. -/
lemma getElem?_linesFrom (before after : Text) (start : Nat) :
    (linesFrom start (splitLines (before ++ after)))[before.count '\n']?
        = some ⟨start + (lineAround before after).start, (lineAround before after).text⟩ ∧
      ∀ next, (linesFrom start (splitLines (before ++ after)))[before.count '\n' + 1]? = some next →
        start + size before < next.start := by
  induction before using line_induction generalizing start with
  | last before h =>
    rw [List.count_eq_zero.mpr h, lineAround_of_not_mem h]
    by_cases hafter : '\n' ∈ after
    · obtain ⟨p, rest, rfl, hp⟩ := List.eq_append_cons_of_mem hafter
      have htake : (p ++ '\n' :: rest).takeWhile (· != '\n') = p := by
        rw [List.takeWhile_append_of_pos (bne_feed_of_mem hp), List.takeWhile_cons_of_neg (by simp),
          List.append_nil]
      have hfeed : '\n' ∉ before ++ p := by
        rw [List.mem_append]
        exact not_or.mpr ⟨h, hp⟩
      rw [if_pos hafter, htake, ← List.append_assoc, splitLines_feed hfeed,
        linesFrom_cons _ _ (splitLines_ne_nil rest)]
      refine ⟨rfl, fun next hnext => ?_⟩
      have hle := start_le_of_mem_linesFrom (List.mem_of_getElem? hnext)
      rw [size_append] at hle
      omega
    · have htake : after.takeWhile (· != '\n') = after :=
        List.takeWhile_eq_self_iff.mpr (bne_feed_of_mem hafter)
      have hfeed : '\n' ∉ before ++ after := by
        rw [List.mem_append]
        exact not_or.mpr ⟨h, hafter⟩
      rw [if_neg hafter, htake, splitLines_of_not_mem hfeed]
      refine ⟨rfl, fun next hnext => ?_⟩
      simp [linesFrom] at hnext
  | feed p before h ih =>
    obtain ⟨hline, hnext⟩ := ih (start + size p + 1)
    have hfeed : '\n'.utf8Size = 1 := by decide
    have hcount : (p ++ '\n' :: before).count '\n' = before.count '\n' + 1 := by
      rw [List.count_append, List.count_eq_zero.mpr h, List.count_cons_self, Nat.zero_add]
    rw [List.append_assoc, List.cons_append, splitLines_feed h,
      linesFrom_cons _ _ (splitLines_ne_nil _), lineAround_feed, hcount, List.getElem?_cons_succ,
      List.getElem?_cons_succ, hline, size_append, size_cons, hfeed]
    refine ⟨by simp only [Option.some.injEq, Line.mk.injEq, and_true]; omega, fun next h => ?_⟩
    have := hnext next h
    omega

/-- A place has the number and the column that its line gives it. -/
lemma position_append (before after : Text) :
    (before ++ after).lines[before.count '\n']? = some (lineAround before after) ∧
      (before ++ after).position (size before) = ⟨size before, before.count '\n' + 1,
        charsWithin (lineAround before after).text
          (size before - (lineAround before after).start) + 1⟩ := by
  obtain ⟨hline, hnext⟩ := getElem?_linesFrom before after 0
  simp only [Nat.zero_add] at hline hnext
  refine ⟨hline, position_of_getElem? hline ?_ hnext⟩
  have hsplit := congrArg size (List.rdropWhile_append_rtakeWhile (p := (· != '\n')) (l := before))
  rw [size_append] at hsplit
  simp only [lineAround]
  omega

/-- What a place has in common with its line: the characters from the start of the line to the
place, or to the end of the line if that comes first. -/
lemma exists_inside_lineAround (before after : Text) :
    ∃ inside above rest, before ++ after = above ++ (inside ++ rest) ∧
      (lineAround before after).start = size above ∧ inside <+: (lineAround before after).text ∧
      min (size before) (lineAround before after).stop = size above + size inside ∧
      charsWithin (lineAround before after).text (size before - size above) = inside.length := by
  obtain ⟨inside, ⟨rest, hrest⟩, htext, hsize, hwithin⟩ :=
    exists_inside (List.prefix_append (before.rtakeWhile (· != '\n')) (after.takeWhile (· != '\n')))
      (prefix_lineAround before after)
  have hsplit := List.rdropWhile_append_rtakeWhile (p := (· != '\n')) (l := before)
  have hbefore := congrArg size hsplit
  rw [size_append] at hbefore
  refine ⟨inside, before.rdropWhile (· != '\n'), rest ++ after, ?_, rfl, htext, ?_, ?_⟩
  · conv_lhs => rw [← hsplit, ← hrest]
    simp
  · have hstart : (lineAround before after).start = size (before.rdropWhile (· != '\n')) := rfl
    rw [Line.stop, hstart, hsize]
    omega
  · rw [← hwithin]
    congr 1
    omega

/-! ### From a place to its position and back -/

/-- The line of a place is counted by the line feeds in front of it and the column by the characters
of the line, and both lead back to the place. -/
lemma exists_position?_of_cut? (h : t.cut? offset = some (before, after)) :
    ∃ p inside, t.position? offset = .ok p ∧ p.line = 1 + before.count '\n' ∧
      t.line? p.line = some (lineAround before after) ∧
      t.slice? (lineAround before after).start (min offset (lineAround before after).stop)
        = some inside ∧
      p.column = 1 + inside.length ∧
      t.offset? p.line p.column = some (min offset (lineAround before after).stop) := by
  obtain ⟨rfl, rfl⟩ := append_eq_of_cut? h
  obtain ⟨hline, hposition⟩ := position_append before after
  obtain ⟨inside, above, rest, heq, hstart, ⟨more, hmore⟩, hmin, hwithin⟩ :=
    exists_inside_lineAround before after
  rw [hstart, hwithin] at hposition
  refine ⟨_, inside, position?_of_isBoundary (isBoundary_append before after), ?_, ?_, ?_, ?_, ?_⟩
  · rw [hposition]
    exact Nat.add_comm _ _
  · rw [hposition, line?, if_neg (Nat.succ_ne_zero _)]
    exact hline
  · rw [hmin, hstart, heq]
    exact slice?_append above inside rest
  · rw [hposition]
    exact Nat.add_comm _ _
  · have hinside : (lineAround before after).text.take inside.length = inside := by
      rw [← hmore, List.take_left]
    rw [hposition, offset?, if_neg (Nat.succ_ne_zero _), line?, if_neg (Nat.succ_ne_zero _),
      Nat.add_sub_cancel, Nat.add_sub_cancel, hline, Option.map_some, hinside, hstart, hmin]

lemma isBoundary_of_position? {p : Position} (h : t.position? offset = .ok p) :
    t.isBoundary offset = true ∧ t.position offset = p := by
  rw [position?] at h
  split at h
  · cases h
  · split at h
    · rename_i hboundary
      cases h
      exact ⟨hboundary, rfl⟩
    · cases h

/-- A place further on has no smaller position. -/
lemma position?_mono {offset' : Nat} {p p' : Position} (h : t.position? offset = .ok p)
    (h' : t.position? offset' = .ok p') (hle : offset ≤ offset') :
    p.line < p'.line ∨ p.line = p'.line ∧ p.column ≤ p'.column := by
  obtain ⟨hboundary, rfl⟩ := isBoundary_of_position? h
  obtain ⟨hboundary', rfl⟩ := isBoundary_of_position? h'
  obtain ⟨before, after, rfl, rfl⟩ := exists_append_of_isBoundary hboundary
  obtain ⟨before', after', heq, rfl⟩ := exists_append_of_isBoundary hboundary'
  obtain ⟨hline, hposition⟩ := position_append before after
  obtain ⟨hline', hposition'⟩ := position_append before' after'
  obtain ⟨between, rfl, -⟩ := append_eq_append_of_size_le heq hle
  rw [← heq] at hline' hposition'
  rw [hposition, hposition']
  have hcount : before.count '\n' ≤ (before ++ between).count '\n' := by
    rw [List.count_append]
    exact Nat.le_add_right _ _
  rcases Nat.lt_or_eq_of_le hcount with hlt | hcount
  · exact .inl (Nat.succ_lt_succ hlt)
  · -- both places lie in one line
    rw [← hcount, hline] at hline'
    refine .inr ⟨congrArg (· + 1) hcount, ?_⟩
    rw [← Option.some.inj hline']
    exact Nat.succ_le_succ (charsWithin_mono _ (Nat.sub_le_sub_right hle _))

/-- A line and a column that name a place are its position, unless the line ends in front of the
column. -/
lemma exists_position?_of_offset? (h : t.offset? line column = some offset) :
    ∃ p l, t.position? offset = .ok p ∧ t.line? line = some l ∧ p.line = line ∧
      p.column = min column (1 + l.text.length) := by
  have hboundary := isBoundary_of_offset? h
  rw [offset?] at h
  split at h
  · cases h
  · rename_i hcolumn
    obtain ⟨l, hline, rfl⟩ := Option.map_eq_some_iff.mp h
    have hget := hline
    rw [line?] at hget
    split at hget
    · cases hget
    · have hsize : size (l.text.take (column - 1)) ≤ size l.text := by
        conv_rhs => rw [← List.take_append_drop (column - 1) l.text, size_append]
        exact Nat.le_add_right _ _
      have hnext : ∀ next, t.lines[line - 1 + 1]? = some next →
          l.start + size (l.text.take (column - 1)) < next.start := by
        intro next hnext
        have hlt := stop_lt_start_of_lines hget hnext (Nat.lt_succ_self _)
        rw [Line.stop] at hlt
        omega
      have hwithin := charsWithin_append (l.text.take (column - 1)) (l.text.drop (column - 1))
      rw [List.take_append_drop, List.length_take] at hwithin
      refine ⟨_, l, position?_of_isBoundary hboundary, hline, ?_, ?_⟩
      · rw [position_of_getElem? hget (Nat.le_add_right _ _) hnext]
        simp only
        omega
      · rw [position_of_getElem? hget (Nat.le_add_right _ _) hnext, Nat.add_sub_cancel_left]
        simp only [hwithin]
        omega

/-- Positions and offsets lead to each other. A place has the line that the line feeds in front of
it count, and the column that the characters of the line in front of it count; both lead back to the
place, or to the end of its line if it lies behind that. Positions grow with their places. And a
line and a column that name a place are the position of it, but for a column behind the end of the
line. -/
theorem offset?_position? (t : Text) :
    (∀ offset before after, t.cut? offset = some (before, after) →
      ∃ p l inside, t.position? offset = .ok p ∧ l = lineAround before after ∧
        p.line = 1 + before.count '\n' ∧ t.line? p.line = some l ∧
        t.slice? l.start (min offset l.stop) = some inside ∧ p.column = 1 + inside.length ∧
        t.offset? p.line p.column = some (min offset l.stop)) ∧
    (∀ offset offset' p p', t.position? offset = .ok p → t.position? offset' = .ok p' →
      offset ≤ offset' → p.line < p'.line ∨ p.line = p'.line ∧ p.column ≤ p'.column) ∧
    ∀ line column offset, t.offset? line column = some offset → t.isBoundary offset = true ∧
      ∃ p l, t.position? offset = .ok p ∧ t.line? line = some l ∧ p.line = line ∧
        p.column = min column (1 + l.text.length) := by
  refine ⟨?_, ?_, ?_⟩
  · intro offset before after hcut
    obtain ⟨p, inside, hposition, hline, hrest⟩ := exists_position?_of_cut? hcut
    exact ⟨p, _, inside, hposition, rfl, hline, hrest⟩
  · intro offset offset' p p' h h' hle
    exact position?_mono h h' hle
  · intro line column offset h
    exact ⟨isBoundary_of_offset? h, exists_position?_of_offset? h⟩

/-- A place between the two characters that end a line, the one behind them, and a column that the
second line does not have. -/
theorem offset?_position?_terminator :
    (cut? "é\r\nb".toList 3 = some ("é\r".toList, "\nb".toList) ∧
      ∃ p l inside, position? "é\r\nb".toList 3 = .ok p ∧
        l = lineAround "é\r".toList "\nb".toList ∧ p.line = 1 + "é\r".toList.count '\n' ∧
        line? "é\r\nb".toList p.line = some l ∧
        slice? "é\r\nb".toList l.start (min 3 l.stop) = some inside ∧ p.column = 1 + inside.length ∧
        offset? "é\r\nb".toList p.line p.column = some (min 3 l.stop)) ∧
    (position? "é\r\nb".toList 3 = .ok ⟨3, 1, 2⟩ ∧ position? "é\r\nb".toList 4 = .ok ⟨4, 2, 1⟩ ∧
      3 ≤ 4 ∧ (1 < 2 ∨ 1 = 2 ∧ 2 ≤ 1)) ∧
    offset? "é\r\nb".toList 2 9 = some 5 ∧ isBoundary "é\r\nb".toList 5 = true ∧
      ∃ p l, position? "é\r\nb".toList 5 = .ok p ∧ line? "é\r\nb".toList 2 = some l ∧ p.line = 2 ∧
        p.column = min 9 (1 + l.text.length) := by
  obtain ⟨hforward, hmono, hback⟩ := offset?_position? "é\r\nb".toList
  have hcut : cut? "é\r\nb".toList 3 = some ("é\r".toList, "\nb".toList) := by
    cbv
  have hposition : position? "é\r\nb".toList 3 = .ok ⟨3, 1, 2⟩ := by
    cbv
  have hposition' : position? "é\r\nb".toList 4 = .ok ⟨4, 2, 1⟩ := by
    cbv
  have hoffset : offset? "é\r\nb".toList 2 9 = some 5 := by
    cbv
  exact ⟨⟨hcut, hforward _ _ _ hcut⟩,
    ⟨hposition, hposition', by decide, hmono _ _ _ _ hposition hposition' (by decide)⟩,
    hoffset, hback _ _ _ hoffset⟩

end Text

end Requote
