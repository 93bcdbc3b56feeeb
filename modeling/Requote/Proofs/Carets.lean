import Requote.Proofs.Boundaries
import Requote.Proofs.Positions
import Requote.Proofs.Unterminated

/-!
# The caret of a declined command

A declined command shows the line that it is about, after its number, and a caret in the line below.
The number is padded to three characters, and a bar between two blanks follows it; in front of the
caret stands a bar as well, but behind two characters only. So the caret is off by two characters
for numbers of up to three digits, and by one more for every further digit.
-/

namespace Requote

namespace Text

variable {s t : Text} {c : Char} {l : Line} {start n : Nat} {pieces : List Text}

/-! ### Lines -/

lemma not_mem_of_mem_splitLines {p : Text} (h : p ∈ splitLines t) : '\n' ∉ p := by
  fun_induction splitLines t generalizing p with
  | case1 => simp_all
  | case2 t ih =>
    rcases List.mem_cons.mp h with rfl | h
    · exact List.not_mem_nil
    · exact ih h
  | case3 c t _ h' => exact absurd h' (splitLines_ne_nil t)
  | case4 c t hc p' ps hp ih =>
    rw [hp] at ih
    rcases List.mem_cons.mp h with rfl | h
    · rw [List.mem_cons]
      exact not_or.mpr ⟨Ne.symm hc, ih List.mem_cons_self⟩
    · exact ih (List.mem_cons_of_mem _ h)

lemma not_mem_of_mem_linesFrom (hpieces : ∀ p ∈ pieces, '\n' ∉ p) (h : l ∈ linesFrom start pieces) :
    '\n' ∉ l.text := by
  fun_induction linesFrom start pieces with
  | case1 => simp at h
  | case2 start p =>
    obtain rfl := List.mem_singleton.mp h
    exact hpieces p List.mem_cons_self
  | case3 start p ps _ ih =>
    rcases List.mem_cons.mp h with rfl | h
    · intro hmem
      have hfront := dropReturn_prefix p
      exact hpieces p List.mem_cons_self (hfront.subset hmem)
    · exact ih (fun p hp => hpieces p (List.mem_cons_of_mem _ hp)) h

lemma not_mem_of_line? (h : t.line? n = some l) : '\n' ∉ l.text := by
  rw [line?] at h
  split at h
  · simp at h
  · exact not_mem_of_mem_linesFrom (fun _ => not_mem_of_mem_splitLines) (List.mem_of_getElem? h)

lemma charsWithin_le_length (t : Text) (n : Nat) : charsWithin t n ≤ t.length :=
  calc charsWithin t n
    _ ≤ charsWithin t (max n t.size) := charsWithin_mono t (Nat.le_max_left _ _)
    _ = t.length := charsWithin_of_size_le (Nat.le_max_right _ _)

/-- The line of a position exists, and its column is one of a character of the line or the next
one. -/
lemma exists_line?_position (t : Text) (offset : Nat) :
    ∃ l, t.line? (t.position offset).line = some l ∧ 1 ≤ (t.position offset).column ∧
      (t.position offset).column ≤ l.text.length + 1 := by
  have htake : t.lines.takeWhile (fun line => decide (line.start ≤ offset)) <+: t.lines :=
    List.takeWhile_prefix _
  rw [position, Position.ofLines]
  generalize t.lines.takeWhile (fun line => decide (line.start ≤ offset)) = before at htake
  obtain ⟨after, hafter⟩ := htake
  cases hlast : before.getLast? with
  | some l =>
    obtain ⟨front, rfl⟩ := List.getLast?_eq_some_iff.mp hlast
    refine ⟨l, ?_, Nat.le_add_left _ _, Nat.succ_le_succ (charsWithin_le_length _ _)⟩
    rw [line?, if_neg (by simp), ← hafter]
    simp
  | none =>
    have hlength := length_lines t
    obtain ⟨l, ls, hl⟩ :=
      List.exists_cons_of_ne_nil (List.length_pos_iff.mp (by omega : 0 < t.lines.length))
    exact ⟨l, by simp [line?, hl], Nat.le_refl _, Nat.le_add_left _ _⟩

lemma splitLines_flatMap {ls : List Text} (h : ∀ l ∈ ls, '\n' ∉ l) (t : Text) :
    splitLines (ls.flatMap (· ++ ['\n']) ++ t) = ls ++ splitLines t := by
  induction ls with
  | nil => rfl
  | cons l ls ih =>
    obtain ⟨hl, hls⟩ := List.forall_mem_cons.mp h
    rw [List.flatMap_cons, List.append_assoc, List.append_assoc, List.singleton_append,
      splitLines_feed hl, ih hls, List.cons_append]

/-! ### Characters of a message -/

lemma trimEnd_eq_self (h : t.getLast? = some c) (hc : isBlank c = false) : trimEnd t = t := by
  obtain ⟨s, rfl⟩ := List.getLast?_eq_some_iff.mp h
  simp [trimEnd, hc]

lemma trimEnd_concat_feed (t : Text) : trimEnd (t ++ ['\n']) = trimEnd t := by
  have hfeed : isBlank '\n' = true := by decide
  simp [trimEnd, hfeed]

lemma not_mem_ofNat (n : Nat) (hc : c.isDigit = false) : c ∉ ofNat n := by
  intro hmem
  rw [Nat.isDigit_of_mem_toDigits (by decide) (by decide) hmem] at hc
  exact Bool.false_ne_true hc.symm

lemma length_padLeft (n : Nat) (t : Text) : (padLeft n t).length = max n t.length := by
  simp only [padLeft, List.length_append, List.length_replicate]
  omega

end Text

namespace Decline

variable {source line : Text} {p : Position} {d : Decline}

/-! ### The lines of the message -/

/-- The line that says what to do about it. -/
def helpLine? (d : Decline) : Option Text :=
  d.reason.help?.map ("  = help: ".toList ++ ·)

lemma helpLine?_eq_some {h : Text} (hh : d.helpLine? = some h) :
    '\n' ∉ h ∧ ∃ c, h.getLast? = some c ∧ Text.isBlank c = false := by
  obtain ⟨reason, location, sourceLine⟩ := d
  have hall : ∀ h ∈ helpLine? ⟨reason, location, sourceLine⟩,
      '\n' ∉ h ∧ ∃ c ∈ h.getLast?, Text.isBlank c = false := by
    cases reason <;> simp [helpLine?, Reason.help?] <;> decide +kernel
  exact hall h hh

lemma not_mem_headLine (d : Decline) : '\n' ∉ d.headLine := by
  have hmessage : '\n' ∉ d.reason.message := by
    cases d.reason <;> decide +kernel
  rw [headLine]
  split
  · have hnumber : ∀ n, '\n' ∉ Text.ofNat n := fun n => Text.not_mem_ofNat n (by decide)
    simp [Position.display, hnumber, hmessage]
  · exact hmessage

lemma not_mem_shownLine (hline : '\n' ∉ line) (p : Position) : '\n' ∉ shownLine line p := by
  have hnumber : '\n' ∉ Text.ofNat p.line := Text.not_mem_ofNat _ (by decide)
  simp [shownLine, Text.padLeft, hnumber, hline]

lemma not_mem_caretLine (p : Position) : '\n' ∉ caretLine p := by
  simp [caretLine]

lemma getLast?_caretLine (p : Position) : (caretLine p).getLast? = some '^' :=
  List.getLast?_concat

/-- A message that shows a place ends with the caret or with what to do about it. -/
lemma message_eq (hp : d.location = some p) (hline : d.sourceLine = some line) :
    d.message = [d.headLine, "  |".toList, shownLine line p].flatMap (· ++ ['\n'])
      ++ (caretLine p ++ (d.helpLine?.map ('\n' :: ·)).getD []) := by
  have hcontext : (d.headLine :: d.contextLines).flatMap (· ++ ['\n'])
      = [d.headLine, "  |".toList, shownLine line p].flatMap (· ++ ['\n'])
        ++ (caretLine p ++ ['\n']) := by
    simp [contextLines, hp, hline]
  rw [message, hcontext, ← helpLine?]
  generalize [d.headLine, "  |".toList, shownLine line p].flatMap (· ++ ['\n']) = front
  cases hhelp : d.helpLine? with
  | none =>
    have hlast : (front ++ caretLine p).getLast? = some '^' := by
      rw [List.getLast?_append, getLast?_caretLine, Option.some_or]
    rw [Option.getD_none, List.append_nil, ← List.append_assoc, Text.trimEnd_concat_feed,
      Text.trimEnd_eq_self hlast (by decide), Option.map_none, Option.getD_none, List.append_nil]
  | some h =>
    obtain ⟨-, c, hc, hblank⟩ := helpLine?_eq_some hhelp
    have hlast : (front ++ (caretLine p ++ ['\n']) ++ h).getLast? = some c := by
      rw [List.getLast?_append, hc, Option.some_or]
    rw [Option.getD_some, Text.trimEnd_eq_self hlast hblank]
    simp

/-- The lines of a message that shows a place. -/
lemma splitLines_message (hp : d.location = some p) (hline : d.sourceLine = some line)
    (hfeed : '\n' ∉ line) :
    Text.splitLines d.message
      = [d.headLine, "  |".toList, shownLine line p] ++ caretLine p :: d.helpLine?.toList := by
  have hfront : ∀ l ∈ [d.headLine, "  |".toList, shownLine line p], '\n' ∉ l := by
    simp [not_mem_headLine, not_mem_shownLine hfeed]
  rw [message_eq hp hline, Text.splitLines_flatMap hfront]
  congr 1
  cases hhelp : d.helpLine? with
  | none =>
    rw [Option.map_none, Option.getD_none, List.append_nil,
      Text.splitLines_of_not_mem (not_mem_caretLine p), Option.toList_none]
  | some h =>
    rw [Option.map_some, Option.getD_some, Text.splitLines_feed (not_mem_caretLine p),
      Text.splitLines_of_not_mem (helpLine?_eq_some hhelp).1, Option.toList_some]

/-! ### The two indices -/

lemma idxOf?_caretLine (p : Position) : (caretLine p).idxOf? '^' = some (4 + (p.column - 1)) := by
  have hfront : '^' ∉ "  | ".toList ++ List.replicate (p.column - 1) ' ' := by simp
  have hnone := List.idxOf?_eq_none_iff.mpr hfront
  have hlength :
      ("  | ".toList ++ List.replicate (p.column - 1) ' ').length = 4 + (p.column - 1) := by
    rw [List.length_append, List.length_replicate]
    rfl
  rw [List.idxOf?] at hnone ⊢
  rw [caretLine, List.findIdx?_append, hnone, hlength]
  simp

lemma message?_eq_none_iff (hp : d.location = some p) (hline : d.sourceLine = some line)
    (hcolumn : 1 ≤ p.column) : d.message? = none ↔ maxColumn < p.column := by
  simp [message?, isShowable, hp, hline, hcolumn]

/-- A decline with a line shows the line of its place. -/
lemma located_of_sourceLine {reason : Reason} {offset : Nat}
    (hd : d = located source reason (source.position offset)) (hp : d.location = some p)
    (hline : d.sourceLine = some line) :
    (∃ l, source.line? p.line = some l ∧ l.text = line) ∧ '\n' ∉ line ∧ 1 ≤ p.column ∧
      p.column ≤ line.length + 1 := by
  subst hd
  obtain rfl : source.position offset = p := Option.some.inj hp
  obtain ⟨l, hl, hcolumn⟩ := Text.exists_line?_position source offset
  obtain rfl : l.text = line := by simpa [located, hl] using hline
  exact ⟨⟨l, hl, rfl⟩, Text.not_mem_of_line? hl, hcolumn⟩

end Decline

namespace Command

variable {command : Command} {style : QuoteStyle} {source line : Text} {offset : Nat}
  {place : Place} {d : Decline} {p : Position} {reason : Reason}

/-! ### Where a decline comes from -/

/-- Whether a decline shows a place of the source text, if it shows a line at all. -/
def Shows (source : Text) (d : Decline) : Prop :=
  d.sourceLine ≠ none → ∃ reason offset, d = .located source reason (source.position offset)

lemma shows_of_declineAt {α : Type}
    (h : (declineAt source reason offset : Except Failure α) = .error (.declined d)) :
    Shows source d := by
  rw [declineAt, Except.error.injEq, Failure.declined.injEq] at h
  exact fun _ => ⟨reason, offset, h.symm⟩

lemma shows_of_replaceQuoted {b : Body} {kind : Kind}
    (h : replaceQuoted source b kind = .error (.declined d)) : Shows source d := by
  rw [replaceQuoted] at h
  split at h
  · simp at h
  · exact shows_of_declineAt h

lemma shows_of_placeAt {document : Document}
    (h : placeAt source document offset = .error (.declined d)) : Shows source d := by
  rw [placeAt] at h
  split at h
  · simp at h
  · split at h
    · rename_i position hposition
      obtain ⟨-, rfl⟩ := Text.isBoundary_of_position? hposition
      exact shows_of_declineAt h
    · simp at h

lemma shows_of_runToNormal {kind : Kind}
    (h : runToNormal source place kind = .error (.declined d)) :
    Shows source d := by
  simp only [runToNormal] at h
  split at h
  · exact shows_of_declineAt h
  · split at h
    · split at h
      · simp at h
      · split at h
        · simp at h
        · rename_i flaw _
          rw [Except.error.injEq, Failure.declined.injEq] at h
          cases flaw <;> simp [← h, Shows, Flaw.decline]
    · exact shows_of_declineAt h

lemma shows_of_run (h : command.run style source offset = .error (.declined d)) :
    Shows source d := by
  simp only [run, bind, Except.bind] at h
  split at h
  · rename_i failure hplace
    rw [Except.error.inj h] at hplace
    exact shows_of_placeAt hplace
  · cases command with
    | toNormal => exact shows_of_runToNormal h
    | toTemplate | toggle =>
      simp only [runToTemplate, runToggle] at h
      split at h
      · exact shows_of_declineAt h
      · exact shows_of_replaceQuoted h

/-- In the message of a decline that shows a line, the caret stands to the left of the character at
the column, or of the end of the line: by two characters for line numbers of up to three digits, and
by one more for every further digit. There is no such message for columns that are too large. -/
theorem caret_of_declined (h : command.run style source offset = .error (.declined d))
    (hp : d.location = some p) (hline : d.sourceLine = some line) :
    (∃ l, source.line? p.line = some l ∧ l.text = line) ∧
      (d.message? = none ↔ Decline.maxColumn < p.column) ∧
      ∀ text, d.message? = some text → ∃ gutter under caret,
        (Text.splitLines text)[2]? = some (gutter ++ line) ∧
        (Text.splitLines text)[3]? = some under ∧ under.idxOf? '^' = some caret ∧
        caret + (max 3 (Text.ofNat p.line).length - 1)
          = gutter.length + min (p.column - 1) line.length := by
  obtain ⟨reason, n, hd⟩ := shows_of_run h (by simp [hline])
  obtain ⟨hsource, hfeed, hcolumn, hle⟩ := Decline.located_of_sourceLine hd hp hline
  refine ⟨hsource, Decline.message?_eq_none_iff hp hline hcolumn, ?_⟩
  intro text htext
  obtain rfl : d.message = text := by
    rw [Decline.message?] at htext
    split at htext
    · exact Option.some.inj htext
    · simp at htext
  have hlines := Decline.splitLines_message hp hline hfeed
  refine ⟨Text.padLeft 3 (Text.ofNat p.line) ++ " | ".toList, Decline.caretLine p, _, ?_, ?_,
    Decline.idxOf?_caretLine p, ?_⟩
  · rw [hlines]
    rfl
  · rw [hlines]
    rfl
  · have hbar : " | ".toList.length = 3 := rfl
    rw [List.length_append, Text.length_padLeft, hbar]
    omega

/-- A cursor behind the strings of the second line. -/
theorem caret_of_declined_behind :
    Command.toggle.run .infer "a\n'b' ".toList 6
        = .error (.declined ⟨.noString, some ⟨6, 2, 5⟩, some "'b' ".toList⟩) ∧
      (∃ l, Text.line? "a\n'b' ".toList 2 = some l ∧ l.text = "'b' ".toList) ∧
      (Decline.message? ⟨.noString, some ⟨6, 2, 5⟩, some "'b' ".toList⟩ = none ↔
        Decline.maxColumn < 5) ∧
      ∀ text, Decline.message? ⟨.noString, some ⟨6, 2, 5⟩, some "'b' ".toList⟩ = some text →
        ∃ gutter under caret, (Text.splitLines text)[2]? = some (gutter ++ "'b' ".toList) ∧
          (Text.splitLines text)[3]? = some under ∧ under.idxOf? '^' = some caret ∧
          caret + (max 3 (Text.ofNat 2).length - 1)
            = gutter.length + min (5 - 1) "'b' ".toList.length := by
  have h : Command.toggle.run .infer "a\n'b' ".toList 6
      = .error (.declined ⟨.noString, some ⟨6, 2, 5⟩, some "'b' ".toList⟩) := by
    cbv
  exact ⟨h, caret_of_declined h rfl rfl⟩

/-- The caret stands below the equals sign, two characters in front of the backtick at the
column. -/
theorem caret_not_below_column :
    ∃ d text, Command.toggle.run .infer "let b = `x`;".toList 8 = .error (.declined d) ∧
      d.location = some ⟨8, 1, 9⟩ ∧ d.sourceLine = some "let b = `x`;".toList ∧
      d.message? = some text ∧
      (Text.splitLines text)[2]? = some ("  1 | ".toList ++ "let b = `x`;".toList) ∧
      (Text.splitLines text)[3]? = some "  |         ^".toList ∧
      "  |         ^".toList.idxOf? '^' = some 12 ∧ "  1 | ".toList.length + (9 - 1) = 14 := by
  refine ⟨⟨.templateString, some ⟨8, 1, 9⟩, some "let b = `x`;".toList⟩,
    Decline.message ⟨.templateString, some ⟨8, 1, 9⟩, some "let b = `x`;".toList⟩, ?_, rfl, rfl,
    rfl, ?_⟩
  · cbv
  · rw [Decline.splitLines_message rfl rfl (by decide)]
    exact ⟨rfl, rfl, by decide, rfl⟩

end Command

end Requote
