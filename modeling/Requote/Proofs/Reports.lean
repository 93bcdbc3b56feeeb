import Requote.Proofs.Unterminated

/-!
# What is reported

Every token is at most one problem, reported where the token starts. So the problems of a document
are in the order of their places, and no two are at one place. Those that are literals without an
end are the bodies that are cut off, in source order. A template without an end takes all the text
that is left, so it is the last string; a quoted literal without an end stops at the end of the text
or of its line.
-/

namespace Requote

/-! ### The order of the problems -/

lemma Token.problems_cases (offset : Nat) (x : Token) (s : List (List Bracket)) :
    x.problems offset s = [] ∨ ∃ d, x.problems offset s = [d] ∧ d.offset = offset := by
  cases x with
  | body d t => cases hd : d.isTerminated <;> simp [problems, hd, Diagnostic.offset]
  | closing b =>
    cases s with
    | nil => exact .inl rfl
    | cons brackets s =>
      by_cases hb : brackets.head? = some b <;> simp [problems, hb, Diagnostic.offset]
  | opening b | comment t | operator t | blank t | other t => exact .inl rfl

namespace Reader

variable {r r' : Reader} {t u v : Text} {x : Token} {xs : List Token}

/-- The problems found so far are at increasing offsets, all of them in front of the reader. -/
def InOrder (r : Reader) : Prop :=
  r.diagnostics.Pairwise (fun d e => d.offset < e.offset) ∧ ∀ d ∈ r.diagnostics, d.offset < r.offset

lemma InOrder.step (h : r.InOrder) (hx : Token.next? r.previous r.resumes t = some (x, u)) :
    (r.step x).InOrder := by
  obtain ⟨hpair, hlt⟩ := h
  have hstep := offset_lt_step hx
  rw [InOrder, diagnostics_step]
  rcases x.problems_cases r.offset r.stack with hnone | ⟨e, hsome, he⟩
  · rw [hnone, List.append_nil]
    exact ⟨hpair, fun d hd => Nat.lt_trans (hlt d hd) hstep⟩
  · rw [hsome]
    constructor
    · refine List.pairwise_append.mpr ⟨hpair, List.pairwise_singleton _ _, ?_⟩
      rintro d hd e' he'
      obtain rfl := List.mem_singleton.mp he'
      rw [he]
      exact hlt d hd
    · rw [List.forall_mem_append, List.forall_mem_singleton, he]
      exact ⟨fun d hd => Nat.lt_trans (hlt d hd) hstep, hstep⟩

lemma Reads.inOrder (h : Reads r t xs r' v) (hr : r.InOrder) : r'.InOrder :=
  h.invariant (P := fun r _ => r.InOrder) (fun hr hx => hr.step hx) hr

lemma Reads.eq_of_nil (h : Reads r [] xs r' v) : r' = r := by
  generalize ht : ([] : Text) = t at h
  cases h with
  | nil => rfl
  | cons hx _ =>
    subst ht
    simp [Token.next?] at hx

end Reader

namespace Document

variable {source : Text} {b : Body} {o : Opening} {q : Quote}

lemma pairwise_diagnostics_read (source : Text) :
    (read source).diagnostics.Pairwise fun d e => d.offset < e.offset := by
  obtain ⟨xs, h⟩ := Reader.exists_reads {} source
  rw [diagnostics_read]
  exact (h.inOrder ⟨.nil, by simp⟩).1

/-! ### Bodies without an end -/

/-- Behind a template without an end there is nothing. -/
lemma getLast?_of_template (hb : b ∈ Target.bodiesOf (read source).targets)
    (hd : b.delimiters = .template o none) :
    (Target.bodiesOf (read source).targets).getLast? = some b ∧ b.span.stop = source.size := by
  obtain ⟨ys, r, after, zs, hys, -, hspan, hx, hzs⟩ := exists_reads_of_mem_bodiesOf_read hb
  obtain ⟨w, -, hread, -⟩ := Token.next?_eq_template (hd ▸ hx)
  obtain rfl := Token.readTemplate_cut hread
  have hbody : (Token.body b.delimiters b.text).bodyAt? r.offset = some b := by
    rw [Token.bodyAt?, ← hspan]
  constructor
  · rw [bodiesOf_read, hzs.eq_of_nil, Reader.found_step, hbody]
    exact List.getLast?_concat
  · have hsize := hys.offset_add_size
    rw [List.append_nil] at hsize
    rw [hspan, hsize]
    exact Nat.zero_add _

/-- A quoted literal without an end stops at the end of the text or in front of a line
terminator. -/
lemma stop_of_quoted (hb : b ∈ Target.bodiesOf (read source).targets)
    (hd : b.delimiters = .quoted q false) :
    b.span.stop = source.size ∨ ∃ (before : Text) (c : Char) (after : Text),
      source = before ++ c :: after ∧ before.size = b.span.stop ∧ Text.isTerminator c = true := by
  obtain ⟨ys, r, after, zs, hys, hoffset, hspan, hx, -⟩ := exists_reads_of_mem_bodiesOf_read hb
  obtain ⟨w, -, hread⟩ := Token.next?_eq_quoted (hd ▸ hx)
  have hend := Token.readQuoted_cut hread
  have hstop : (Token.textOf ys ++ b.delimiters.wrap b.text).size = b.span.stop := by
    rw [hspan, hoffset, Text.size_append]
  have hsource := hys.text_append
  rw [← List.append_assoc] at hsource
  cases after with
  | nil =>
    left
    rw [← hstop, ← hsource, List.append_nil]
  | cons c after => exact .inr ⟨_, c, after, hsource.symm, hstop, hend c rfl⟩

lemma delimiters_of_template (hb : b.isTerminated = false) (hkind : b.kind = .template) :
    ∃ o, b.delimiters = .template o none := by
  obtain ⟨⟨q, closed⟩ | ⟨o, _ | e⟩, t, s⟩ := b
  · simp [Body.kind, Delimiters.kind] at hkind
  · exact ⟨o, rfl⟩
  · simp [Body.isTerminated, Delimiters.isTerminated, Delimiters.closing?] at hb

lemma delimiters_of_normal (hb : b.isTerminated = false) (hkind : b.kind = .normal q) :
    b.delimiters = .quoted q false := by
  obtain ⟨⟨q', _ | _⟩ | ⟨o, e⟩, t, s⟩ := b
  · simpa [Body.kind, Delimiters.kind] using hkind
  · simp [Body.isTerminated, Delimiters.isTerminated, Delimiters.closing?] at hb
  · simp [Body.kind, Delimiters.kind] at hkind

/-- No two templates are without an end: each of them would be the last string. -/
lemma length_filter_template_le (source : Text) :
    ((Target.bodiesOf (read source).targets).filter
      fun b => !b.isTerminated && b.kind.isTemplate).length ≤ 1 := by
  have hnodup := (nodup_bodiesOf_read source).filter fun b => !b.isTerminated && b.kind.isTemplate
  have hlast : ∀ b ∈ (Target.bodiesOf (read source).targets).filter
      (fun b => !b.isTerminated && b.kind.isTemplate),
      (Target.bodiesOf (read source).targets).getLast? = some b := by
    intro b hb
    obtain ⟨hmem, hopen⟩ := List.mem_filter.mp hb
    simp only [Bool.and_eq_true, Bool.not_eq_true'] at hopen
    have hkind : b.kind = .template := by
      cases hkind : b.kind with
      | normal q => simp [hkind, Kind.isTemplate] at hopen
      | template => rfl
    obtain ⟨o, hd⟩ := delimiters_of_template hopen.1 hkind
    exact (getLast?_of_template hmem hd).1
  generalize (Target.bodiesOf (read source).targets).filter
    (fun b => !b.isTerminated && b.kind.isTemplate) = bs at hnodup hlast
  rcases bs with _ | ⟨b, _ | ⟨b', bs⟩⟩
  · exact Nat.zero_le 1
  · exact Nat.le_refl 1
  · have heq : some b = some b' := (hlast b (by simp)).symm.trans (hlast b' (by simp))
    simp [Option.some.inj heq] at hnodup

/-- The problems of a document are at increasing offsets. The literals without an end among them are
the bodies that are cut off, in source order. At most one of these bodies is of a template; it is
the last one, and goes up to the end of the text. A quoted one stops there or in front of a line
terminator. -/
theorem reports_read (source : Text) :
    (read source).diagnostics.Pairwise (fun d e => d.offset < e.offset) ∧
      (read source).diagnostics.filter Diagnostic.isUnterminated
        = ((Target.bodiesOf (read source).targets).filter fun b => !b.isTerminated).map
            (fun b => .unterminated b.kind b.span.start) ∧
      ((Target.bodiesOf (read source).targets).filter
        fun b => !b.isTerminated && b.kind.isTemplate).length ≤ 1 ∧
      ∀ b ∈ Target.bodiesOf (read source).targets, b.isTerminated = false →
        (b.kind = .template → (Target.bodiesOf (read source).targets).getLast? = some b ∧
          b.span.stop = source.size) ∧
        ∀ q, b.kind = .normal q → b.span.stop = source.size ∨
          ∃ (before : Text) (c : Char) (after : Text), source = before ++ c :: after ∧
            before.size = b.span.stop ∧ Text.isTerminator c = true := by
  refine ⟨pairwise_diagnostics_read source, ?_, length_filter_template_le source, ?_⟩
  · rw [filter_diagnostics_read, ← List.filterMap_eq_map, List.filterMap_filter]
    congr 1
    funext b
    cases hb : b.isTerminated <;> simp [Body.problem?, hb]
  · intro b hb hterminated
    constructor
    · intro hkind
      obtain ⟨o, hd⟩ := delimiters_of_template hterminated hkind
      exact getLast?_of_template hb hd
    · intro q hkind
      exact stop_of_quoted hb (delimiters_of_normal hterminated hkind)

set_option maxRecDepth 1000 in
/-- A quoted literal without an end, a bracket that does not match, and a template without an end in
the interpolation of another one. -/
theorem reports_read_mixed :
    (read "'a\n`$\x7b)`b".toList).diagnostics
        = [.unterminated (.normal .single) 0, .mismatchedBracket .round 6,
          .unterminated .template 7] ∧
      (⟨.quoted .single false, ['a'], ⟨0, 2⟩⟩
          ∈ Target.bodiesOf (read "'a\n`$\x7b)`b".toList).targets ∧
        Body.isTerminated ⟨.quoted .single false, ['a'], ⟨0, 2⟩⟩ = false ∧
        (2 = Text.size "'a\n`$\x7b)`b".toList ∨ ∃ (before : Text) (c : Char) (after : Text),
          "'a\n`$\x7b)`b".toList = before ++ c :: after ∧ before.size = 2 ∧
            Text.isTerminator c = true)) ∧
      ⟨.template .backtick none, ['b'], ⟨7, 9⟩⟩
          ∈ Target.bodiesOf (read "'a\n`$\x7b)`b".toList).targets ∧
        Body.isTerminated ⟨.template .backtick none, ['b'], ⟨7, 9⟩⟩ = false ∧
        (Target.bodiesOf (read "'a\n`$\x7b)`b".toList).targets).getLast?
          = some ⟨.template .backtick none, ['b'], ⟨7, 9⟩⟩ ∧
        9 = Text.size "'a\n`$\x7b)`b".toList := by
  have hdiagnostics : (read "'a\n`$\x7b)`b".toList).diagnostics
      = [.unterminated (.normal .single) 0, .mismatchedBracket .round 6,
        .unterminated .template 7] := by
    cbv
  have htargets : (read "'a\n`$\x7b)`b".toList).targets
      = [.body ⟨.quoted .single false, ['a'], ⟨0, 2⟩⟩,
        .body ⟨.template .backtick (some .interpolation), [], ⟨3, 6⟩⟩,
        .group ⟨false, ⟨6, 6⟩, ⟨9, 9⟩, ⟨6, 9⟩⟩
          [.body ⟨.template .backtick none, ['b'], ⟨7, 9⟩⟩]] := by
    cbv
  obtain ⟨-, -, -, hcut⟩ := reports_read "'a\n`$\x7b)`b".toList
  have hquoted : ⟨.quoted .single false, ['a'], ⟨0, 2⟩⟩
      ∈ Target.bodiesOf (read "'a\n`$\x7b)`b".toList).targets := by
    rw [htargets]
    exact List.mem_cons_self
  have htemplate : ⟨.template .backtick none, ['b'], ⟨7, 9⟩⟩
      ∈ Target.bodiesOf (read "'a\n`$\x7b)`b".toList).targets := by
    rw [htargets]
    exact List.mem_cons_of_mem _ (List.mem_cons_of_mem _ List.mem_cons_self)
  exact ⟨hdiagnostics, ⟨hquoted, rfl, (hcut _ hquoted rfl).2 .single rfl⟩, htemplate, rfl,
    (hcut _ htemplate rfl).1 rfl⟩

end Document

end Requote
