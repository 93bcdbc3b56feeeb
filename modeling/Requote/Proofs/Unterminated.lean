import Requote.Proofs.Boundaries
import Requote.Proofs.Rereading

/-!
# Literals without an end

Reading reports every body that is cut off, and nothing else as unterminated. A command looks at the
last target of the whole literal. The two agree if this target is a body. If it is a group, then the
text ends in an interpolation: all bodies of the literal are closed, so none is reported, but the
command declines.
-/

namespace Requote

/-- Whether the problem is a literal without an end. -/
def Diagnostic.isUnterminated : Diagnostic → Bool
  | unterminated _ _      => true
  | mismatchedBracket _ _ => false

/-- The problem that a body is, if it is cut off. -/
def Body.problem? (b : Body) : Option Diagnostic :=
  if b.isTerminated then none else some (.unterminated b.kind b.span.start)

/-! ### The reported bodies -/

namespace Reader

variable {r r' : Reader} {t v : Text} {x : Token} {xs : List Token}

/-- The problem that a token is as a literal without an end is that of its body. -/
lemma filter_problems (offset : Nat) (x : Token) (s : List (List Bracket)) :
    (x.problems offset s).filter Diagnostic.isUnterminated
      = (x.bodyAt? offset).toList.filterMap Body.problem? := by
  cases x with
  | body d t =>
    cases hd : d.isTerminated <;>
      simp [Token.problems, Token.bodyAt?, Body.problem?, Body.isTerminated, Body.kind, hd,
        Diagnostic.isUnterminated]
  | closing b =>
    cases s with
    | nil => rfl
    | cons brackets s =>
      simp only [Token.problems, Token.bodyAt?, Option.toList_none, List.filterMap_nil]
      split <;> simp [Diagnostic.isUnterminated]
  | opening b | comment t | operator t | blank t | other t => rfl

/-- The bodies found so far are those reported, as far as they are cut off. -/
def Reports (r : Reader) : Prop :=
  r.diagnostics.filter Diagnostic.isUnterminated = r.found.filterMap Body.problem?

lemma Reports.step (h : r.Reports) (x : Token) : (r.step x).Reports := by
  rw [Reports, diagnostics_step, found_step, List.filter_append, List.filterMap_append, h,
    filter_problems]

lemma Reads.reports (h : Reads r t xs r' v) (hr : r.Reports) : r'.Reports :=
  h.invariant (P := fun r _ => r.Reports) (fun hr _ => hr.step _) hr

end Reader

namespace Document

variable {source : Text} {b : Body} {kind : Kind} {offset : Nat}

/-- What is reported as unterminated in a document are its bodies that are cut off, in order. -/
lemma filter_diagnostics_read (source : Text) :
    (read source).diagnostics.filter Diagnostic.isUnterminated
      = (Target.bodiesOf (read source).targets).filterMap Body.problem? := by
  obtain ⟨xs, h⟩ := Reader.exists_reads {} source
  rw [diagnostics_read, bodiesOf_read]
  exact h.reports rfl

lemma unterminated_mem_iff : .unterminated kind offset ∈ (read source).diagnostics ↔
    ∃ b ∈ Target.bodiesOf (read source).targets,
      b.isTerminated = false ∧ b.kind = kind ∧ b.span.start = offset := by
  have hmem : .unterminated kind offset ∈ (read source).diagnostics ↔ .unterminated kind offset
      ∈ (read source).diagnostics.filter Diagnostic.isUnterminated := by
    simp [Diagnostic.isUnterminated]
  rw [hmem, filter_diagnostics_read, List.mem_filterMap]
  simp [Body.problem?]

/-- No other body starts where a body does. -/
lemma eq_of_start_eq {b' : Body} (hb : b ∈ Target.bodiesOf (read source).targets)
    (hb' : b' ∈ Target.bodiesOf (read source).targets) (h : b.span.start = b'.span.start) :
    b = b' := by
  by_contra hne
  have hpos := (ordered_bodiesOf_read source).2 b hb
  have hpos' := (ordered_bodiesOf_read source).2 b' hb'
  have := disjoint_of_ne hb hb' hne
  omega

/-- A body is reported exactly if it is cut off. -/
lemma unterminated_start_mem_iff (hb : b ∈ Target.bodiesOf (read source).targets) :
    (∃ kind, .unterminated kind b.span.start ∈ (read source).diagnostics) ↔
      b.isTerminated = false := by
  constructor
  · rintro ⟨kind, hmem⟩
    obtain ⟨b', hb', hterminated, -, hstart⟩ := unterminated_mem_iff.mp hmem
    rw [← eq_of_start_eq hb' hb hstart]
    exact hterminated
  · intro h
    exact ⟨b.kind, unterminated_mem_iff.mpr ⟨b, hb, h, rfl, rfl⟩⟩

end Document

/-! ### The declined literals -/

namespace Target

variable {size : Nat} {b b' : Body} {ts : List Target} {g : Group} {inside : List Target}

/-- In a literal that ends in a group every body opens an interpolation. -/
lemma Continues.isLast_of_group (h : Continues size b ts)
    (hlast : (.body b :: ts).getLast? = some (.group g inside)) (hb' : .body b' ∈ .body b :: ts) :
    b'.isLast = false := by
  induction h with
  | last => simp at hlast
  | cut hb =>
    obtain rfl : b' = _ := by simpa using hb'
    exact hb
  | resumed hb _ _ ih =>
    rcases List.mem_cons.mp hb' with heq | hmem
    · obtain rfl := Target.body.inj heq
      exact hb
    · exact ih (by simpa using hlast) (by simpa using hmem)

lemma isTerminated_of_isLast_eq_false (hb : b.isLast = false) : b.isTerminated = true := by
  obtain ⟨o, hd⟩ := delimiters_of_isLast_eq_false hb
  rw [Body.isTerminated, hd]
  rfl

end Target

namespace Command

variable {command : Command} {style : QuoteStyle} {source : Text} {offset : Nat} {place : Place}
  {d : Decline}

lemma isTerminated_of_replaceQuoted {b : Body} {kind : Kind}
    (h : replaceQuoted source b kind = .error (.declined d)) : b.isTerminated = false := by
  rw [replaceQuoted] at h
  split at h
  · simp at h
  · rename_i hterminated
    exact eq_false_of_ne_true hterminated

/-- A quoted literal is a whole literal. -/
lemma literal_of_quoted {q : Quote} (h : place.body.kind = .normal q) :
    place.literal = [.body place.body] := by
  obtain ⟨q', closed, hd⟩ : ∃ q closed, place.body.delimiters = .quoted q closed := by
    cases hd : place.body.delimiters with
    | quoted q closed => exact ⟨q, closed, rfl⟩
    | template o cl => simp [Body.kind, hd, Delimiters.kind] at h
  simp [Place.literal, Body.isFirst, Body.isLast, hd, Delimiters.isFirst, Delimiters.isLast]

lemma reason_of_declineAt {α : Type} {reason : Reason}
    (h : (declineAt source reason offset : Except Failure α) = .error (.declined d)) :
    d.reason = reason := by
  rw [declineAt, Except.error.injEq, Failure.declined.injEq] at h
  rw [← h]
  rfl

/-- A command that declines with the end of a literal has found a string. -/
lemma exists_find?_of_unterminated (h : command.run style source offset = .error (.declined d))
    (hreason : d.reason = .unterminated) :
    ∃ place, Place.find? offset (Document.read source).targets = some place := by
  match hfind : Place.find? offset (Document.read source).targets with
  | some place => exact ⟨place, rfl⟩
  | none =>
    simp only [run, placeAt, hfind, bind, Except.bind] at h
    split at h
    · rename_i failure hposition
      obtain rfl := Except.error.inj h
      split at hposition
      · rw [Except.error.injEq, Failure.declined.injEq] at hposition
        rw [← hposition] at hreason
        simp [Decline.located] at hreason
      · simp at hposition
    · rename_i hposition
      split at hposition <;> simp at hposition

/-- What is declined as unterminated is cut off: it ends in a body without an end, or in a group. -/
lemma cutOff_of_unterminated (h : command.run style source offset = .error (.declined d))
    (hreason : d.reason = .unterminated)
    (hfind : Place.find? offset (Document.read source).targets = some place) :
    Target.CutOff source.size place.literal := by
  have hquoted : ∀ q : Quote, ∀ kind, place.body.kind = .normal q →
      replaceQuoted source place.body kind = .error (.declined d) →
      Target.CutOff source.size place.literal := by
    intro q kind hkind hreplace
    rw [literal_of_quoted hkind]
    have hterminated := isTerminated_of_replaceQuoted hreplace
    refine .inl ⟨place.body, rfl, ?_⟩
    simpa [Body.isTerminated, Delimiters.isTerminated] using hterminated
  cases hkind : place.body.kind with
  | normal q =>
    cases command with
    | toTemplate | toggle =>
      simp only [run, placeAt, hfind, runToTemplate, runToggle, hkind, bind, Except.bind] at h
      exact hquoted q _ hkind h
    | toNormal =>
      simp only [run, placeAt, hfind, runToNormal, hkind, bind, Except.bind] at h
      rw [reason_of_declineAt h] at hreason
      simp at hreason
  | template =>
    cases command with
    | toTemplate | toggle =>
      simp only [run, placeAt, hfind, runToTemplate, runToggle, hkind, bind, Except.bind] at h
      rw [reason_of_declineAt h] at hreason
      simp at hreason
    | toNormal =>
      obtain ⟨path, hpath⟩ := Place.exists_path_of_find? hfind
      obtain ⟨head, tail, hliteral, hfirst, htail⟩ := Place.exists_continues hpath
      rw [hliteral]
      exact (flattens_run_toNormal style hfind hkind hliteral hfirst htail).cutOff_of_reason h
        hreason

/-- A command that declines with the end of a literal agrees with reading if the literal ends in a
body: this one is reported. If the literal ends in a group, which then ends with the text, no body
of it is reported. -/
theorem reported_of_unterminated (h : command.run style source offset = .error (.declined d))
    (hreason : d.reason = .unterminated) :
    ∃ place, Place.find? offset (Document.read source).targets = some place ∧
      ((∃ b, place.literal.getLast? = some (.body b) ∧
          .unterminated b.kind b.span.start ∈ (Document.read source).diagnostics) ∨
        ∃ g inside, place.literal.getLast? = some (.group g inside) ∧ g.span.stop = source.size ∧
          ∀ b, .body b ∈ place.literal → ∀ kind,
            .unterminated kind b.span.start ∉ (Document.read source).diagnostics) := by
  obtain ⟨place, hfind⟩ := exists_find?_of_unterminated h hreason
  obtain ⟨path, hpath⟩ := Place.exists_path_of_find? hfind
  obtain ⟨pre, post, htargets⟩ := place.exists_targets_eq
  have hbodies : ∀ b, .body b ∈ place.literal →
      b ∈ Target.bodiesOf (Document.read source).targets := by
    intro b hb
    refine Target.mem_bodiesOf_of_inside? hpath ?_
    rw [htargets]
    exact List.mem_append_right _ (List.mem_append_left _ hb)
  refine ⟨place, hfind, ?_⟩
  rcases cutOff_of_unterminated h hreason hfind with
    ⟨b, hlast, hclosing⟩ | ⟨g, inside, hlast, hsize⟩
  · refine .inl ⟨b, hlast, ?_⟩
    have hterminated : b.isTerminated = false := by
      simp [Body.isTerminated, Delimiters.isTerminated, hclosing]
    exact Document.unterminated_mem_iff.mpr
      ⟨b, hbodies b (List.mem_of_getLast? hlast), hterminated, rfl, rfl⟩
  · refine .inr ⟨g, inside, hlast, hsize, fun b hb kind hmem => ?_⟩
    obtain ⟨head, tail, hliteral, -, htail⟩ := Place.exists_continues hpath
    rw [hliteral] at hlast hb
    have hopens := Target.isTerminated_of_isLast_eq_false (htail.isLast_of_group hlast hb)
    have hreported :=
      (Document.unterminated_start_mem_iff (hbodies b (hliteral ▸ hb))).mp ⟨kind, hmem⟩
    rw [hopens] at hreported
    simp at hreported

/-- A literal without an end in an interpolation without an end. -/
theorem reported_of_unterminated_nested :
    Command.toggle.run .infer "`a$\x7b'b".toList 5
        = .error (.declined (.located "`a$\x7b'b".toList .unterminated ⟨4, 1, 5⟩)) ∧
      ∃ place, Place.find? 5 (Document.read "`a$\x7b'b".toList).targets = some place ∧
        ((∃ b, place.literal.getLast? = some (.body b) ∧
            .unterminated b.kind b.span.start ∈ (Document.read "`a$\x7b'b".toList).diagnostics) ∨
          ∃ g inside, place.literal.getLast? = some (.group g inside) ∧
            g.span.stop = Text.size "`a$\x7b'b".toList ∧
            ∀ b, .body b ∈ place.literal → ∀ kind,
              .unterminated kind b.span.start
                ∉ (Document.read "`a$\x7b'b".toList).diagnostics) := by
  have h : Command.toggle.run .infer "`a$\x7b'b".toList 5
      = .error (.declined (.located "`a$\x7b'b".toList .unterminated ⟨4, 1, 5⟩)) := by
    cbv
  exact ⟨h, reported_of_unterminated h rfl⟩

/-- A template that ends in an interpolation without an end is declined, but nothing is reported. -/
theorem unreported_of_interpolation :
    (∃ d, Command.toNormal.run .infer "`a$\x7bb".toList 1 = .error (.declined d) ∧
        d.reason = .unterminated) ∧
      (Document.read "`a$\x7bb".toList).diagnostics = [] := by
  have hrun : Command.toNormal.run .infer "`a$\x7bb".toList 1
      = .error (.declined (.located "`a$\x7bb".toList .unterminated ⟨0, 1, 1⟩)) := by
    cbv
  exact ⟨⟨_, hrun, rfl⟩, by cbv⟩

end Command

end Requote
