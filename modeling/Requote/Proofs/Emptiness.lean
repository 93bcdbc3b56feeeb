import Requote.Proofs.Fragments

/-!
# Interpolations without code

Nothing in a tree says whether an interpolation has code. It is told from the blanks at its start
and from the strings in it: if there are no strings and the blanks go up to its end, then it has
none.

A comment is neither a string nor a blank. So an interpolation that holds comments only counts as
code, though there is no operand in it.
-/

namespace Requote

/-! ### The tokens of an interpolation -/

namespace Reader

/-- The tokens of a text that lie in a span. -/
def tokensIn (s : Span) (r : Reader) (t : Text) : List Token :=
  match t with
  | []     => []
  | c :: t =>
    (if s.start ≤ r.offset ∧ (r.step (Token.read r.previous r.resumes c t).1).offset ≤ s.stop then
        [(Token.read r.previous r.resumes c t).1]
      else [])
      ++ (r.step (Token.read r.previous r.resumes c t).1).tokensIn s
        (Token.read r.previous r.resumes c t).2
termination_by t.length
decreasing_by exact Token.length_read_lt ..

variable {s : Span} {r r' : Reader} {t u : Text} {x : Token} {xs : List Token}

lemma tokensIn_of_next? (s : Span) (hx : Token.next? r.previous r.resumes t = some (x, u)) :
    r.tokensIn s t = (if s.start ≤ r.offset ∧ (r.step x).offset ≤ s.stop then [x] else [])
      ++ (r.step x).tokensIn s u := by
  cases t with
  | nil => simp [Token.next?] at hx
  | cons c t =>
    have hread : Token.read r.previous r.resumes c t = (x, u) := by simpa [Token.next?] using hx
    rw [tokensIn, hread]

/-- Tokens in front of a span are left out. -/
lemma Reads.tokensIn_of_le (h : Reads r t xs r' u) (hle : r'.offset ≤ s.start) :
    r.tokensIn s t = r'.tokensIn s u := by
  induction h with
  | nil => rfl
  | cons hx h ih =>
    have hlt := offset_lt_step hx
    have hoffset := h.offset_le
    rw [tokensIn_of_next? s hx, if_neg (by omega), List.nil_append, ih hle]

/-- Tokens inside a span are taken. -/
lemma Reads.tokensIn_append (h : Reads r t xs r' u) (hstart : s.start ≤ r.offset)
    (hstop : r'.offset ≤ s.stop) : r.tokensIn s t = xs ++ r'.tokensIn s u := by
  induction h with
  | nil => rfl
  | cons hx h ih =>
    have hlt := offset_lt_step hx
    have hoffset := h.offset_le
    rw [tokensIn_of_next? s hx, if_pos (by omega), ih (by omega) hstop]
    rfl

/-- Tokens behind a span are left out. -/
lemma tokensIn_eq_nil (r : Reader) (t : Text) (hle : s.stop ≤ r.offset) : r.tokensIn s t = [] := by
  fun_induction r.tokensIn s t with
  | case1 => rfl
  | case2 r c t ih =>
    have hlt : r.offset < (r.step (Token.read r.previous r.resumes c t).1).offset :=
      offset_lt_step (t := c :: t) rfl
    rw [if_neg (by omega), ih (by omega)]
    rfl

end Reader

/-- The tokens between the two ends of an interpolation. -/
def Group.tokens (source : Text) (g : Group) : List Token :=
  Reader.tokensIn g.span {} source

namespace Document

variable {source : Text} {path : List Nat} {ts inside : List Target}
  {g : Group} {b : Body} {i : Nat}

/-- The check for blank interpolations looks at all the tokens in them. -/
lemma isBlankGroup_iff_tokens (hts : Target.inside? (read source).targets path = some ts)
    (hg : ts[i]? = some (.group g inside)) (hb : ts[i + 1]? = some (.body b)) :
    Target.isBlankGroup g inside = true ↔ ∀ x ∈ g.tokens source, x.isBlank = true := by
  obtain ⟨ys, r₀, u₀, zs, r, u, f, fs, hgroup⟩ := exists_readsGroup hts hg hb
  have hrow := hgroup.row.reads
  have htokens : g.tokens source = zs := by
    rw [Group.tokens, hgroup.before.tokensIn_of_le (Nat.le_of_eq hgroup.start),
      hrow.tokensIn_append (Nat.le_of_eq hgroup.start.symm) (Nat.le_of_eq hgroup.span_stop.symm),
      Reader.tokensIn_eq_nil r u (Nat.le_of_eq hgroup.span_stop), List.append_nil]
  rw [htokens]
  exact hgroup.tracks.isBlankGroup_iff hrow.offset_eq (fun _ _ _ => hrow.ne_blank_blank)
    hrow.text_ne_nil hgroup.finish

end Document

namespace Target

variable {o : Opening} {g : Group} {inside ts : List Target}

/-- A body follows each group of a complete literal. -/
lemma Completes.exists_append_of_mem (h : Completes o ts) (hg : .group g inside ∈ ts) :
    ∃ front b back, ts = front ++ .group g inside :: .body b :: back := by
  induction h with
  | last => simp at hg
  | @next o b g' inside' ts _ h ih =>
    simp only [List.mem_cons, reduceCtorEq, false_or] at hg
    rcases hg with heq | hg
    · obtain ⟨b', e, rest, rfl, -⟩ := h.exists_body
      exact ⟨[.body b], b', rest, by rw [heq]; rfl⟩
    · obtain ⟨front, b', back, rfl⟩ := ih hg
      exact ⟨.body b :: .group g' inside' :: front, b', back, rfl⟩

end Target

namespace Concatenation

open Target (Completes isBlankGroup)

/-! ### What is declined -/

variable {source : Text} {path : List Nat} {pre literal post : List Target}

/-- A complete literal of a document is declined for an interpolation without code exactly if there
is nothing but blanks in one of its interpolations, and flattened if each has some other token, be
it a comment. -/
theorem edits_eq_emptyInterpolation_iff
    (hts : Target.inside? (Document.read source).targets path = some (pre ++ (literal ++ post)))
    (h : Completes .backtick literal) (q : Quote) :
    ((∃ start, edits literal (.normal q) = .error (.emptyInterpolation start)) ↔
        ∃ g inside, .group g inside ∈ literal ∧ ∀ x ∈ g.tokens source, x.isBlank = true) ∧
      ((∃ es, edits literal (.normal q) = .ok es) ↔
        ∀ g inside, .group g inside ∈ literal → ∃ x ∈ g.tokens source, x.isBlank = false) := by
  have hblank : ∀ g inside, .group g inside ∈ literal →
      (isBlankGroup g inside = false ↔ ∃ x ∈ g.tokens source, x.isBlank = false) := by
    intro g inside hg
    obtain ⟨front, b, back, rfl⟩ := h.exists_append_of_mem hg
    have hsplit : pre ++ (front ++ .group g inside :: .body b :: back ++ post)
        = (pre ++ front) ++ .group g inside :: .body b :: (back ++ post) := by
      simp
    rw [hsplit] at hts
    generalize pre ++ front = before at hts
    have hget : (before ++ .group g inside :: .body b :: (back ++ post))[before.length]?
        = some (.group g inside) := by
      simp
    have hnext : (before ++ .group g inside :: .body b :: (back ++ post))[before.length + 1]?
        = some (.body b) := by
      simp
    rw [← Bool.not_eq_true, Document.isBlankGroup_iff_tokens hts hget hnext]
    simp
  rcases edits_of_completes h q with ⟨hnone, es, hes⟩ | ⟨⟨g, inside, hg, hgroup⟩, start, hstart⟩
  · have hcode : ∀ g inside, .group g inside ∈ literal → ∃ x ∈ g.tokens source, x.isBlank = false :=
      fun g inside hg => (hblank g inside hg).mp (hnone g inside hg)
    refine ⟨iff_of_false (by simp [hes]) ?_, iff_of_true ⟨es, hes⟩ hcode⟩
    rintro ⟨g, inside, hg, hall⟩
    obtain ⟨x, hx, hnot⟩ := hcode g inside hg
    simp [hall x hx] at hnot
  · have hnot := mt (hblank g inside hg).mpr (by simp [hgroup])
    refine ⟨iff_of_true ⟨start, hstart⟩ ⟨g, inside, hg, by simpa using hnot⟩, ?_⟩
    exact iff_of_false (by simp [hstart]) fun hcode => hnot (hcode g inside hg)

/-- A template with a comment in its first interpolation and a blank in its second one. -/
theorem edits_eq_emptyInterpolation_iff_comment :
    ∃ literal, Target.inside? (Document.read "f(`$\x7b/**/\x7da$\x7b \x7d`)".toList).targets []
        = some ([] ++ (literal ++ [])) ∧
      Completes .backtick literal ∧
      ((∃ start, edits literal (.normal .double) = .error (.emptyInterpolation start)) ↔
        ∃ g inside, .group g inside ∈ literal ∧
          ∀ x ∈ g.tokens "f(`$\x7b/**/\x7da$\x7b \x7d`)".toList, x.isBlank = true) ∧
      ((∃ es, edits literal (.normal .double) = .ok es) ↔
        ∀ g inside, .group g inside ∈ literal →
          ∃ x ∈ g.tokens "f(`$\x7b/**/\x7da$\x7b \x7d`)".toList, x.isBlank = false) := by
  have hts : Target.inside? (Document.read "f(`$\x7b/**/\x7da$\x7b \x7d`)".toList).targets []
      = some ([] ++ ([.body ⟨.template .backtick (some .interpolation), [], ⟨2, 5⟩⟩,
        .group ⟨false, ⟨5, 5⟩, ⟨9, 9⟩, ⟨5, 9⟩⟩ [],
        .body ⟨.template .brace (some .interpolation), ['a'], ⟨9, 13⟩⟩,
        .group ⟨false, ⟨13, 14⟩, ⟨13, 14⟩, ⟨13, 14⟩⟩ [],
        .body ⟨.template .brace (some .backtick), [], ⟨14, 16⟩⟩] ++ [])) := by
    cbv
  have h : Completes .backtick [.body ⟨.template .backtick (some .interpolation), [], ⟨2, 5⟩⟩,
      .group ⟨false, ⟨5, 5⟩, ⟨9, 9⟩, ⟨5, 9⟩⟩ [],
      .body ⟨.template .brace (some .interpolation), ['a'], ⟨9, 13⟩⟩,
      .group ⟨false, ⟨13, 14⟩, ⟨13, 14⟩, ⟨13, 14⟩⟩ [],
      .body ⟨.template .brace (some .backtick), [], ⟨14, 16⟩⟩] :=
    .next rfl (.next rfl (.last rfl))
  exact ⟨_, hts, h, edits_eq_emptyInterpolation_iff hts h .double⟩

/-- There is nothing but a comment in the interpolation, but the template is flattened: an operand
is missing between two plus signs. -/
theorem edits_eq_ok_of_comment :
    ∃ b g b',
      (Document.read "`a$\x7b/* c */\x7db`".toList).targets = [.body b, .group g [], .body b'] ∧
      Completes .backtick [.body b, .group g [], .body b'] ∧
      g.tokens "`a$\x7b/* c */\x7db`".toList = [.comment "/* c */".toList] ∧
      edits [.body b, .group g [], .body b'] (.normal .single)
        = .ok [⟨⟨0, 4⟩, "'a' + ".toList⟩, ⟨⟨11, 14⟩, " + 'b'".toList⟩] := by
  refine ⟨⟨.template .backtick (some .interpolation), ['a'], ⟨0, 4⟩⟩,
    ⟨false, ⟨4, 4⟩, ⟨11, 11⟩, ⟨4, 11⟩⟩,
    ⟨.template .brace (some .backtick), ['b'], ⟨11, 14⟩⟩, ?_, .next rfl (.last rfl), ?_, rfl⟩
  · cbv
  · cbv

end Concatenation

end Requote
