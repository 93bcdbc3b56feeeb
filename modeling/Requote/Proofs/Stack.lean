import Requote.Proofs.Interpolation

/-!
# What reading depends on

Of all that the reader keeps, little decides how it goes on: which brackets are open in each open
interpolation, and whether the character in front bars a word from being an operator. The same row
of tokens is read wherever these agree. It is even read where some interpolations around are
missing, as long as the row closes none of those.
-/

namespace Requote

namespace Token

/-- What a token does to the open brackets. There is a list of them for each open interpolation,
innermost first. -/
def onStack : Token → List (List Bracket) → List (List Bracket)
  | body d _,  s => (if !d.isLast then [[]] else []) ++ (if d.isFirst then s else s.tail)
  | opening b, s => s.modifyHead fun brackets => b :: brackets
  | closing b, s =>
    s.modifyHead fun brackets => if brackets.head? = some b then brackets.tail else brackets
  | _,         s => s

/-- The problem that a token is with some brackets open, if it is one. -/
def problems (offset : Nat) : Token → List (List Bracket) → List Diagnostic
  | body d _,  _             => if d.isTerminated then [] else [.unterminated d.kind offset]
  | closing b, brackets :: _ =>
    if brackets.head? = some b then [] else [.mismatchedBracket b offset]
  | _,         _             => []

variable {previous : Option Char} {t u : Text} {x : Token} {s T : List (List Bracket)}

/-- A stack that more is under stays so, unless the token ends an interpolation of that. -/
lemma exists_onStack_append (hx : x.isResuming = true → s ≠ []) :
    ∃ T', T'.length = T.length ∧ x.onStack (s ++ T) = x.onStack s ++ T' := by
  cases s with
  | cons brackets s =>
    refine ⟨T, rfl, ?_⟩
    cases x with
    | body d t => cases hd : d.isFirst <;> simp [onStack, hd]
    | opening b | closing b | comment t | operator t | blank t | other t => simp [onStack]
  | nil =>
    cases x with
    | body d t =>
      have hd : d.isFirst = true := by
        by_contra hd
        exact hx (by simpa [isResuming] using hd) rfl
      exact ⟨T, rfl, by simp [onStack, hd]⟩
    | opening b | closing b => exact ⟨_, List.length_modifyHead, rfl⟩
    | comment t | operator t | blank t | other t => exact ⟨T, rfl, rfl⟩

/-- With less under the stack there are no more problems. -/
lemma problems_of_append {offset offset' : Nat} (h : x.problems offset (s ++ T) = []) :
    x.problems offset' s = [] := by
  cases x with
  | closing b =>
    cases s with
    | nil => rfl
    | cons brackets s =>
      simp only [List.cons_append, problems] at h ⊢
      split at h
      · rename_i hb
        rw [if_pos hb]
      · simp at h
  | body d t => simpa [problems] using h
  | opening b | comment t | operator t | blank t | other t => rfl

/-- Whether a brace ends an interpolation only matters to a token that is such a brace. -/
lemma next?_resumes (h : next? previous true t = some (x, u)) (hx : x.isResuming = false) :
    next? previous false t = some (x, u) := by
  cases t with
  | nil => simp [next?] at h
  | cons c t =>
    by_cases hc : c = '}'
    · subst hc
      have hread : read previous true '}' t
          = (body (.template .brace (readTemplate t).ended) (readTemplate t).body,
            (readTemplate t).rest) := by
        simp [read, Quote.ofChar?]
      simp only [next?, hread, Option.some.injEq, Prod.mk.injEq] at h
      simp [← h.1, isResuming, Delimiters.isFirst] at hx
    · simpa [next?, read, hc] using h

end Token

namespace Reader

variable {r r' s : Reader} {t u v : Text} {x : Token} {xs ys : List Token} {n : Nat}

/-! ### The open brackets -/

/-- The open brackets of each open interpolation, innermost first. -/
def stack (r : Reader) : List (List Bracket) :=
  r.frames.map Frame.brackets

lemma length_stack (r : Reader) : r.stack.length = r.frames.length := by
  simp [stack]

lemma stack_eq_nil : r.stack = [] ↔ r.frames = [] := by
  simp [stack]

lemma resumes_eq (r : Reader) :
    r.resumes = r.stack.head?.any fun brackets => !brackets.contains .curly := by
  cases h : r.frames <;> simp [resumes, stack, h, Frame.resumes]

lemma stack_opened_append (x : Token) (stop : Nat) (fs : List Frame) :
    (opened x stop ++ fs).map Frame.brackets
      = (if x.isOpening then [[]] else []) ++ fs.map Frame.brackets := by
  cases hx : x.isOpening <;> simp [opened, hx]

/-- What a token does to the open brackets depends on them only. -/
lemma stack_step (hx : x.isResuming = true → r.frames ≠ []) :
    (r.step x).stack = x.onStack r.stack := by
  cases hresuming : x.isResuming with
  | false =>
    rw [stack, frames_step_of_not_isResuming r hresuming, stack_opened_append]
    cases hf : r.frames <;> cases x <;>
      simp_all [stack, Token.onStack, Token.isOpening, Token.isResuming, Frame.take, Frame.note]
  | true =>
    cases hf : r.frames with
    | nil => exact absurd hf (hx hresuming)
    | cons f fs =>
      rw [stack, frames_step_of_isResuming hresuming hf, stack_opened_append]
      cases fs <;> cases x <;>
        simp_all [stack, Token.onStack, Token.isOpening, Token.isResuming, Frame.take, Frame.note]

/-! ### The problems -/

lemma diagnostics_addTarget (r : Reader) (a : Target) :
    (r.addTarget a).diagnostics = r.diagnostics := by
  rw [addTarget_eq]

lemma diagnostics_closeFrame (r : Reader) (stop : Nat) :
    (r.closeFrame stop).diagnostics = r.diagnostics := by
  cases hf : r.frames with
  | nil => rw [closeFrame_of_frames_eq_nil hf]
  | cons f fs =>
    rw [closeFrame_of_frames_eq_cons hf, diagnostics_addTarget]
    rfl

lemma diagnostics_addBody (r : Reader) (d : Delimiters) (t : Text) (s : Span) :
    (r.addBody d t s).diagnostics
      = r.diagnostics ++ if d.isTerminated then [] else [.unterminated d.kind s.start] := by
  simp only [addBody]
  split <;> simp [diagnostics_addTarget, addDiagnostic]

lemma diagnostics_closeBracket (r : Reader) (b : Bracket) (offset : Nat) :
    (r.closeBracket b offset).diagnostics
      = r.diagnostics ++ (Token.closing b).problems offset r.stack := by
  simp only [closeBracket]
  split
  · rename_i hf
    simp [stack, hf, Token.problems]
  · rename_i f frames hf
    split <;> rename_i hb <;> simp [stack, hf, hb, Token.problems, addEvent, addDiagnostic]

lemma stack_note (r : Reader) (x : Token) (s : Span) : (r.note x s).stack = r.stack := by
  rw [stack, frames_note, stack]
  cases r.frames <;> rfl

/-- The problem that a token is depends on the open brackets only. -/
lemma diagnostics_step (r : Reader) (x : Token) :
    (r.step x).diagnostics = r.diagnostics ++ x.problems r.offset r.stack := by
  have hact :
      (r.step x).diagnostics = (r.act x ⟨r.offset, r.offset + x.text.size⟩).diagnostics := rfl
  have hnote : ∀ (r : Reader) s, (r.note x s).diagnostics = r.diagnostics := fun _ _ => rfl
  rw [hact]
  cases x with
  | body d t =>
    have hopen : ∀ (r : Reader) n, (r.openFrame n).diagnostics = r.diagnostics := fun _ _ => rfl
    rw [act_body]
    split <;> split <;>
      simp [hopen, diagnostics_addBody, hnote, diagnostics_closeFrame, Token.problems]
  | closing b =>
    rw [act, diagnostics_closeBracket, stack_note]
    rfl
  | opening b | operator t | comment t | blank t | other t =>
    simp [act, Token.problems, hnote, modifyFrame]

/-! ### With fewer interpolations around -/

/-- A row of tokens that ends none of the `n` outermost open interpolations. -/
def Stays (n : Nat) : Reader → List Token → Prop
  | _, []      => True
  | r, x :: xs => (x.isResuming = true → n < r.frames.length) ∧ Stays n (r.step x) xs

lemma stays_append : Stays n r (xs ++ ys) ↔ Stays n r xs ∧ Stays n (xs.foldl step r) ys := by
  induction xs generalizing r with
  | nil => simp [Stays]
  | cons x xs ih => simp [Stays, ih, and_assoc]

/-- The state after a row only depends on the tokens of the row. -/
lemma Reads.eq_foldl (h : Reads r t xs r' v) : r' = xs.foldl step r := by
  induction h with
  | nil => rfl
  | cons _ _ ih => exact ih

lemma Reads.stays_zero (h : Reads r t xs r' v) : Stays 0 r xs := by
  induction h with
  | nil => trivial
  | cons hx _ ih =>
    refine ⟨?_, ih⟩
    intro hresuming
    obtain ⟨f, fs, hf⟩ := exists_frames_of_isResuming hx hresuming
    simp [hf]

lemma Within.stays (h : Within n r t xs r' v) : Stays (n + 1) r xs := by
  induction h with
  | nil => trivial
  | snoc h hx hk ih =>
    refine stays_append.mpr ⟨ih, ?_, trivial⟩
    rwa [← h.reads.eq_foldl]

/-- A state of the reader that agrees with another one, apart from the `n` outermost interpolations,
which are missing, and from what was found so far. -/
structure Follows (n : Nat) (r s : Reader) : Prop where
  bars        : Token.bars s.previous = Token.bars r.previous
  stack       : ∃ T, T.length = n ∧ r.stack = s.stack ++ T
  diagnostics : s.diagnostics = []

lemma Follows.next? (h : Follows n r s) (hx : Token.next? r.previous r.resumes t = some (x, u))
    (hstays : x.isResuming = true → n < r.frames.length) :
    Token.next? s.previous s.resumes t = some (x, u) := by
  obtain ⟨T, hT, hstack⟩ := h.stack
  rw [Token.next?_previous h.bars]
  cases hs : s.stack with
  | cons brackets S => simpa [resumes_eq, hstack, hs] using hx
  | nil =>
    have hresumes : s.resumes = false := by simp [resumes_eq, hs]
    rw [hresumes]
    cases hr : r.resumes with
    | false => rwa [hr] at hx
    | true =>
      rw [hr] at hx
      refine Token.next?_resumes hx ?_
      -- all that is open is missing, so the token ends none of it
      by_contra hresuming
      have hlt := hstays (by simpa using hresuming)
      rw [← length_stack, hstack, hs, List.nil_append, hT] at hlt
      exact Nat.lt_irrefl n hlt

lemma Follows.step (h : Follows n r s) (hx : Token.next? r.previous r.resumes t = some (x, u))
    (hstays : x.isResuming = true → n < r.frames.length) (hd : (r.step x).diagnostics = []) :
    Follows n (r.step x) (s.step x) := by
  obtain ⟨T, hT, hstack⟩ := h.stack
  have hne := (Token.next?_eq_some hx).2
  have hs : x.isResuming = true → s.stack ≠ [] := by
    intro hresuming hnil
    have hlt := hstays hresuming
    rw [← length_stack, hstack, hnil, List.nil_append, hT] at hlt
    exact Nat.lt_irrefl n hlt
  obtain ⟨T', hT', happend⟩ := Token.exists_onStack_append (T := T) hs
  refine ⟨?_, ⟨T', hT'.trans hT, ?_⟩, ?_⟩
  · rw [previous_step hne, previous_step hne]
  · rw [stack_step fun hresuming => mt stack_eq_nil.mpr (hs hresuming), ← happend, ← hstack]
    refine stack_step fun hresuming => ?_
    obtain ⟨f, fs, hf⟩ := exists_frames_of_isResuming hx hresuming
    simp [hf]
  · rw [diagnostics_step, hstack, List.append_eq_nil_iff] at hd
    rw [diagnostics_step, h.diagnostics, List.nil_append]
    exact Token.problems_of_append hd.2

lemma Reads.diagnostics_prefix (h : Reads r t xs r' v) : r.diagnostics <+: r'.diagnostics := by
  induction h with
  | nil => exact List.prefix_rfl
  | @cons r r' t u v x xs _ _ ih =>
    refine List.IsPrefix.trans ?_ ih
    rw [diagnostics_step]
    exact List.prefix_append _ _

lemma Reads.diagnostics_eq_nil (h : Reads r t xs r' v) (hd : r'.diagnostics = []) :
    r.diagnostics = [] :=
  List.prefix_nil.mp (hd ▸ h.diagnostics_prefix)

/-- A row without problems is read just the same with fewer interpolations around. -/
lemma Reads.follows (h : Reads r t xs r' v) (hstays : Stays n r xs) (hd : r'.diagnostics = [])
    (hs : Follows n r s) : ∃ s', Reads s t xs s' v ∧ Follows n r' s' := by
  induction h generalizing s with
  | nil => exact ⟨s, .nil _ _, hs⟩
  | @cons r r' t u v x xs hx h ih =>
    obtain ⟨s', hreads, hs'⟩ := ih hstays.2 hd (hs.step hx hstays.1 (h.diagnostics_eq_nil hd))
    exact ⟨s', .cons (hs.next? hx hstays.1) hreads, hs'⟩

end Reader

/-- The code of an interpolation closes none of those around it. -/
lemma Document.ReadsGroup.stays_mid {source : Text} {g : Group} {inside : List Target} {b : Body}
    {ys lead mid trail : List Token} {r₀ r₁ r₂ r : Reader} {u₀ u₁ u₂ u : Text} {f : Frame}
    {fs : List Frame} (h : ReadsGroup source g inside b ys r₀ u₀ (lead ++ (mid ++ trail)) r u f fs)
    (hparts : ReadsParts g r₀ u₀ lead r₁ u₁ mid r₂ u₂ trail r u) :
    Reader.Stays (fs.length + 1) r₁ mid := by
  have hstays := h.row.stays
  rw [Reader.stays_append, ← hparts.reads_lead.eq_foldl, Reader.stays_append] at hstays
  exact hstays.2.1

end Requote
