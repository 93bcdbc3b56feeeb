import Requote.Proofs.Outcomes
import Requote.Proofs.Relocation
import Requote.Proofs.Rereading

/-!
# Operands on their own

The operand that the code of an interpolation becomes is put into an interpolation of its own, which
is all there is. It is read there as it was: the interpolations around it are missing, a parenthesis
may be open around it, and all places are shifted. A bracket that closes none of the code would
close this parenthesis, but it is a problem, so there is none in a document without problems. With
the parenthesis open no operator counts as one that binds no tighter than `+`.
-/

namespace Requote

/-! ### Shifting -/

/-- A body with its places shifted. -/
def Body.shifted (n : Nat) (b : Body) : Body :=
  { b with span := b.span.move (· + n) }

/-- Targets with all their places shifted. -/
def Target.shiftAll (n : Nat) (ts : List Target) : List Target :=
  moveAll (· + n) (Body.shifted n) ts

/-- An open interpolation with all its places shifted. -/
def Frame.shift (n : Nat) (f : Frame) : Frame :=
  f.move (· + n) (Body.shifted n)

namespace Reader

variable {r r' s s' : Reader} {t u v : Text} {x : Token} {xs : List Token} {b : Bracket}
  {a a' : Frame} {fs : List Frame} {k m n : Nat} {low : Bool}

/-- A state of the reader with all its places shifted. -/
def shift (n : Nat) (r : Reader) : Reader :=
  r.move (· + n) (Body.shifted n) r.previous

lemma shift_step (n : Nat) (r : Reader) (hx : x.text ≠ []) :
    (r.step x).shift n = (r.shift n).step x :=
  move_step _ _ _ r hx (Nat.add_right_comm ..) fun _ _ => rfl

lemma resumes_shift (n : Nat) (r : Reader) : (r.shift n).resumes = r.resumes :=
  resumes_move r

lemma stack_shift (n : Nat) (r : Reader) : (r.shift n).stack = r.stack := by
  simp only [shift, move, stack, List.map_map]
  rfl

lemma frames_shift (n : Nat) (r : Reader) : (r.shift n).frames = r.frames.map (Frame.shift n) := rfl

lemma length_frames_shift (n : Nat) (r : Reader) : (r.shift n).frames.length = r.frames.length := by
  simp [shift, move]

/-! ### The targets outside all interpolations -/

/-- While an interpolation stays open, nothing is added outside. -/
lemma targets_step_of_open (hf : r.frames ≠ [])
    (hx : x.isResuming = true → 1 < r.frames.length) : (r.step x).targets = r.targets := by
  cases hresuming : x.isResuming with
  | false =>
    rw [targets_step, leaving_of_not_isResuming r hresuming, if_neg hf, List.append_nil]
  | true =>
    have hlt := hx hresuming
    obtain ⟨f, f', fs, hfs⟩ : ∃ f f' fs, r.frames = f :: f' :: fs := by
      match h : r.frames with
      | [] | [_] => simp [h] at hlt
      | f :: f' :: fs => exact ⟨f, f', fs, rfl⟩
    rw [targets_step, leaving_of_isResuming r hresuming, targets_closeFrame hfs,
      frames_closeFrame hfs]
    simp

/-! ### Alone in an interpolation -/

/-- The brackets that are open around an operand. -/
def around (low : Bool) : List Bracket :=
  if low then [.round] else []

/-- An interpolation that stands for another one, with brackets around what is read in it. -/
structure StandsFor (low : Bool) (a a' : Frame) : Prop where
  inside      : a'.inside = a.inside
  brackets    : a'.brackets = a.brackets ++ around low
  lowPriority : a'.lowPriority = (a.lowPriority && !low)

/-- What a token does to an interpolation, it does to one that stands for it, unless it is a closing
bracket that closes nothing. -/
lemma StandsFor.take (h : StandsFor low a a') (sp : Span)
    (hx : ∀ b, x = .closing b → a.brackets.head? = some b) :
    StandsFor low (a.take x sp) (a'.take x sp) := by
  obtain ⟨hinside, hbrackets, hlow⟩ := h
  cases x with
  | body d t => exact ⟨congrArg (· ++ [_]) hinside, hbrackets, hlow⟩
  | opening b => exact ⟨hinside, congrArg (b :: ·) hbrackets, hlow⟩
  | closing b =>
    refine ⟨hinside, ?_, hlow⟩
    obtain ⟨brackets, hb⟩ := List.head?_eq_some_iff.mp (hx b rfl)
    simp [Frame.take, hbrackets, hb]
  | operator t =>
    refine ⟨hinside, hbrackets, ?_⟩
    cases low <;> simp [Frame.take, hbrackets, hlow, around]
  | comment t | blank t | other t => exact ⟨hinside, hbrackets, hlow⟩

lemma StandsFor.resumes (h : StandsFor low a a') : a'.resumes = a.resumes := by
  cases low <;> simp [Frame.resumes, h.brackets, around]

/-- A state that reads the same as another one, where an interpolation with `n` others around it
stands alone. -/
structure Isolates (low : Bool) (n : Nat) (r s : Reader) : Prop where
  offset : s.offset = r.offset
  bars   : Token.bars s.previous = Token.bars r.previous
  frames : ∃ top a a' fs, r.frames = top ++ a :: fs ∧ fs.length = n ∧ s.frames = top ++ [a'] ∧
    StandsFor low a a'

lemma Isolates.resumes (h : Isolates low n r s) : s.resumes = r.resumes := by
  obtain ⟨top, a, a', fs, hr, -, hs, hstands⟩ := h.frames
  cases top <;> simp [Reader.resumes, hr, hs, hstands.resumes]

lemma Isolates.length_frames (h : Isolates low n r s) :
    s.frames.length + n = r.frames.length ∧ s.frames ≠ [] := by
  obtain ⟨top, a, a', fs, hr, hn, hs, -⟩ := h.frames
  simp [hr, hs, ← hn]
  omega

/-- With no other interpolation on top, one state stands in the interpolation that the other one
stands alone in. -/
lemma Isolates.exists_frame (h : Isolates low n r s) (hr : r.frames = a :: fs)
    (hn : fs.length = n) :
    ∃ a', s.frames = [a'] ∧ StandsFor low a a' := by
  obtain ⟨top, c, c', fs', hr', hn', hs, hstands⟩ := h.frames
  rw [hr] at hr'
  obtain rfl : top = [] := by
    have hlength := congrArg List.length hr'
    simp only [List.length_cons, List.length_append, hn, hn'] at hlength
    exact List.length_eq_zero_iff.mp (by omega)
  obtain ⟨rfl, -⟩ := List.cons.inj hr'
  exact ⟨c', hs, hstands⟩

/-- Both states go on in the same way. -/
lemma Isolates.step (h : Isolates low n r s) (hne : x.text ≠ [])
    (hstays : x.isResuming = true → n + 1 < r.frames.length)
    (hproblems : x.problems r.offset r.stack = []) : Isolates low n (r.step x) (s.step x) := by
  obtain ⟨top, a, a', fs, hr, hn, hs, hstands⟩ := h.frames
  refine ⟨?_, ?_, ?_⟩
  · rw [Reader.step, Reader.step, h.offset]
  · rw [previous_step hne, previous_step hne]
  cases hresuming : x.isResuming with
  | false =>
    rw [frames_step_of_not_isResuming r hresuming, frames_step_of_not_isResuming s hresuming,
      h.offset, hr, hs]
    cases top with
    | nil =>
      have hclosing : ∀ b, x = .closing b → a.brackets.head? = some b := by
        rintro b rfl
        by_contra hb
        simp [stack, hr, Token.problems, hb] at hproblems
      exact ⟨_, _, _, fs, rfl, hn, rfl, hstands.take _ hclosing⟩
    | cons c top =>
      exact ⟨_, a, a', fs, (List.append_assoc _ (_ :: top) _).symm, hn,
        (List.append_assoc _ (_ :: top) _).symm, hstands⟩
  | true =>
    cases top with
    | nil =>
      have hlt := hstays hresuming
      simp [hr, hn] at hlt
    | cons c top =>
      rw [frames_step_of_isResuming hresuming (by rw [hr, List.cons_append]),
        frames_step_of_isResuming hresuming (by rw [hs, List.cons_append]), h.offset]
      cases top with
      | nil =>
        have hstands' : StandsFor low { a with inside := a.inside ++ [c.finish r.offset] }
            { a' with inside := a'.inside ++ [c.finish r.offset] } :=
          ⟨congrArg (· ++ [_]) hstands.inside, hstands.brackets, hstands.lowPriority⟩
        refine ⟨_, _, _, fs, rfl, hn, rfl, hstands'.take _ ?_⟩
        rintro b rfl
        simp [Token.isResuming] at hresuming
      | cons d top =>
        exact ⟨_, a, a', fs, (List.append_assoc _ (_ :: top) _).symm, hn,
          (List.append_assoc _ (_ :: top) _).symm, hstands⟩

/-- A row without problems is read just the same, up to a shift, where its interpolation stands
alone. -/
lemma Reads.isolates (h : Reads r t xs r' v) (hstays : Stays (n + 1) r xs)
    (hd : r'.diagnostics = []) (hs : Isolates low n (r.shift k) (s.shift m)) :
    ∃ s', Reads s t xs s' v ∧ Isolates low n (r'.shift k) (s'.shift m) ∧
      s'.targets = s.targets := by
  induction h generalizing s with
  | nil => exact ⟨s, .nil _ _, hs, rfl⟩
  | @cons r r' t u v x xs hx h ih =>
    have hne := (Token.next?_eq_some hx).2
    have hproblems : x.problems (r.shift k).offset (r.shift k).stack = [] := by
      have hstep := h.diagnostics_eq_nil hd
      rw [diagnostics_step, List.append_eq_nil_iff] at hstep
      rw [stack_shift]
      exact Token.problems_of_append (T := []) (by simpa using hstep.2)
    have hs₁ := hs.step hne (by rw [length_frames_shift]; exact hstays.1) hproblems
    rw [← shift_step k r hne, ← shift_step m s hne] at hs₁
    obtain ⟨s', hreads, hs', htargets⟩ := ih hstays.2 hd hs₁
    refine ⟨s', .cons ?_ hreads, hs', htargets.trans ?_⟩
    · have hresumes : s.resumes = r.resumes := by
        rw [← resumes_shift m s, hs.resumes, resumes_shift]
      rw [hresumes, ← hx]
      exact Token.next?_previous hs.bars
    · obtain ⟨hlength, hnil⟩ := hs.length_frames
      rw [length_frames_shift, length_frames_shift] at hlength
      refine targets_step_of_open (by simpa [shift, Reader.move] using hnil) fun hresuming => ?_
      have := hstays.1 hresuming
      omega

/-! ### Code at any depth -/

/-- Blanks change nothing but where the blanks of the innermost interpolation are. -/
lemma Reads.frames_of_blank {f : Frame} (h : Reads r t xs r' u)
    (hxs : xs = [] ∨ ∃ w, xs = [.blank w]) (hf : r.frames = f :: fs) :
    ∃ f', r'.frames = f' :: fs ∧ f'.inside = f.inside ∧
      f'.brackets = f.brackets ∧ f'.lowPriority = f.lowPriority := by
  rcases hxs with rfl | ⟨w, rfl⟩
  · cases h
    exact ⟨f, hf, rfl, rfl, rfl⟩
  · obtain ⟨rfl, -⟩ := h.eq_step
    rw [frames_step_of_not_isResuming r rfl, hf]
    exact ⟨_, rfl, rfl, rfl, rfl⟩

/-- Code without problems that ends in no line comment is read the same in front of every neutral
character that is not blank. -/
lemma Reads.congr_of_not_isLineComment {y : Char} (h : Reads r t xs r' (y :: u))
    (hy : Token.isNeutral y = true) (hd : r'.diagnostics = [])
    (hlast : ∀ x ∈ xs.getLast?, x.isLineComment = false) {z : Char} (hz : Token.isNeutral z = true)
    (hblank : Text.isBlank z = false) (Z : Text) :
    Reads r (Token.textOf xs ++ z :: Z) xs r' (z :: Z) := by
  refine h.congr (m := []) hy hz ?_ Z
  intro _ x hx
  obtain ⟨front, rfl⟩ := List.getLast?_eq_some_iff.mp hx
  obtain ⟨r₁, v, -, hsingle⟩ := h.split
  obtain ⟨rfl, hnext⟩ := hsingle.eq_step
  rw [diagnostics_step, List.append_eq_nil_iff] at hd
  cases hxblank : x.isBlank with
  | false => exact .inl (Token.isOpen_eq_false (hlast x hx) hxblank hd.2)
  | true =>
    cases x with
    | blank w =>
      obtain ⟨-, hstop⟩ := Token.next?_eq_blank hnext
      exact .inr (.inl ⟨hstop y rfl, hblank⟩)
    | body | opening | closing | operator | comment | other => simp [Token.isBlank] at hxblank

/-- How the code of an interpolation is read that has `n` others around it: from a state in which
there were only blanks in it to one in which it can end, in front of whatever ends the last
token. -/
structure ReadsAlone (g : Group) (inside : List Target) (n : Nat) (r : Reader) (mid : List Token)
    (r' : Reader) : Prop where
  reads       : ∀ z Z, Token.isNeutral z = true → Text.isBlank z = false →
    Reads r (Token.textOf mid ++ z :: Z) mid r' (z :: Z)
  stays       : Stays (n + 1) r mid
  bars        : Token.bars r.previous = false
  offset      : r.offset = g.leading.stop
  start       : ∃ f fs, r.frames = f :: fs ∧ fs.length = n ∧ f.inside = [] ∧ f.brackets = [] ∧
    f.lowPriority = false
  stop        : ∃ f fs, r'.frames = f :: fs ∧ fs.length = n ∧ f.inside = inside ∧
    f.lowPriority = g.lowPriority ∧ f.resumes = true
  diagnostics : r'.diagnostics = []

end Reader

namespace Document

variable {source t u : Text} {path : List Nat} {ts inside : List Target} {i : Nat} {b : Body}
  {g : Group} {ys : List Token} {r : Reader}

/-- A word at the start of an interpolation may be an operator. -/
lemma not_bars_of_group (hts : Target.inside? (read source).targets path = some ts)
    (hg : ts[i]? = some (.group g inside)) (hys : Reader.Reads {} source ys r t)
    (hoffset : r.offset = g.span.start) : Token.bars r.previous = false := by
  obtain ⟨start, stop, l, hchain, -⟩ := exists_chain_of_inside? hts
  -- the body in front of the group opens the interpolation
  obtain ⟨b, hb, hlast, hstart⟩ :
      ∃ b, .body b ∈ ts ∧ b.isLast = false ∧ g.span.start = b.span.stop := by
    cases i with
    | zero =>
      have hfirst :=
        hchain.head?_isFirst (.group g inside) (by rw [List.head?_eq_getElem?]; exact hg)
      simp [Place.isFirst, Target.body?] at hfirst
    | succ j =>
      have hj : j < ts.length := by
        have := (List.getElem?_eq_some_iff.mp hg).1
        omega
      cases hprev : ts[j]? with
      | none => simp [hj] at hprev
      | some a =>
        cases a with
        | group g' inside' => exact absurd (hchain.adjacent hprev hg) id
        | body b =>
          obtain ⟨hlast, hstart⟩ := hchain.adjacent hprev hg
          exact ⟨b, List.mem_of_getElem? hprev, hlast, hstart⟩
  obtain ⟨ys', r', after, zs, hys', hoffset', hspan, hx, -⟩ :=
    exists_reads_of_mem_bodiesOf_read (Target.mem_bodiesOf_of_inside? hts hb)
  obtain ⟨-, rfl, -⟩ : ys = ys' ++ [.body b.delimiters b.text] ∧
      r = r'.step (.body b.delimiters b.text) ∧ t = after := by
    refine hys.eq_of_offset (hys'.append (.single hx)) ?_
    rw [hoffset, hstart, hspan]
    rfl
  exact Reader.not_bars_step_of_isLast_eq_false r' hlast

/-- The code of every interpolation of a document without problems can be read alone, if no line
comment ends where it does. -/
lemma exists_readsAlone (hd : (read source).diagnostics = [])
    (hts : Target.inside? (read source).targets path = some ts)
    (hg : ts[i]? = some (.group g inside)) (hb : ts[i + 1]? = some (.body b))
    (hblank : Target.isBlankGroup g inside = false)
    (hcomment : g.trailing.start ∉ lineComments source) :
    ∃ n r mid r', Reader.ReadsAlone g inside n r mid r' ∧
      source.slice? g.leading.stop g.trailing.start = some (Token.textOf mid) := by
  obtain ⟨start, stop, l, hchain, -⟩ := exists_chain_of_inside? hts
  have hfirst : b.isFirst = false := (hchain.previous_of_body hb).1.mpr ⟨i, g, inside, rfl, hg⟩
  obtain ⟨ys, r₀, u₀, zs, r, u, f, fs, hgroup⟩ := exists_readsGroup hts hg hb
  obtain ⟨lead, mid, trail, r₁, u₁, r₂, u₂, rfl, hparts⟩ := hgroup.exists_parts hblank
  obtain ⟨v, hx⟩ := hgroup.closes
  -- nothing goes wrong on the way, as nothing does up to the end
  have hclean : r.diagnostics = [] := by
    obtain ⟨xs, hxs⟩ := Reader.exists_reads r u
    rw [diagnostics_read, hgroup.before.run_eq, hgroup.row.reads.run_eq] at hd
    exact hxs.diagnostics_eq_nil hd
  have hclean₂ := hparts.reads_trail.diagnostics_eq_nil hclean
  have hbefore := hgroup.before.append hparts.reads_lead
  have hlast : ∀ x ∈ mid.getLast?, x.isLineComment = false := by
    intro x hxlast
    by_contra hx
    refine hcomment ?_
    rw [← hparts.trailing]
    exact (hbefore.offset_mem_lineComments_iff hparts.reads_mid hparts.ne_nil).mpr
      ⟨x, hxlast, by simpa using hx⟩
  obtain ⟨y, w, rfl, hy⟩ := hparts.reads_trail.exists_neutral hparts.trail_blank hx hfirst
  obtain ⟨f₁, hf₁, hinside₁, hbrackets₁, hlow₁⟩ :=
    hparts.reads_lead.frames_of_blank hparts.lead_blank hgroup.opened
  obtain ⟨f₂, fs₂, hf₂⟩ : ∃ f fs, r₂.frames = f :: fs := by
    have hlength := (hparts.reads_trail.of_blank hparts.trail_blank).1
    rw [hgroup.frames] at hlength
    exact List.exists_cons_of_ne_nil (List.ne_nil_of_length_pos (by simp [← hlength]))
  obtain ⟨f', hf', hinside₂, hbrackets₂, hlow₂⟩ :=
    hparts.reads_trail.frames_of_blank hparts.trail_blank hf₂
  obtain ⟨rfl, rfl⟩ : f = f' ∧ fs = fs₂ := List.cons.inj (hgroup.frames.symm.trans hf')
  obtain ⟨hlow, hinside⟩ : f.lowPriority = g.lowPriority ∧ f.inside = inside := by
    obtain ⟨rfl, rfl⟩ := Target.group.inj hgroup.finish
    exact ⟨rfl, rfl⟩
  have hresumes : f.resumes = true := by
    simpa [Reader.resumes, hgroup.frames] using Reader.resumes_of_next? hx hfirst
  refine ⟨fs.length, r₁, mid, r₂, ?_, ?_⟩
  · exact {
      reads := fun z Z hz hzblank =>
        hparts.reads_mid.congr_of_not_isLineComment hy hclean₂ hlast hz hzblank Z
      stays := hgroup.stays_mid hparts
      bars := hparts.reads_lead.not_bars_of_blank hparts.lead_blank
        (not_bars_of_group hts hg hgroup.before hgroup.start)
      offset := hparts.leading
      start := ⟨f₁, fs, hf₁, rfl, hinside₁, hbrackets₁, hlow₁⟩
      stop := by
        refine ⟨f₂, fs, hf₂, rfl, hinside₂.symm.trans hinside, hlow₂.symm.trans hlow, ?_⟩
        rw [← hresumes, Frame.resumes, Frame.resumes, hbrackets₂]
      diagnostics := hclean₂ }
  · rw [← hparts.leading, ← hparts.trailing]
    exact hbefore.slice?_eq hparts.reads_mid

end Document

/-! ### An operand on its own -/

/-- A closing parenthesis leaves a curly bracket open if one is. -/
lemma Frame.resumes_take_closing (f : Frame) (sp : Span) :
    (f.take (.closing .round) sp).resumes = f.resumes := by
  simp only [Frame.resumes, Frame.take, Frame.note]
  split
  · rename_i hb
    obtain ⟨brackets, hb⟩ := List.head?_eq_some_iff.mp hb
    simp [hb]
  · rfl

namespace Reader

variable {r r' s : Reader} {mid : List Token} {g : Group} {inside : List Target} {a f : Frame}
  {n : Nat} {low : Bool} {z : Char}

/-- The code of an interpolation is read in every state where nothing but perhaps a parenthesis is
open in the only interpolation. -/
lemma ReadsAlone.exists_reads (h : ReadsAlone g inside n r mid r') (hs : s.frames = [a])
    (hinside : a.inside = []) (hbrackets : a.brackets = around low) (hlow : a.lowPriority = false)
    (hbars : Token.bars s.previous = false) (hz : Token.isNeutral z = true)
    (hblank : Text.isBlank z = false) (Z : Text) :
    ∃ s' f, Reads s (Token.textOf mid ++ z :: Z) mid s' (z :: Z) ∧ s'.targets = s.targets ∧
      s'.frames = [f] ∧ f.resumes = true ∧ f.lowPriority = (g.lowPriority && !low) ∧
      Target.shiftAll s.offset inside = Target.shiftAll g.leading.stop f.inside := by
  obtain ⟨c, fs, hr, hn, hc⟩ := h.start
  have hisolates : Isolates low n (r.shift s.offset) (s.shift r.offset) := by
    refine ⟨Nat.add_comm .., hbars.trans h.bars.symm, [], c.shift s.offset, a.shift r.offset,
      fs.map (Frame.shift s.offset), ?_, by simpa using hn, ?_, ?_, ?_, ?_⟩
    · rw [frames_shift, hr, List.map_cons, List.nil_append]
    · rw [frames_shift, hs, List.map_singleton, List.nil_append]
    · simp [Frame.shift, Frame.move, hinside, hc, Target.moveAll]
    · simp [Frame.shift, Frame.move, hbrackets, hc]
    · simp [Frame.shift, Frame.move, hlow, hc]
  obtain ⟨s', hreads, hisolates', htargets⟩ :=
    (h.reads z Z hz hblank).isolates h.stays h.diagnostics hisolates
  obtain ⟨f, fs', hr', hn', rfl, hlow', hresumes⟩ := h.stop
  have hr'' : (r'.shift s.offset).frames = f.shift s.offset :: fs'.map (Frame.shift s.offset) := by
    rw [frames_shift, hr', List.map_cons]
  obtain ⟨f'', hs', hstands⟩ := hisolates'.exists_frame hr'' (by simpa using hn')
  obtain ⟨f', hf', rfl⟩ := List.map_eq_singleton_iff.mp hs'
  refine ⟨s', f', hreads, htargets, hf', hstands.resumes.trans hresumes, ?_, ?_⟩
  · rw [← hlow']
    exact hstands.lowPriority
  · rw [← h.offset]
    exact hstands.inside.symm

/-- An operand is read at the start of an interpolation up to a brace that ends it. Its parentheses
hide every operator in it. -/
lemma ReadsAlone.exists_reads_operand {source : Text} (h : ReadsAlone g inside n r mid r')
    (hcode : g.code source = Token.textOf mid) (hs : s.frames = [{ start := s.offset }])
    (hbars : Token.bars s.previous = false) (Z : Text) :
    ∃ xs s' f, Reads s (Concatenation.operand source g ++ '\x7d' :: Z) xs s' ('\x7d' :: Z) ∧
      s'.targets = s.targets ∧ s'.frames = [f] ∧ f.resumes = true ∧ f.lowPriority = false ∧
      Target.shiftAll (s.offset + (if g.lowPriority then 1 else 0)) inside
        = Target.shiftAll g.leading.stop f.inside := by
  cases hlow : g.lowPriority with
  | false =>
    obtain ⟨s', f, hreads, htargets, hf, hresumes, hf_low, hinside⟩ :=
      h.exists_reads (z := '\x7d') hs rfl (show _ = around false from rfl) rfl hbars (by decide)
        (by decide) Z
    refine ⟨mid, s', f, ?_, htargets, hf, hresumes, by simpa [hlow] using hf_low, hinside⟩
    simpa [Concatenation.operand, hlow, hcode] using hreads
  | true =>
    obtain ⟨a, ha, hinside, hbrackets, halow⟩ : ∃ a, (s.step (.opening .round)).frames = [a] ∧
        a.inside = [] ∧ a.brackets = around true ∧ a.lowPriority = false := by
      rw [frames_step_of_not_isResuming s rfl, hs]
      exact ⟨_, rfl, rfl, rfl, rfl⟩
    have hprevious : Token.bars (s.step (.opening .round)).previous = false := by
      rw [previous_step (by simp [Token.text])]
      exact Token.not_bars_of_isNeutral (y := '(') (by decide)
    obtain ⟨s', f, hreads, htargets, hf, hresumes, hf_low, hinside⟩ :=
      h.exists_reads (z := ')') ha hinside hbrackets halow hprevious (by decide) (by decide)
        ('\x7d' :: Z)
    have hopening :
        Token.next? s.previous s.resumes ('(' :: (Token.textOf mid ++ ')' :: '\x7d' :: Z))
        = some (.opening .round, Token.textOf mid ++ ')' :: '\x7d' :: Z) :=
      Token.next?_opening .round _
    have hclosing : Token.next? s'.previous s'.resumes (')' :: '\x7d' :: Z)
        = some (.closing .round, '\x7d' :: Z) :=
      Token.next?_closing (b := .round) (by simp) _
    refine ⟨.opening .round :: (mid ++ [.closing .round]), s'.step (.closing .round),
      f.take (.closing .round) ⟨s'.offset, s'.offset + Text.size [')']⟩, ?_, ?_, ?_,
      (Frame.resumes_take_closing f _).trans hresumes, ?_, ?_⟩
    · have hoperand : Concatenation.operand source g ++ '\x7d' :: Z
          = '(' :: (Token.textOf mid ++ ')' :: '\x7d' :: Z) := by
        simp [Concatenation.operand, hlow, hcode]
      rw [hoperand]
      exact .cons hopening (hreads.append (.single hclosing))
    · rw [targets_step_of_open (by simp [hf]) (by simp [Token.isResuming]), htargets,
        targets_step_of_open (by simp [hs]) (by simp [Token.isResuming])]
    · rw [frames_step_of_not_isResuming s' rfl, hf]
      rfl
    · simpa [Frame.take, Frame.note] using hf_low
    · exact hinside

/-- An empty body that ends the only interpolation leaves both behind. -/
lemma step_of_frames_eq (hf : r.frames = [f]) :
    (r.step (.body (.template .brace (some .backtick)) [])).frames = [] ∧
      (r.step (.body (.template .brace (some .backtick)) [])).targets
        = r.targets ++ [f.finish r.offset,
          .body ⟨.template .brace (some .backtick), [], ⟨r.offset, r.offset + 2⟩⟩] := by
  refine ⟨by rw [frames_step_of_isResuming rfl hf]; rfl, ?_⟩
  obtain ⟨offset, previous, targets, frames, diagnostics, events⟩ := r
  obtain rfl : frames = [f] := hf
  exact List.append_assoc targets [_] [_]

end Reader

namespace Concatenation

variable {source : Text} {path : List Nat} {ts inside : List Target}
  {i : Nat} {b : Body} {g : Group}

/-- Every operand is safe next to `+`. Alone in an interpolation it is read as a group between two
empty bodies, no operator in it binds no tighter than `+`, and the targets in it are those of the
group that it comes from, shifted. Its code may end in anything but a line comment. -/
theorem read_operand (hd : (Document.read source).diagnostics = [])
    (hts : Target.inside? (Document.read source).targets path = some ts)
    (hg : ts[i]? = some (.group g inside)) (hb : ts[i + 1]? = some (.body b))
    (hblank : Target.isBlankGroup g inside = false)
    (hcomment : g.trailing.start ∉ Document.lineComments source) :
    source.slice? g.leading.stop g.trailing.start = some (g.code source) ∧
      ∃ g' inside' stop,
        (Document.read ("`$\x7b".toList ++ (operand source g ++ "\x7d`".toList))).targets
          = [.body ⟨.template .backtick (some .interpolation), [], ⟨0, 3⟩⟩, .group g' inside',
            .body ⟨.template .brace (some .backtick), [], ⟨stop, stop + 2⟩⟩] ∧
        g'.lowPriority = false ∧
        Target.shiftAll (if g.lowPriority then 4 else 3) inside
          = Target.shiftAll g.leading.stop inside' := by
  obtain ⟨n, r, mid, r', halone, hslice⟩ := Document.exists_readsAlone hd hts hg hb hblank hcomment
  have hcode : g.code source = Token.textOf mid := by rw [Group.code, hslice, Option.getD_some]
  refine ⟨hslice.trans (congrArg some hcode.symm), ?_⟩
  let s := ({} : Reader).step (.body (.template .backtick (some .interpolation)) [])
  have hs : s.offset = 3 ∧ s.frames = [{ start := s.offset }] ∧
      s.targets = [.body ⟨.template .backtick (some .interpolation), [], ⟨0, 3⟩⟩] :=
    ⟨rfl, rfl, rfl⟩
  obtain ⟨xs, s', f, hreads, htargets, hf, hresumes, hlow, hinside⟩ :=
    halone.exists_reads_operand hcode hs.2.1 (by decide) ['\x60']
  have hopening : Token.next? none false ("`$\x7b".toList ++ (operand source g ++ "\x7d`".toList))
      = some (.body (.template .backtick (some .interpolation)) [],
        operand source g ++ ['\x7d', '\x60']) :=
    Token.next?_backtick _
  have hclosing : Token.next? s'.previous s'.resumes ['\x7d', '\x60']
      = some (.body (.template .brace (some .backtick)) [], []) := by
    have hbrace : s'.resumes = true := by simpa [Reader.resumes, hf] using hresumes
    rw [hbrace]
    rfl
  obtain ⟨hframes, hadded⟩ := Reader.step_of_frames_eq hf
  obtain ⟨g', hgroup, hlow'⟩ :
      ∃ g', f.finish s'.offset = .group g' f.inside ∧ g'.lowPriority = false :=
    ⟨_, rfl, hlow⟩
  refine ⟨g', f.inside, s'.offset, ?_, hlow', ?_⟩
  · have hrun := ((Reader.Reads.single hopening).append (hreads.append (.single hclosing))).run_eq
    rw [Reader.run] at hrun
    rw [Document.read, hrun, Reader.finish, hframes]
    rw [htargets, hs.2.2, hgroup] at hadded
    exact hadded
  · rw [← hinside, hs.1]
    cases g.lowPriority <;> rfl

set_option maxRecDepth 4000 in
/-- A conditional in an interpolation inside another one. -/
theorem read_operand_nested :
    (Document.read "`$\x7b`$\x7b b?'c':d \x7d`\x7d`".toList).diagnostics = [] ∧
      ∃ ts g inside b,
        Target.inside? (Document.read "`$\x7b`$\x7b b?'c':d \x7d`\x7d`".toList).targets [1]
          = some ts ∧
        ts[1]? = some (.group g inside) ∧ ts[2]? = some (.body b) ∧
        Target.isBlankGroup g inside = false ∧
        g.trailing.start ∉ Document.lineComments "`$\x7b`$\x7b b?'c':d \x7d`\x7d`".toList ∧
        Text.slice? "`$\x7b`$\x7b b?'c':d \x7d`\x7d`".toList g.leading.stop g.trailing.start
          = some (g.code "`$\x7b`$\x7b b?'c':d \x7d`\x7d`".toList) ∧
        ∃ g' inside' stop,
          (Document.read ("`$\x7b".toList
              ++ (operand "`$\x7b`$\x7b b?'c':d \x7d`\x7d`".toList g ++ "\x7d`".toList))).targets
            = [.body ⟨.template .backtick (some .interpolation), [], ⟨0, 3⟩⟩, .group g' inside',
              .body ⟨.template .brace (some .backtick), [], ⟨stop, stop + 2⟩⟩] ∧
          g'.lowPriority = false ∧
          Target.shiftAll (if g.lowPriority then 4 else 3) inside
            = Target.shiftAll g.leading.stop inside' := by
  have hd : (Document.read "`$\x7b`$\x7b b?'c':d \x7d`\x7d`".toList).diagnostics = [] := by
    cbv
  have hts : Target.inside? (Document.read "`$\x7b`$\x7b b?'c':d \x7d`\x7d`".toList).targets [1]
      = some [.body ⟨.template .backtick (some .interpolation), [], ⟨3, 6⟩⟩,
        .group ⟨true, ⟨6, 7⟩, ⟨14, 15⟩, ⟨6, 15⟩⟩ [.body ⟨.quoted .single true, ['c'], ⟨9, 12⟩⟩],
        .body ⟨.template .brace (some .backtick), [], ⟨15, 17⟩⟩] := by
    cbv
  have hcomment : 14 ∉ Document.lineComments "`$\x7b`$\x7b b?'c':d \x7d`\x7d`".toList := by
    rw [Document.lineComments, Reader.lineComments_eq_nil {} (by decide)]
    exact List.not_mem_nil
  exact ⟨hd, _, _, _, _, hts, rfl, rfl, rfl, hcomment,
    read_operand (i := 1) hd hts rfl rfl rfl hcomment⟩

end Concatenation

end Requote
