import Requote.Proofs.Paths

/-!
# Inside an interpolation

While an interpolation is open, the reader works on top of the interpolations around it and leaves
them alone. So the tokens of one interpolation form a row of their own, from the state in which it
was just opened to the state in which a brace closes it.

What the group keeps of this row is where its blanks are. An interpolation that is not blank is made
of at most one blank token, the tokens of its code, and at most one blank token again.
-/

namespace Requote

namespace Token

/-- Whether a token is made of blanks. -/
def isBlank : Token → Bool
  | blank _ => true
  | _       => false

end Token

/-! ### The interpolation that a token is read in -/

namespace Frame

variable {f : Frame} {x : Token} {s : Span}

lemma started_take (f : Frame) (x : Token) (s : Span) : (f.take x s).started = true := by
  cases x <;> rfl

lemma leading_take (hx : x.isBlank = true → f.started = false → f.brackets = []) :
    (f.take x s).leading = if f.started then f.leading else if x.isBlank then some s else none := by
  cases x <;> cases hf : f.started <;> simp_all [take, note, Token.isBlank]

lemma eq_of_mem_trailing_take : ∀ sp ∈ (f.take x s).trailing, sp = s ∧ x.isBlank = true := by
  cases x <;> by_cases hf : f.brackets = [] <;> simp [take, note, Token.isBlank, hf]

lemma inside_take (hx : x.isBlank = true) : (f.take x s).inside = f.inside := by
  match x, hx with
  | .blank w, _ => rfl

end Frame

namespace Reader

variable {r r' r'' : Reader} {t u v source : Text} {x : Token} {xs ys : List Token} {f : Frame}
  {fs s : List Frame} {k : Nat}

lemma exists_frames_of_isResuming (hx : Token.next? r.previous r.resumes t = some (x, u))
    (hresuming : x.isResuming = true) : ∃ f fs, r.frames = f :: fs := by
  cases x with
  | body d s =>
    have hne := frames_ne_nil_of_next? hx (by simpa [Token.isResuming] using hresuming)
    exact List.exists_cons_of_ne_nil hne
  | opening | closing | operator | comment | blank | other => simp [Token.isResuming] at hresuming

/-! ### The row of an interpolation -/

/-- Reading a row of tokens on top of `k` open interpolations and one more, none of which is closed
on the way. -/
inductive Within (k : Nat) (r : Reader) (t : Text) : List Token → Reader → Text → Prop where
  | nil : Within k r t [] r t
  | snoc {r' : Reader} {u v : Text} {x : Token} {xs : List Token} (h : Within k r t xs r' u)
      (hx : Token.next? r'.previous r'.resumes u = some (x, v))
      (hk : x.isResuming = true → k + 1 < r'.frames.length) : Within k r t (xs ++ [x]) (r'.step x) v

lemma Within.reads (h : Within k r t xs r' v) : Reads r t xs r' v := by
  induction h with
  | nil => exact .nil _ _
  | snoc _ hx _ ih => exact ih.append (.single hx)

/-- The interpolations that are open after a token: the one that it opens, or those of before, the
innermost one changed. -/
lemma opened_append_eq {stop : Nat} {L : List Frame} {g : Frame → Frame}
    (hg : ∀ f, (g f).start = f.start) (h : opened x stop ++ L.modifyHead g = s ++ f :: fs) :
    f = { start := stop } ∧ opened x stop ++ L.modifyHead g = f :: fs ∨
      ∃ s' f', L = s' ++ f' :: fs ∧ f'.start = f.start := by
  have hsuffix : ∀ s : List Frame, L.modifyHead g = s ++ f :: fs →
      ∃ s' f', L = s' ++ f' :: fs ∧ f'.start = f.start := by
    intro s hs
    cases L with
    | nil => simp at hs
    | cons a L =>
      cases s with
      | nil =>
        obtain ⟨rfl, rfl⟩ : g a = f ∧ L = fs := by simpa using hs
        exact ⟨[], a, rfl, (hg a).symm⟩
      | cons b s =>
        obtain ⟨-, rfl⟩ : g a = b ∧ L = s ++ f :: fs := by simpa using hs
        exact ⟨a :: s, f, rfl, rfl⟩
  cases hx : x.isOpening with
  | false => exact .inr (hsuffix s (by simpa [opened, hx] using h))
  | true =>
    cases s with
    | nil =>
      refine .inl ⟨?_, h⟩
      simp only [opened, hx, if_true, List.cons_append, List.nil_append] at h
      exact (List.cons.inj h).1.symm
    | cons a s =>
      simp only [opened, hx, if_true, List.cons_append, List.nil_append] at h
      exact .inr (hsuffix s (List.cons.inj h).2)

/-- Every open interpolation was opened in some state on the way, and is read in since then. -/
lemma Reads.exists_within (h : Reads {} source ys r u) (hf : r.frames = s ++ f :: fs) :
    ∃ ys' r₀ u₀ zs, Reads {} source ys' r₀ u₀ ∧ r₀.frames = { start := f.start } :: fs ∧
      r₀.offset = f.start ∧ Within fs.length r₀ u₀ zs r u := by
  refine h.invariant_of_reads (P := fun r u =>
    ∀ s f fs, r.frames = s ++ f :: fs → ∃ ys' r₀ u₀ zs, Reads {} source ys' r₀ u₀ ∧
      r₀.frames = { start := f.start } :: fs ∧ r₀.offset = f.start ∧
      Within fs.length r₀ u₀ zs r u) ?_ (by simp) s f fs hf
  clear h hf
  intro ys r t x u hys hopened hx s f fs hf
  have hys' : Reads {} source (ys ++ [x]) (r.step x) u := hys.append (.single hx)
  -- the interpolations of before go on, those that the token does not close
  have hgoes : ∀ s' f', r.frames = s' ++ f' :: fs → f'.start = f.start →
      (x.isResuming = true → s' ≠ []) →
      ∃ ys' r₀ u₀ zs, Reads {} source ys' r₀ u₀ ∧ r₀.frames = { start := f.start } :: fs ∧
        r₀.offset = f.start ∧ Within fs.length r₀ u₀ zs (r.step x) u := by
    intro s' f' hf' hstart hs'
    obtain ⟨ys', r₀, u₀, zs, hr₀, hfresh, hoffset, hzs⟩ := hopened s' f' fs hf'
    rw [hstart] at hfresh hoffset
    refine ⟨ys', r₀, u₀, zs ++ [x], hr₀, hfresh, hoffset, hzs.snoc hx ?_⟩
    intro hresuming
    have := List.length_pos_iff.mpr (hs' hresuming)
    simp only [hf', List.length_append, List.length_cons]
    omega
  have hfresh : f = { start := r.offset + x.text.size } → (r.step x).frames = f :: fs →
      ∃ ys' r₀ u₀ zs, Reads {} source ys' r₀ u₀ ∧ r₀.frames = { start := f.start } :: fs ∧
        r₀.offset = f.start ∧ Within fs.length r₀ u₀ zs (r.step x) u := by
    rintro rfl hf'
    exact ⟨_, _, _, [], hys', hf', rfl, .nil⟩
  cases hresuming : x.isResuming with
  | false =>
    have hstep := frames_step_of_not_isResuming r hresuming
    rw [hstep] at hf hfresh
    rcases opened_append_eq (fun f => f.start_take _ _) hf with ⟨hf', hfs⟩ | ⟨s', f', hf', hstart⟩
    · exact hfresh hf' hfs
    · exact hgoes s' f' hf' hstart (by simp [hresuming])
  | true =>
    obtain ⟨f₀, fs₀, hf₀⟩ := exists_frames_of_isResuming hx hresuming
    have hstep := frames_step_of_isResuming hresuming hf₀
    rw [hstep] at hf hfresh
    rcases opened_append_eq (by intro f'; rw [Frame.start_take]) hf with
      ⟨hf', hfs⟩ | ⟨s', f', hf', hstart⟩
    · exact hfresh hf' hfs
    · exact hgoes (f₀ :: s') f' (by rw [hf₀, hf', List.cons_append]) hstart (by simp)

end Reader

/-! ### The blanks at either end -/

/-- Where the first token of a row stands, if it is blank. -/
def Token.blankAt (start : Nat) : Option Token → Option Span
  | some (.blank w) => some ⟨start, start + w.size⟩
  | _               => none

/-- What an interpolation keeps of the row of tokens that was read in it so far. -/
structure Frame.Tracks (f : Frame) (start stop : Nat) (zs : List Token) : Prop where
  start_eq : f.start = start
  started  : f.started = !zs.isEmpty
  fresh    : zs = [] → f.brackets = []
  leading  : f.leading = Token.blankAt start zs.head?
  trailing : ∀ sp ∈ f.trailing, ∃ zs' w, zs = zs' ++ [.blank w] ∧
    sp = ⟨start + (Token.textOf zs').size, stop⟩
  inside   : (∀ x ∈ zs, x.isBlank = true) → f.inside = []

namespace Frame.Tracks

variable {f : Frame} {start stop stop' : Nat} {zs : List Token} {x : Token} {inside : List Target}

/-- A token that is read in the interpolation is kept track of. Those of a template inside it may
have left a group. -/
lemma take (h : f.Tracks start stop zs) (hstop : stop = start + (Token.textOf zs).size)
    (hinside : x.isBlank = true → inside = f.inside) :
    ({ f with inside }.take x ⟨stop, stop + x.text.size⟩).Tracks start (stop + x.text.size)
      (zs ++ [x]) := by
  refine ⟨?_, ?_, by simp, ?_, ?_, ?_⟩
  · rw [start_take]
    exact h.start_eq
  · simp [started_take]
  · have hfresh : f.started = false → zs = [] := by simp [h.started]
    rw [leading_take (f := { f with inside }) fun _ hf => h.fresh (hfresh hf)]
    cases zs with
    | nil => cases x <;> simp [h.started, Token.isBlank, Token.blankAt, hstop, Token.text]
    | cons z zs => simpa [h.started] using h.leading
  · intro sp hsp
    obtain ⟨rfl, hblank⟩ := eq_of_mem_trailing_take sp hsp
    cases x with
    | blank w => exact ⟨zs, w, rfl, by rw [hstop]⟩
    | body | opening | closing | operator | comment | other => simp [Token.isBlank] at hblank
  · intro hblank
    have hx := hblank x (by simp)
    rw [inside_take hx]
    exact (hinside hx).trans (h.inside fun y hy => hblank y (List.mem_append_left _ hy))

/-- A token that is read in an interpolation further inside changes nothing. -/
lemma skip (h : f.Tracks start stop zs) (hne : zs ≠ []) (htrailing : f.trailing = none) :
    f.Tracks start stop' (zs ++ [x]) := by
  obtain ⟨z, zs, rfl⟩ := List.exists_cons_of_ne_nil hne
  refine ⟨h.start_eq, ?_, by simp, ?_, by simp [htrailing], ?_⟩
  · simpa using h.started
  · simpa using h.leading
  · intro hblank
    exact h.inside fun y hy => hblank y (List.mem_append_left _ hy)

/-- The blanks at the start are those of the first token. -/
lemma exists_lead (h : f.Tracks start stop zs)
    (hblanks : ∀ w w' zs', zs ≠ .blank w :: .blank w' :: zs') :
    ∃ lead rest, zs = lead ++ rest ∧
      (f.leading.getD ⟨start, start⟩).stop = start + (Token.textOf lead).size ∧
      (lead = [] ∨ ∃ w, lead = [.blank w]) ∧ ∀ x ∈ rest.head?, x.isBlank = false := by
  rw [h.leading]
  cases zs with
  | nil => exact ⟨[], [], rfl, rfl, .inl rfl, by simp⟩
  | cons x zs =>
    cases x with
    | blank w =>
      refine ⟨[.blank w], zs, rfl, by simp [Token.blankAt, Token.text], .inr ⟨w, rfl⟩, ?_⟩
      intro y hy
      cases y with
      | blank w' =>
        obtain ⟨zs, rfl⟩ := List.head?_eq_some_iff.mp hy
        exact absurd rfl (hblanks w w' zs)
      | body | opening | closing | operator | comment | other => rfl
    | body | opening | closing | operator | comment | other =>
      exact ⟨[], _, rfl, rfl, .inl rfl, by simp [Token.isBlank]⟩

/-- The blanks at the end are those of the last token. -/
lemma exists_trail (h : f.Tracks start stop zs) (hstop : stop = start + (Token.textOf zs).size) :
    ∃ rest trail, zs = rest ++ trail ∧
      (f.trailing.getD ⟨stop, stop⟩).start = start + (Token.textOf rest).size ∧
      (trail = [] ∨ ∃ w, trail = [.blank w]) := by
  match htrailing : f.trailing with
  | none => exact ⟨zs, [], by simp, by simpa using hstop, .inl rfl⟩
  | some sp =>
    obtain ⟨zs', w, rfl, rfl⟩ := h.trailing sp htrailing
    exact ⟨zs', [.blank w], rfl, rfl, .inr ⟨w, rfl⟩⟩

/-- An interpolation that is not blank has a token that is not. -/
lemma exists_not_isBlank (h : f.Tracks start stop zs)
    (hstop : stop = start + (Token.textOf zs).size)
    (hblanks : ∀ w w' zs', zs ≠ .blank w :: .blank w' :: zs')
    (hblank : f.inside = [] → ¬ stop ≤ (f.leading.getD ⟨start, start⟩).stop) :
    ∃ x ∈ zs, x.isBlank = false := by
  by_contra hall
  have hall : ∀ x ∈ zs, x.isBlank = true := by simpa using hall
  apply hblank (h.inside hall)
  rw [h.leading]
  match zs with
  | [] => simp [hstop, Token.blankAt]
  | [.blank w] => simp [hstop, Token.blankAt, Token.text]
  | .blank w :: .blank w' :: zs => exact absurd rfl (hblanks w w' zs)
  | .blank w :: .body _ _ :: _ | .blank w :: .opening _ :: _ | .blank w :: .closing _ :: _
  | .blank w :: .operator _ :: _ | .blank w :: .comment _ :: _ | .blank w :: .other _ :: _
  | .body _ _ :: _ | .opening _ :: _ | .closing _ :: _ | .operator _ :: _ | .comment _ :: _
  | .other _ :: _ => simp [Token.isBlank] at hall

/-- An interpolation that is not blank is made of blanks, code, and blanks. -/
lemma split (h : f.Tracks start stop zs) (hstop : stop = start + (Token.textOf zs).size)
    (hblanks : ∀ w w' zs', zs ≠ .blank w :: .blank w' :: zs') {g : Group}
    (hg : f.finish stop = .group g inside) (hblank : Target.isBlankGroup g inside = false) :
    ∃ lead mid trail, zs = lead ++ (mid ++ trail) ∧ mid ≠ [] ∧
      g.leading.stop = start + (Token.textOf lead).size ∧
      g.trailing.start = start + (Token.textOf (lead ++ mid)).size ∧
      (lead = [] ∨ ∃ w, lead = [.blank w]) ∧ (trail = [] ∨ ∃ w, trail = [.blank w]) ∧
      ∀ x ∈ mid.head?, x.isBlank = false := by
  have hgroup : (⟨f.lowPriority, f.leading.getD ⟨f.start, f.start⟩, f.trailing.getD ⟨stop, stop⟩,
      ⟨f.start, stop⟩⟩ : Group) = g ∧ f.inside = inside := by
    simpa [Frame.finish] using hg
  obtain ⟨rfl, rfl⟩ := hgroup
  obtain ⟨lead, rest, hlead, hleading, hlead', hhead⟩ := h.exists_lead hblanks
  obtain ⟨rest', trail, htrail, htrailing, htrail'⟩ := h.exists_trail hstop
  rw [h.start_eq] at hblank ⊢
  obtain ⟨x, hx, hnot⟩ := h.exists_not_isBlank hstop hblanks (by
    intro hin hle
    simp [Target.isBlankGroup, hin, hle] at hblank)
  have hblank_lead : x ∉ lead := by
    rcases hlead' with rfl | ⟨w, rfl⟩ <;> intro hmem <;> simp at hmem
    simp [hmem, Token.isBlank] at hnot
  have hblank_trail : x ∉ trail := by
    rcases htrail' with rfl | ⟨w, rfl⟩ <;> intro hmem <;> simp at hmem
    simp [hmem, Token.isBlank] at hnot
  -- the two ends do not overlap, since the token in between is no part of either
  rcases List.append_eq_append_iff.mp (hlead.symm.trans htrail) with ⟨mid, rfl, rfl⟩ | ⟨c, rfl, rfl⟩
  · have hmid : mid ≠ [] := by
      rintro rfl
      rw [hlead, List.nil_append, List.mem_append] at hx
      exact hx.elim hblank_lead hblank_trail
    refine ⟨lead, mid, trail, hlead, hmid, hleading, htrailing, hlead', htrail', ?_⟩
    intro y hy
    exact hhead y (by rw [List.head?_append_of_ne_nil _ hmid]; exact hy)
  · rw [hlead, List.mem_append] at hx
    exact absurd hx
      (not_or.mpr ⟨hblank_lead, fun hmem => hblank_trail (List.mem_append_right _ hmem)⟩)

end Frame.Tracks

namespace Reader

variable {r r' : Reader} {t v : Text} {zs : List Token} {fs : List Frame}

/-- An interpolation keeps track of its row, and nothing happens to those around it. -/
lemma Within.tracks (h : Within fs.length r t zs r' v)
    (hf : r.frames = { start := r.offset } :: fs) :
    ∃ s f, r'.frames = s ++ f :: fs ∧ f.Tracks r.offset r'.offset zs ∧
      (s ≠ [] → zs ≠ [] ∧ f.trailing = none) := by
  induction h with
  | nil =>
    exact ⟨[], _, hf, ⟨rfl, rfl, fun _ => rfl, rfl, by simp, fun _ => rfl⟩, by simp⟩
  | @snoc r' u v x xs h hx hk ih =>
    obtain ⟨s, f, hframes, htracks, htop⟩ := ih
    have hstop := h.reads.offset_eq
    -- an interpolation that the token opens covers the one that is tracked
    have htake : ∀ inside, (x.isBlank = true → inside = f.inside) →
        ({ f with inside }.take x ⟨r'.offset, r'.offset + x.text.size⟩).Tracks r.offset
          (r'.step x).offset (xs ++ [x]) ∧
        (opened x (r'.offset + x.text.size) ≠ [] → xs ++ [x] ≠ [] ∧
          ({ f with inside }.take x ⟨r'.offset, r'.offset + x.text.size⟩).trailing = none) := by
      intro inside hinside
      refine ⟨htracks.take hstop hinside, ?_⟩
      intro hne
      cases x with
      | body d t => exact ⟨by simp, rfl⟩
      | opening | closing | operator | comment | blank | other =>
        simp [opened, Token.isOpening] at hne
    have hskip : s ≠ [] → f.Tracks r.offset (r'.step x).offset (xs ++ [x]) ∧
        xs ++ [x] ≠ [] ∧ f.trailing = none := by
      intro hs
      obtain ⟨hne, htrailing⟩ := htop hs
      exact ⟨htracks.skip hne htrailing, by simp, htrailing⟩
    cases hresuming : x.isResuming with
    | false =>
      rw [frames_step_of_not_isResuming r' hresuming, hframes]
      cases s with
      | nil =>
        obtain ⟨htake, hopened⟩ := htake f.inside fun _ => rfl
        exact ⟨_, _, rfl, htake, hopened⟩
      | cons a s =>
        obtain ⟨hskip, hne, htrailing⟩ := hskip (by simp)
        exact ⟨_, f, (List.append_assoc _ (_ :: s) _).symm, hskip, fun _ => ⟨hne, htrailing⟩⟩
    | true =>
      have hlength := hk hresuming
      have hblank : x.isBlank = false := by
        cases x with
        | blank w => simp [Token.isResuming] at hresuming
        | body | opening | closing | operator | comment | other => rfl
      cases s with
      | nil => simp [hframes] at hlength
      | cons a s =>
        rw [frames_step_of_isResuming hresuming (by rw [hframes, List.cons_append])]
        cases s with
        | nil =>
          obtain ⟨htake, hopened⟩ := htake (f.inside ++ [a.finish r'.offset]) (by simp [hblank])
          exact ⟨_, _, rfl, htake, hopened⟩
        | cons b s =>
          obtain ⟨hskip, hne, htrailing⟩ := hskip (by simp)
          exact ⟨_, f, (List.append_assoc _ (_ :: s) _).symm, hskip, fun _ => ⟨hne, htrailing⟩⟩

/-- Two runs of blanks are never neighbours. -/
lemma Reads.ne_blank_blank {w w' : Text} (h : Reads r t zs r' v) {zs' : List Token} :
    zs ≠ .blank w :: .blank w' :: zs' := by
  rintro rfl
  cases h with
  | @cons _ _ _ u _ _ _ hx h =>
    cases h with
    | cons hx' _ =>
      obtain ⟨happ, hne⟩ := Token.next?_eq_some hx'
      obtain ⟨hblank, -⟩ := Token.next?_eq_blank hx'
      obtain ⟨-, hstop⟩ := Token.next?_eq_blank hx
      match w', hne with
      | c :: w', _ =>
        have hc := hstop c (by simp [← happ, Token.text])
        rw [hblank c (by simp)] at hc
        exact Bool.false_ne_true hc.symm

end Reader

/-! ### The interpolations of a document -/

namespace Document

variable {source : Text} {path : List Nat} {ts inside : List Target}
  {i : Nat} {g : Group} {b : Body}

/-- How an interpolation of a document is read: the row of tokens that it is made of, from the state
in which it was just opened to the one in which a body closes it. The interpolations `fs` are around
it. -/
structure ReadsGroup (source : Text) (g : Group) (inside : List Target) (b : Body) (ys : List Token)
    (r₀ : Reader) (u₀ : Text) (zs : List Token) (r : Reader) (u : Text) (f : Frame)
    (fs : List Frame) : Prop where
  before : Reader.Reads {} source ys r₀ u₀
  start  : r₀.offset = g.span.start
  opened : r₀.frames = { start := r₀.offset } :: fs
  row    : Reader.Within fs.length r₀ u₀ zs r u
  frames : r.frames = f :: fs
  closes : ∃ v, Token.next? r.previous r.resumes u = some (.body b.delimiters b.text, v)
  stop   : b.span.start = r.offset
  tracks : f.Tracks r₀.offset r.offset zs
  finish : f.finish r.offset = .group g inside

lemma exists_readsGroup (hts : Target.inside? (read source).targets path = some ts)
    (hg : ts[i]? = some (.group g inside)) (hb : ts[i + 1]? = some (.body b)) :
    ∃ ys r₀ u₀ zs r u f fs, ReadsGroup source g inside b ys r₀ u₀ zs r u f fs := by
  obtain ⟨_, _, _, hchain, -⟩ := exists_chain_of_inside? hts
  obtain ⟨ys, r, u, v, f, fs, hys, hx, hstart, hf, hfinish⟩ := hchain.closed_of_getElem? hg hb
  obtain ⟨ys', r₀, u₀, zs, hys', hfresh, hoffset, hzs⟩ := hys.exists_within (s := []) hf
  rw [← hoffset] at hfresh
  obtain ⟨s, f', hf', htracks, htop⟩ := hzs.tracks hfresh
  obtain rfl : s = [] := by
    have hlength := congrArg List.length (hf.symm.trans hf')
    simp only [List.length_cons, List.length_append] at hlength
    exact List.length_eq_zero_iff.mp (by omega)
  obtain rfl : f = f' := by
    rw [hf] at hf'
    exact (List.cons.inj hf').1
  have hspan : f.start = g.span.start := congrArg (fun a => a.span.start) hfinish
  exact ⟨ys', r₀, u₀, zs, r, u, f, fs, hys', hoffset.trans hspan, hfresh, hzs, hf, ⟨v, hx⟩, hstart,
    htracks, hfinish⟩

/-- How an interpolation with code in it is read: blanks, the code, and blanks. -/
structure ReadsParts (g : Group) (r₀ : Reader) (u₀ : Text) (lead : List Token) (r₁ : Reader)
    (u₁ : Text) (mid : List Token) (r₂ : Reader) (u₂ : Text) (trail : List Token) (r : Reader)
    (u : Text) : Prop where
  reads_lead  : Reader.Reads r₀ u₀ lead r₁ u₁
  reads_mid   : Reader.Reads r₁ u₁ mid r₂ u₂
  reads_trail : Reader.Reads r₂ u₂ trail r u
  leading     : r₁.offset = g.leading.stop
  trailing    : r₂.offset = g.trailing.start
  lead_blank  : lead = [] ∨ ∃ w, lead = [.blank w]
  trail_blank : trail = [] ∨ ∃ w, trail = [.blank w]
  ne_nil      : mid ≠ []
  head        : ∀ x ∈ mid.head?, x.isBlank = false

namespace ReadsGroup

variable {ys zs : List Token} {r₀ r : Reader} {u₀ u : Text} {f : Frame} {fs : List Frame}

lemma span_stop (h : ReadsGroup source g inside b ys r₀ u₀ zs r u f fs) : g.span.stop = r.offset :=
  congrArg (fun a => a.span.stop) h.finish.symm

lemma exists_parts (h : ReadsGroup source g inside b ys r₀ u₀ zs r u f fs)
    (hblank : Target.isBlankGroup g inside = false) :
    ∃ lead mid trail r₁ u₁ r₂ u₂, zs = lead ++ (mid ++ trail) ∧
      ReadsParts g r₀ u₀ lead r₁ u₁ mid r₂ u₂ trail r u := by
  have hrow := h.row.reads
  obtain ⟨lead, mid, trail, rfl, hmid, hleading, htrailing, hlead, htrail, hhead⟩ :=
    h.tracks.split hrow.offset_eq (fun _ _ _ => hrow.ne_blank_blank) h.finish hblank
  obtain ⟨r₁, u₁, hreads₁, hrest⟩ := hrow.split
  obtain ⟨r₂, u₂, hreads₂, hreads₃⟩ := hrest.split
  refine ⟨lead, mid, trail, r₁, u₁, r₂, u₂, rfl, hreads₁, hreads₂, hreads₃, ?_, ?_, hlead, htrail,
    hmid, hhead⟩
  · rw [hleading, hreads₁.offset_eq]
  · rw [htrailing, hreads₂.offset_eq, hreads₁.offset_eq, Token.textOf_append, Text.size_append,
      Nat.add_assoc]

end ReadsGroup

end Document

end Requote
