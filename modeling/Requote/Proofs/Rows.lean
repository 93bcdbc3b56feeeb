import Requote.Proofs.Flattening
import Requote.Proofs.Operands

/-!
# The row of a template literal

A template literal that stands outside all interpolations is read body by body. Between two bodies
comes the code of an interpolation, which is the only one open there. Whether this code ends in a
line comment can be told from where the line comments of the source text end.
-/

namespace Requote

/-! ### Line comments -/

/-- Where the line comments of a text end. -/
def Reader.lineComments (r : Reader) (t : Text) : List Nat :=
  match t with
  | []     => []
  | c :: t =>
    (if (Token.read r.previous r.resumes c t).1.isLineComment then
        [(r.step (Token.read r.previous r.resumes c t).1).offset]
      else [])
      ++ (r.step (Token.read r.previous r.resumes c t).1).lineComments
        (Token.read r.previous r.resumes c t).2
termination_by t.length
decreasing_by exact Token.length_read_lt ..

lemma Token.slash_mem_of_isLineComment {x : Token} (h : x.isLineComment = true) : '/' ∈ x.text := by
  cases x with
  | comment w =>
    obtain ⟨w, rfl⟩ : ∃ v, w = '/' :: v := by
      simp only [isLineComment] at h
      split at h <;> simp_all
    exact List.mem_cons_self
  | body | opening | closing | operator | blank | other => simp [isLineComment] at h

namespace Reader

variable {r r' r'' : Reader} {t u v : Text} {x : Token} {xs ys : List Token}

/-- A text without a slash has no line comments. -/
lemma lineComments_eq_nil (r : Reader) (ht : '/' ∉ t) : r.lineComments t = [] := by
  fun_induction r.lineComments t with
  | case1 => rfl
  | case2 r c t ih =>
    have happ := Token.read_append r.previous r.resumes c t
    have hx : (Token.read r.previous r.resumes c t).1.isLineComment = false := by
      by_contra hx
      refine ht ?_
      rw [← happ]
      exact List.mem_append_left _ (Token.slash_mem_of_isLineComment (by simpa using hx))
    rw [ih fun hmem => ht (by rw [← happ]; exact List.mem_append_right _ hmem), hx]
    rfl

lemma lineComments_of_next? (hx : Token.next? r.previous r.resumes t = some (x, u)) :
    r.lineComments t
      = (if x.isLineComment then [(r.step x).offset] else []) ++ (r.step x).lineComments u := by
  cases t with
  | nil => simp [Token.next?] at hx
  | cons c t =>
    have hread : Token.read r.previous r.resumes c t = (x, u) := by simpa [Token.next?] using hx
    rw [lineComments, hread]

lemma lt_of_mem_lineComments (h : Reads r t xs r' []) : ∀ n ∈ r.lineComments t, r.offset < n := by
  generalize hv : ([] : Text) = v at h
  induction h with
  | nil r t =>
    subst hv
    simp [lineComments]
  | cons hx _ ih =>
    intro n hn
    have hlt := offset_lt_step hx
    rw [lineComments_of_next? hx, List.mem_append] at hn
    rcases hn with hn | hn
    · split at hn
      · obtain rfl := List.mem_singleton.mp hn
        exact hlt
      · simp at hn
    · exact Nat.lt_trans hlt (ih hv n hn)

/-- Whether a line comment ends where a token does is a matter of this token. -/
lemma Reads.mem_lineComments_iff (h : Reads r t xs r' u)
    (hx : Token.next? r'.previous r'.resumes u = some (x, v)) :
    (r'.step x).offset ∈ r.lineComments t ↔ x.isLineComment = true := by
  induction h with
  | nil r t =>
    obtain ⟨zs, hzs⟩ := exists_reads (r.step x) v
    have hlt := lt_of_mem_lineComments hzs
    rw [lineComments_of_next? hx, List.mem_append]
    constructor
    · rintro (hmem | hmem)
      · by_contra hcomment
        simp [hcomment] at hmem
      · exact absurd (hlt _ hmem) (Nat.lt_irrefl _)
    · intro hcomment
      simp [hcomment]
  | @cons r r' t u v x' xs hx' h ih =>
    have hlt : (r.step x').offset < (r'.step x).offset :=
      Nat.lt_of_le_of_lt h.offset_le (offset_lt_step hx)
    rw [lineComments_of_next? hx', List.mem_append, ← ih hx]
    constructor
    · rintro (hmem | hmem)
      · split at hmem
        · have := List.mem_singleton.mp hmem
          omega
        · simp at hmem
      · exact hmem
    · exact Or.inr

end Reader

/-- Where the line comments of a source text end. -/
def Document.lineComments (source : Text) : List Nat :=
  Reader.lineComments {} source

/-! ### Strings outside all interpolations -/

namespace Reader

variable {r r' : Reader} {t u v : Text} {x : Token} {xs : List Token} {a : Target} {b : Body}

/-- A body outside all interpolations is still there when one is closed, and no body is added. -/
lemma mem_targets_closeFrame_iff {stop : Nat} :
    .body b ∈ (r.closeFrame stop).targets ↔ .body b ∈ r.targets := by
  cases hf : r.frames with
  | nil => rw [closeFrame_of_frames_eq_nil hf]
  | cons f fs =>
    rw [targets_closeFrame hf]
    split <;> simp [Frame.finish]

/-- A body comes to the targets outside all interpolations only when it is read there. The brace
that ends an interpolation is still in it. -/
lemma mem_targets_step (hx : Token.next? r.previous r.resumes t = some (x, u))
    (h : .body b ∈ (r.step x).targets) :
    .body b ∈ r.targets ∨ x = .body b.delimiters b.text ∧ b.span.start = r.offset ∧
      r.frames.length = if b.isFirst then 0 else 1 := by
  rw [targets_step, List.mem_append] at h
  rcases h with h | h
  · cases hresuming : x.isResuming with
    | false =>
      rw [leaving_of_not_isResuming r hresuming] at h
      exact .inl h
    | true =>
      rw [leaving_of_isResuming r hresuming, mem_targets_closeFrame_iff] at h
      exact .inl h
  · split at h
    · rename_i hf
      cases x with
      | body d s =>
        obtain rfl : b = ⟨d, s, ⟨r.offset, r.offset + (d.wrap s).size⟩⟩ := by
          simpa [Token.bodyAt?] using h
        refine .inr ⟨rfl, rfl, ?_⟩
        cases hfirst : d.isFirst with
        | true =>
          rw [leaving_of_not_isResuming r (by simp [Token.isResuming, hfirst])] at hf
          simp [Body.isFirst, hfirst, hf]
        | false =>
          have hresuming : (Token.body d s).isResuming = true := by
            simp [Token.isResuming, hfirst]
          obtain ⟨f, fs, hfs⟩ := exists_frames_of_isResuming hx hresuming
          have hlength := length_frames_closeFrame r r.offset
          rw [← leaving_of_isResuming r hresuming, hf, hfs] at hlength
          simpa [Body.isFirst, hfirst, hfs] using hlength.symm
      | opening | closing | operator | comment | blank | other => simp [Token.bodyAt?] at h
    · simp at h

lemma Reads.mem_targets (h : Reads r t xs r' v) (hb : .body b ∈ r'.targets) :
    .body b ∈ r.targets ∨ ∃ ys r₁ u₁ u₂, Reads r t ys r₁ u₁ ∧
      Token.next? r₁.previous r₁.resumes u₁ = some (.body b.delimiters b.text, u₂) ∧
      b.span.start = r₁.offset ∧ r₁.frames.length = if b.isFirst then 0 else 1 := by
  induction h with
  | nil => exact .inl hb
  | @cons r r' t u v x xs hx h ih =>
    rcases ih hb with hb | ⟨ys, r₁, u₁, u₂, h₁, hrest⟩
    · rcases mem_targets_step hx hb with hb | ⟨rfl, hstart, hlength⟩
      · exact .inl hb
      · exact .inr ⟨[], r, t, u, .nil _ _, hx, hstart, hlength⟩
    · exact .inr ⟨x :: ys, r₁, u₁, u₂, .cons hx h₁, hrest⟩

lemma mem_targets_finish_iff : .body b ∈ r.finish.targets ↔ .body b ∈ r.targets :=
  finish_invariant (P := fun r' => .body b ∈ r'.targets ↔ .body b ∈ r.targets)
    (fun _ h => mem_targets_closeFrame_iff.trans h) Iff.rfl

end Reader

namespace Document

variable {source : Text} {b : Body}

/-- A body outside all interpolations was read with none open, or with the one open that it ends. -/
lemma exists_reads_of_mem_targets (hb : .body b ∈ (read source).targets) :
    ∃ ys r t u, Reader.Reads {} source ys r t ∧
      Token.next? r.previous r.resumes t = some (.body b.delimiters b.text, u) ∧
      b.span.start = r.offset ∧ r.frames.length = if b.isFirst then 0 else 1 := by
  obtain ⟨xs, h⟩ := Reader.exists_reads {} source
  rcases h.mem_targets (Reader.mem_targets_finish_iff.mp hb) with hb | hb
  · simp at hb
  · exact hb

lemma length_frames_of_mem_targets {ys : List Token} {r : Reader} {t : Text}
    (hb : .body b ∈ (read source).targets) (hys : Reader.Reads {} source ys r t)
    (hoffset : r.offset = b.span.start) : r.frames.length = if b.isFirst then 0 else 1 := by
  obtain ⟨ys', r', t', u', hys', -, hstart, hlength⟩ := exists_reads_of_mem_targets hb
  obtain ⟨-, rfl, -⟩ := hys.eq_of_offset hys' (hoffset.trans hstart)
  exact hlength

end Document

/-! ### The row of a template literal -/

namespace Reader

variable {r r' : Reader} {source t u v : Text} {xs ys : List Token} {b : Body}

/-- Blanks open and close nothing, and are no string. -/
lemma Reads.of_blank (h : Reads r t xs r' u) (hxs : xs = [] ∨ ∃ w, xs = [.blank w]) :
    r'.frames.length = r.frames.length ∧ ∀ o, Token.bodiesAt o xs = [] := by
  rcases hxs with rfl | ⟨w, rfl⟩
  · cases h
    exact ⟨rfl, fun _ => rfl⟩
  · obtain ⟨rfl, -⟩ := h.eq_step
    refine ⟨?_, fun _ => rfl⟩
    rw [← length_stack, ← length_stack, stack_step (by simp [Token.isResuming])]
    rfl

/-- No word behind blanks is barred from being an operator. -/
lemma Reads.not_bars_of_blank (h : Reads r t xs r' u) (hxs : xs = [] ∨ ∃ w, xs = [.blank w])
    (hr : Token.bars r.previous = false) : Token.bars r'.previous = false := by
  rcases hxs with rfl | ⟨w, rfl⟩
  · cases h
    exact hr
  · obtain ⟨rfl, hx⟩ := h.eq_step
    obtain ⟨-, hne⟩ := Token.next?_eq_some hx
    obtain ⟨hw, -⟩ := Token.next?_eq_blank hx
    have hlast := List.getLast?_eq_some_getLast (show w ≠ [] from hne)
    rw [previous_step hne, show (Token.blank w).text = w from rfl, hlast]
    exact Token.not_bars_of_isNeutral (Token.isNeutral_of_isBlank (hw _ (List.getLast_mem hne)))

/-- A word at the start of an interpolation may be an operator. -/
lemma not_bars_step_of_isLast_eq_false (r : Reader) (hb : b.isLast = false) :
    Token.bars (r.step (.body b.delimiters b.text)).previous = false := by
  obtain ⟨o, hd⟩ := Target.delimiters_of_isLast_eq_false hb
  rw [previous_step (x := .body _ _) (Token.wrap_ne_nil _ _)]
  simpa [Token.text, hd, Delimiters.wrap, Delimiters.closing, Delimiters.closing?, Closing.text]
    using Token.not_bars_of_isNeutral (y := '{') (by decide)

/-- The text between two states is that of the tokens between them. -/
lemma Reads.slice?_eq (h : Reads {} source ys r t) (h' : Reads r t xs r' u) :
    source.slice? r.offset r'.offset = some (Token.textOf xs) := by
  have hsize : r.offset = (Token.textOf ys).size := by simpa using h.offset_eq
  rw [h'.offset_eq, hsize, ← h.text_append, ← h'.text_append]
  exact Text.slice?_append _ _ _

/-- Whether a line comment ends where some tokens do is a matter of the last one. -/
lemma Reads.offset_mem_lineComments_iff (h : Reads {} source ys r t) (h' : Reads r t xs r' u)
    (hne : xs ≠ []) :
    r'.offset ∈ Document.lineComments source ↔ ∃ x ∈ xs.getLast?, x.isLineComment = true := by
  obtain ⟨front, x, rfl⟩ := (List.eq_nil_or_concat' xs).resolve_left hne
  obtain ⟨r₁, v, hfront, hsingle⟩ := h'.split
  obtain ⟨rfl, hx⟩ := hsingle.eq_step
  simpa [Document.lineComments] using (h.append hfront).mem_lineComments_iff hx

/-- Blanks, and the brace that ends an interpolation, start with a neutral character. -/
lemma Reads.exists_neutral (h : Reads r t xs r' u) (hxs : xs = [] ∨ ∃ w, xs = [.blank w])
    (hx : Token.next? r'.previous r'.resumes u = some (.body b.delimiters b.text, v))
    (hb : b.isFirst = false) : ∃ y w, t = y :: w ∧ Token.isNeutral y = true := by
  rcases hxs with rfl | ⟨w, rfl⟩
  · cases h
    obtain ⟨⟨q, closed⟩ | ⟨_ | _, e⟩, s, sp⟩ := b
    · simp [Body.isFirst, Delimiters.isFirst] at hb
    · simp [Body.isFirst, Delimiters.isFirst] at hb
    · obtain ⟨w, rfl, -⟩ := Token.next?_eq_template hx
      exact ⟨'}', w, rfl, by decide⟩
  · obtain ⟨-, hx⟩ := h.eq_step
    obtain ⟨happ, hne⟩ := Token.next?_eq_some hx
    obtain ⟨hw, -⟩ := Token.next?_eq_blank hx
    cases w with
    | nil => exact absurd rfl hne
    | cons d w => exact ⟨d, w ++ u, happ.symm, Token.isNeutral_of_isBlank (hw d List.mem_cons_self)⟩

end Reader

namespace Document

variable {source t u : Text} {i : Nat} {b b' : Body} {g : Group} {inside : List Target}
  {ys : List Token} {r : Reader}

/-- Behind a body outside all interpolations that opens one, the code of this interpolation is read,
up to the body that ends it. -/
lemma exists_readsCode (hb : (read source).targets[i]? = some (.body b))
    (hg : (read source).targets[i + 1]? = some (.group g inside))
    (hb' : (read source).targets[i + 1 + 1]? = some (.body b'))
    (hblank : Target.isBlankGroup g inside = false) (hys : Reader.Reads {} source ys r t)
    (hx : Token.next? r.previous r.resumes t = some (.body b.delimiters b.text, u))
    (hoffset : r.offset = b.span.start) :
    ∃ lead mid trail r₁ u₁ r₂ u₂ r₃ u₃ v,
      Reader.Reads (r.step (.body b.delimiters b.text)) u lead r₁ u₁ ∧
      Reader.ReadsCode r₁ u₁ mid r₂ u₂ ∧ Reader.Reads r₂ u₂ trail r₃ u₃ ∧
      (∀ o, Token.bodiesAt o lead = [] ∧ Token.bodiesAt o trail = []) ∧
      g.code source = Token.textOf mid ∧
      (g.trailing.start ∈ lineComments source ↔ ∃ x ∈ mid.getLast?, x.isLineComment = true) ∧
      Token.next? r₃.previous r₃.resumes u₃ = some (.body b'.delimiters b'.text, v) ∧
      r₃.offset = b'.span.start := by
  have hroot : Target.inside? (read source).targets [] = some (read source).targets := rfl
  obtain ⟨start, stop, l, hchain, hl⟩ := exists_chain_of_inside? hroot
  have hopens := hchain.next_of_body hl hb
  have hstop : g.span.start = b.span.stop := hopens.2 _ _ hg
  have hfirst : b'.isFirst = false :=
    (hchain.previous_of_body hb').1.mpr ⟨i + 1, g, inside, rfl, hg⟩
  obtain ⟨ys', r₀, u₀, zs, r₃, u₃, f, fs, hgroup⟩ := exists_readsGroup hroot hg hb'
  obtain ⟨lead, mid, trail, r₁, u₁, r₂, u₂, rfl, hparts⟩ := hgroup.exists_parts hblank
  obtain ⟨v, hx'⟩ := hgroup.closes
  have hys' := hgroup.before
  -- the interpolation is opened by the body in front of it
  obtain ⟨-, rfl, rfl⟩ : ys ++ [.body b.delimiters b.text] = ys' ∧
      r.step (.body b.delimiters b.text) = r₀ ∧ u = u₀ := by
    refine (hys.append (.single hx)).eq_of_offset hys' ?_
    obtain ⟨before, after, -, hspan⟩ := split_of_mem_bodiesOf_read
      (Target.mem_bodiesOf_of_inside? hroot (List.mem_of_getElem? hb))
    rw [hgroup.start, hstop, Reader.step, hoffset, hspan]
    rfl
  -- no interpolation is around it
  obtain rfl : fs = [] := by
    have hlength := length_frames_of_mem_targets (List.mem_of_getElem? hb')
      (hys'.append hgroup.row.reads) hgroup.stop.symm
    rw [hgroup.frames, hfirst, if_neg (by simp)] at hlength
    exact List.length_eq_zero_iff.mp (by simpa using hlength)
  have hbars := Reader.not_bars_step_of_isLast_eq_false r (hopens.1.mpr ⟨g, inside, hg⟩)
  have hlead := hparts.reads_lead.of_blank hparts.lead_blank
  have htrail := hparts.reads_trail.of_blank hparts.trail_blank
  have hcode : Reader.ReadsCode r₁ u₁ mid r₂ u₂ := by
    refine ⟨hparts.reads_mid, hparts.ne_nil, hparts.head, hgroup.stays_mid hparts, ?_, ?_,
      hparts.reads_lead.not_bars_of_blank hparts.lead_blank hbars,
      hparts.reads_trail.exists_neutral hparts.trail_blank hx' hfirst⟩
    · rw [hlead.1, hgroup.opened]
      rfl
    · rw [← htrail.1, hgroup.frames]
      rfl
  refine ⟨lead, mid, trail, r₁, u₁, r₂, u₂, r₃, u₃, v, hparts.reads_lead, hcode, hparts.reads_trail,
    fun o => ⟨hlead.2 o, htrail.2 o⟩, ?_, ?_, hx', hgroup.stop.symm⟩
  · have hslice := (hys'.append hparts.reads_lead).slice?_eq hparts.reads_mid
    rw [hparts.leading, hparts.trailing] at hslice
    rw [Group.code, hslice, Option.getD_some]
  · rw [← hparts.trailing]
    exact (hys'.append hparts.reads_lead).offset_mem_lineComments_iff hparts.reads_mid hparts.ne_nil

end Document

namespace Concatenation

/-- How a template literal outside all interpolations is read, in a source text: its bodies, with
the code of the interpolations and blanks between them. The first state and text are those in front
of the literal, the others those behind it. -/
inductive Row (source : Text) :
    Reader → Text → Body → List (Group × Body) → List Token → Reader → Text → Prop where
  | single {r : Reader} {t u : Text} {b : Body} {o : Opening}
      (hd : b.delimiters = .template o (some .backtick))
      (hspan : b.span = ⟨r.offset, r.offset + (b.delimiters.wrap b.text).size⟩)
      (hlength : r.frames.length = if b.isFirst then 0 else 1)
      (hx : Token.next? r.previous r.resumes t = some (.body b.delimiters b.text, u)) :
      Row source r t b [] [.body b.delimiters b.text] (r.step (.body b.delimiters b.text)) u
  | cons {r r₁ r₂ r₃ r' : Reader} {t u u₁ u₂ u₃ v : Text} {b b' : Body} {g : Group} {o : Opening}
      {tail : List (Group × Body)} {lead mid trail xs : List Token}
      (hd : b.delimiters = .template o (some .interpolation))
      (hspan : b.span = ⟨r.offset, r.offset + (b.delimiters.wrap b.text).size⟩)
      (hlength : r.frames.length = if b.isFirst then 0 else 1)
      (hx : Token.next? r.previous r.resumes t = some (.body b.delimiters b.text, u))
      (hlead : Reader.Reads (r.step (.body b.delimiters b.text)) u lead r₁ u₁)
      (hmid : Reader.ReadsCode r₁ u₁ mid r₂ u₂) (htrail : Reader.Reads r₂ u₂ trail r₃ u₃)
      (hblank : ∀ o, Token.bodiesAt o lead = [] ∧ Token.bodiesAt o trail = [])
      (hcode : g.code source = Token.textOf mid)
      (hcomment : g.trailing.start ∈ Document.lineComments source ↔
        ∃ x ∈ mid.getLast?, x.isLineComment = true)
      (h : Row source r₃ u₃ b' tail xs r' v) :
      Row source r t b ((g, b') :: tail)
        (.body b.delimiters b.text :: (lead ++ (mid ++ (trail ++ xs)))) r' v

variable {source t u v : Text} {r r' : Reader} {b : Body} {tail : List (Group × Body)}
  {xs ys : List Token} {ts pre literal post : List Target}

lemma Row.reads (h : Row source r t b tail xs r' v) : Reader.Reads r t xs r' v := by
  induction h with
  | single _ _ _ hx => exact .single hx
  | cons _ _ _ hx hlead hmid htrail _ _ _ _ ih =>
    exact .cons hx (hlead.append (hmid.reads.append (htrail.append ih)))

/-- A row ends outside all interpolations, behind the backtick of the last body. -/
lemma Row.stop (h : Row source r t b tail xs r' v) :
    r'.offset = (lastBody b tail).span.stop ∧ Token.bars r'.previous = false ∧ r'.frames = [] := by
  induction h with
  | @single r t u b o hd hspan hlength hx =>
    refine ⟨by rw [lastBody, hspan]; rfl, ?_, ?_⟩
    · rw [Reader.previous_step (x := .body _ _) (Token.wrap_ne_nil _ _)]
      simpa [Token.text, hd, Delimiters.wrap, Delimiters.closing, Delimiters.closing?, Closing.text]
        using Token.not_bars_of_isNeutral (y := '\x60') (by decide)
    rw [← Reader.stack_eq_nil, Reader.stack_step]
    · rw [← Reader.length_stack] at hlength
      cases o with
      | backtick =>
        have hnil : r.stack.length = 0 := by
          simpa [Body.isFirst, hd, Delimiters.isFirst] using hlength
        simp [Token.onStack, hd, Delimiters.isLast, Delimiters.isFirst,
          List.length_eq_zero_iff.mp hnil]
      | brace =>
        have hone : r.stack.length = 1 := by
          simpa [Body.isFirst, hd, Delimiters.isFirst] using hlength
        obtain ⟨brackets, hstack⟩ := List.length_eq_one_iff.mp hone
        simp [Token.onStack, hd, Delimiters.isLast, Delimiters.isFirst, hstack]
    · intro hresuming
      obtain ⟨f, fs, hf⟩ := Reader.exists_frames_of_isResuming hx hresuming
      simp [hf]
  | cons _ _ _ _ _ _ _ _ _ _ _ ih => exact ih

lemma Alternates.body_mem (h : Alternates ts b tail) :
    ∀ a ∈ b :: tail.map Prod.snd, .body a ∈ ts := by
  induction h with
  | single b => simp
  | @cons b b' g inside ts tail _ h ih =>
    intro a ha
    rcases List.mem_cons.mp ha with rfl | ha
    · exact List.mem_cons_self
    · exact List.mem_cons_of_mem _ (List.mem_cons_of_mem _ (ih a ha))

lemma Alternates.getLast?_eq (h : Alternates ts b tail) :
    ts.getLast? = some (.body (lastBody b tail)) := by
  induction h with
  | single b => rfl
  | @cons b b' g inside ts tail _ h ih =>
    rw [List.getLast?_cons_cons, List.getLast?_cons_cons, ih]
    rfl

/-- A literal that ends with a backtick and stands outside all interpolations forms a row. -/
lemma Alternates.exists_row (h : Alternates literal b tail)
    (hts : (Document.read source).targets = pre ++ (literal ++ post))
    (hclosed : ∃ o, (lastBody b tail).delimiters = .template o (some .backtick))
    (hys : Reader.Reads {} source ys r t)
    (hx : Token.next? r.previous r.resumes t = some (.body b.delimiters b.text, u))
    (hoffset : r.offset = b.span.start) : ∃ xs r' v, Row source r t b tail xs r' v := by
  have hroot : Target.inside? (Document.read source).targets []
      = some (Document.read source).targets := rfl
  have hspan : ∀ b, .body b ∈ (Document.read source).targets →
      b.span = ⟨b.span.start, b.span.start + (b.delimiters.wrap b.text).size⟩ := by
    intro b hb
    obtain ⟨before, after, -, hspan⟩ :=
      Document.split_of_mem_bodiesOf_read (Target.mem_bodiesOf_of_inside? hroot hb)
    rw [hspan]
  induction h generalizing pre ys r t u with
  | single b =>
    obtain ⟨o, hd⟩ := hclosed
    have hb : .body b ∈ (Document.read source).targets := by simp [hts]
    exact ⟨_, _, _, .single hd (by rw [hoffset]; exact hspan b hb)
      (Document.length_frames_of_mem_targets hb hys hoffset) hx⟩
  | @cons b b' g inside ts tail hblank h ih =>
    obtain ⟨start, stop, l, hchain, hl⟩ := Document.exists_chain_of_inside? hroot
    have hb : (Document.read source).targets[pre.length]? = some (.body b) := by simp [hts]
    have hg : (Document.read source).targets[pre.length + 1]? = some (.group g inside) := by
      simp [hts]
    have hb' : (Document.read source).targets[pre.length + 1 + 1]? = some (.body b') := by
      rw [hts, Nat.add_assoc, List.getElem?_append_right (Nat.le_add_right _ _),
        Nat.add_sub_cancel_left]
      rfl
    obtain ⟨lead, mid, trail, r₁, u₁, r₂, u₂, r₃, u₃, v, hlead, hmid, htrail, hbodies, hcode,
      hcomment, hx', hoffset'⟩ := Document.exists_readsCode hb hg hb' hblank hys hx hoffset
    have hlast : b.isLast = false := (hchain.next_of_body hl hb).1.mpr ⟨g, inside, hg⟩
    obtain ⟨o, hd⟩ := Target.delimiters_of_isLast_eq_false hlast
    have hys' := hys.append (.cons hx (hlead.append (hmid.reads.append htrail)))
    have hts' : (Document.read source).targets
        = (pre ++ [.body b, .group g inside]) ++ ((.body b' :: ts) ++ post) := by
      simpa using hts
    obtain ⟨xs, r', v, hrow⟩ := ih hts' hclosed hys' hx' hoffset'
    exact ⟨_, _, _, .cons hd (by rw [hoffset]; exact hspan b (List.mem_of_getElem? hb))
      (Document.length_frames_of_mem_targets (List.mem_of_getElem? hb) hys hoffset) hx hlead hmid
      htrail hbodies hcode hcomment hrow⟩

end Concatenation

end Requote
