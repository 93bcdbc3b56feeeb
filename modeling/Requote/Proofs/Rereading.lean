import Requote.Proofs.Rewriting
import Requote.Proofs.Rows

/-!
# A flattened literal is read back

A template literal that stands outside all interpolations becomes a concatenation. Reading the new
text gives the strings of the old one: the quoted bodies in the places of the bodies of the literal,
and all others as they were. This fails exactly where the code of an interpolation ends in a line
comment. The end of the line goes away with the blanks behind the code, so the comment goes on into
the concatenation and takes in the quote of the next body.
-/

namespace Requote

/-! ### Replacing bodies by quoted ones -/

namespace Escape

variable {q : Quote} {own bs : List Body} {ws : List (Delimiters × Text)}

/-- What a body is written as when some bodies become quoted literals. -/
def requote (q : Quote) (own : List Body) (b : Body) : Delimiters × Text :=
  if b ∈ own then (.quoted q true, normalOfTemplate q b.text) else b.written

/-- Bodies some of which become quoted literals, one for one and in order, and what all of them are
written as then. -/
inductive Requotes (q : Quote) : List Body → List Body → List (Delimiters × Text) → Prop where
  | nil (bs : List Body) : Requotes q [] bs (bs.map Body.written)
  | cons {own bs : List Body} {ws : List (Delimiters × Text)} (others : List Body) (b : Body)
      (h : Requotes q own bs ws) :
      Requotes q (b :: own) (others ++ b :: bs)
        (others.map Body.written ++ (.quoted q true, normalOfTemplate q b.text) :: ws)

lemma Requotes.append_left (h : Requotes q own bs ws) (others : List Body) :
    Requotes q own (others ++ bs) (others.map Body.written ++ ws) := by
  cases h with
  | nil =>
    rw [← List.map_append]
    exact .nil _
  | @cons own bs ws others' b h =>
    rw [← List.append_assoc, ← List.append_assoc, ← List.map_append]
    exact .cons _ b h

lemma Requotes.append_right (h : Requotes q own bs ws) (others : List Body) :
    Requotes q own (bs ++ others) (ws ++ others.map Body.written) := by
  induction h with
  | nil bs =>
    rw [← List.map_append]
    exact .nil _
  | @cons own bs ws others' b h ih =>
    rw [List.append_assoc, List.append_assoc]
    exact .cons others' b ih

lemma Requotes.subset (h : Requotes q own bs ws) : ∀ b ∈ own, b ∈ bs := by
  induction h with
  | nil => simp
  | cons others b h ih =>
    intro a ha
    rcases List.mem_cons.mp ha with rfl | ha
    · simp
    · simp [ih a ha]

/-- If no body stands there twice, each becomes what its own place says. -/
lemma Requotes.eq_map (h : Requotes q own bs ws) (hbs : bs.Nodup) :
    ws = bs.map (requote q own) := by
  induction h with
  | nil bs => simp [requote]
  | @cons own bs ws others b h ih =>
    obtain ⟨hothers, hb, hdisjoint⟩ := List.nodup_append'.mp hbs
    obtain ⟨hb, hbs⟩ := List.nodup_cons.mp hb
    rw [List.map_append, List.map_cons, ih hbs]
    congr 1
    · apply List.map_congr_left
      intro a ha
      have hnot : a ∉ b :: own := by
        intro hmem
        rcases List.mem_cons.mp hmem with rfl | hmem
        · exact hdisjoint ha List.mem_cons_self
        · exact hdisjoint ha (List.mem_cons_of_mem _ (h.subset a hmem))
      rw [requote, if_neg hnot]
    · congr 1
      · rw [requote, if_pos List.mem_cons_self]
      · apply List.map_congr_left
        intro a ha
        have hne : a ≠ b := by
          rintro rfl
          exact hb ha
        simp [requote, hne]

end Escape

/-! ### Quoted bodies -/

namespace Token

variable {previous : Option Char} {resumes : Bool} {t u w : Text} {q : Quote}

/-- A template body, rewritten, is read as a quoted literal, unless it holds a bare separator. -/
lemma next?_quoted {b : Body} {o : Opening} {cl : Closing}
    (hx : next? previous resumes t = some (.body b.delimiters b.text, u))
    (hd : b.delimiters = .template o (some cl))
    (hsep : ∀ c, .plain c ∈ Atom.read b.text → Escape.isSeparator c = false) (r : Reader)
    (rest : Text) :
    next? r.previous r.resumes (Concatenation.quoted q b ++ rest)
      = some (.body (.quoted q true) (Escape.normalOfTemplate q b.text), rest) := by
  rw [hd] at hx
  obtain ⟨t', -, hread, -⟩ := next?_eq_template hx
  have hquoted := Escape.readQuoted_normalOfTemplate (q := q) hread hsep rest
  simp [Concatenation.quoted, next?_quote, hquoted]

/-- A line comment goes on as long as the text does not end the line. -/
lemma next?_lineComment (h : next? previous resumes t = some (comment w, u))
    (hcomment : (comment w).isLineComment = true) {m : Text}
    (hm : ∀ c ∈ m, Text.isTerminator c = false) (r : Reader) (rest : Text) :
    ∃ w' u', next? r.previous r.resumes (w ++ (m ++ rest)) = some (comment w', u') ∧
      w.size + m.size ≤ w'.size := by
  cases next?_eq_some_iff.mp h with
  | block _ _ => simp [isLineComment] at hcomment
  | @line w _ _ hw _ =>
    let run := rest.takeWhile fun c => !Text.isTerminator c
    have hrun : ∀ c ∈ w ++ (m ++ run), Text.isTerminator c = false := by
      intro c hc
      rcases List.mem_append.mp hc with hc | hc
      · exact hw c hc
      · rcases List.mem_append.mp hc with hc | hc
        · exact hm c hc
        · simpa using List.mem_takeWhile_imp hc
    have hnext : IsNext r.previous r.resumes ('/' :: '/' :: w ++ (m ++ rest))
        (comment ('/' :: '/' :: (w ++ (m ++ run))))
        (rest.dropWhile fun c => !Text.isTerminator c) := by
      refine .line (by simp [run]) hrun ?_
      intro c hc
      simpa using head?_dropWhile rest c hc
    refine ⟨_, _, hnext.next?_eq, ?_⟩
    simp only [Text.size_cons, Text.size_append]
    omega

end Token

/-! ### Reading the concatenation -/

namespace Concatenation

open Reader (Reads ReadsCode)

variable {source t u v : Text} {r r' s : Reader} {b : Body} {tail : List (Group × Body)}
  {xs : List Token} {q : Quote} {c : Char}

/-- A body as a quoted literal at an offset. -/
def quotedBody (q : Quote) (offset : Nat) (b : Body) : Body :=
  ⟨.quoted q true, Escape.normalOfTemplate q b.text, ⟨offset, offset + (quoted q b).size⟩⟩

/-- What stands between two quoted bodies. -/
def between (source : Text) (g : Group) : Text :=
  " + ".toList ++ (operand source g ++ " + ".toList)

/-- The quoted bodies of a concatenation that starts at an offset. -/
def quotedBodies (source : Text) (q : Quote) (offset : Nat) (b : Body) :
    List (Group × Body) → List Body
  | []              => [quotedBody q offset b]
  | (g, b') :: tail =>
    quotedBody q offset b
      :: quotedBodies source q (offset + (quoted q b ++ between source g).size) b' tail

lemma quotedBody_mem_quotedBodies (source : Text) (q : Quote) (offset : Nat) (b : Body)
    (tail : List (Group × Body)) : quotedBody q offset b ∈ quotedBodies source q offset b tail := by
  cases tail <;> exact List.mem_cons_self

lemma flattened_eq_cons (source : Text) (q : Quote) (b : Body) (tail : List (Group × Body))
    (t : Text) :
    ∃ v, flattened source q b tail ++ t = q.char :: v := by
  cases tail <;> simp [flattened, quoted]

lemma flattened_cons (source : Text) (q : Quote) (b b' : Body) (g : Group)
    (tail : List (Group × Body)) (t : Text) :
    flattened source q b ((g, b') :: tail) ++ t
      = quoted q b ++ (between source g ++ (flattened source q b' tail ++ t)) := by
  simp [flattened, between]

lemma isBlank_quote (q : Quote) : Text.isBlank q.char = false := by
  cases q <;> decide

/-- A group between its two connectors, as the edits put them. -/
lemma between_eq (source : Text) (g : Group) :
    between source g = openOperand g ++ (g.code source ++ closeOperand g) := by
  have happend := openOperand_append source g []
  simpa [between] using happend.symm

/-- A quoted body and the operand behind it are read outside all interpolations. -/
lemma exists_reads_fragment {mid : List Token} {g : Group} {text : Text}
    (hquoted : ∀ (s : Reader) rest, Token.next? s.previous s.resumes (quoted q b ++ rest)
      = some (.body (.quoted q true) text, rest))
    (hmid : ReadsCode r t mid r' u) (hd : r'.diagnostics = [])
    (hcode : g.code source = Token.textOf mid)
    (hlast : ∀ x ∈ mid.getLast?, x.isLineComment = false) (hs : s.IsClear)
    (hc : Text.isBlank c = false) (v : Text) :
    ∃ xs s', Reads s (quoted q b ++ (between source g ++ c :: v))
        (.body (.quoted q true) text :: xs) s' (c :: v) ∧ s'.IsClear ∧
      (Token.bodiesAt 0 xs).map Body.written = (Token.bodiesAt 0 mid).map Body.written := by
  have hclear : (s.step (.body (.quoted q true) text)).IsClear := hs.step rfl rfl rfl
  obtain ⟨xs, s', hxs, hs', hbodies⟩ := hmid.exists_reads_operand hd hlast hclear hc g v
  refine ⟨xs, s', .cons (hquoted _ _) ?_, hs', hbodies⟩
  rw [between_eq, hcode]
  simpa using hxs

/-- The bodies of a row of the literal: its first one, those of the code behind it, and those that
follow. -/
lemma bodiesAt_row {r r₁ r₂ r₃ : Reader} {u u₁ u₂ u₃ : Text} {lead mid trail : List Token}
    (hspan : b.span = ⟨r.offset, r.offset + (b.delimiters.wrap b.text).size⟩)
    (hlead : Reads (r.step (.body b.delimiters b.text)) u lead r₁ u₁) (hmid : Reads r₁ u₁ mid r₂ u₂)
    (htrail : Reads r₂ u₂ trail r₃ u₃)
    (hblank : ∀ o, Token.bodiesAt o lead = [] ∧ Token.bodiesAt o trail = []) (xs : List Token) :
    Token.bodiesAt r.offset (.body b.delimiters b.text :: (lead ++ (mid ++ (trail ++ xs))))
      = [b] ++ (Token.bodiesAt r₁.offset mid ++ Token.bodiesAt r₃.offset xs) := by
  have hstop : r₃.offset = r.offset + (Token.body b.delimiters b.text).text.size
      + (Token.textOf lead).size + (Token.textOf mid).size + (Token.textOf trail).size := by
    rw [htrail.offset_eq, hmid.offset_eq, hlead.offset_eq]
    rfl
  simp only [Token.bodiesAt, Token.bodyAt?, ← hspan, Token.bodiesAt_append, (hblank _).1,
    (hblank _).2, ← hstop, List.nil_append, Option.toList_some]
  rw [hlead.offset_eq]
  rfl

/-- The concatenation is read as quoted bodies with the code between them, if no line comment ends
this code. -/
lemma Row.exists_reads_flattened (h : Row source r t b tail xs r' v) (hd : r'.diagnostics = [])
    (hsep : ∀ a ∈ b :: tail.map Prod.snd, ∀ c, .plain c ∈ Atom.read a.text →
      Escape.isSeparator c = false)
    (hcomments : ∀ p ∈ tail, p.1.trailing.start ∉ Document.lineComments source) (hs : s.IsClear)
    (rest : Text) :
    ∃ ys s', Reads s (flattened source q b tail ++ rest) ys s' rest ∧ s'.IsClear ∧
      Token.bars s'.previous = false ∧
      Escape.Requotes q (b :: tail.map Prod.snd) (Token.bodiesAt r.offset xs)
        ((Token.bodiesAt 0 ys).map Body.written) ∧
      ∀ a ∈ quotedBodies source q s.offset b tail, a ∈ Token.bodiesAt s.offset ys := by
  induction h generalizing s with
  | @single r t u b o hd' hspan hlength hx =>
    have hquoted := Token.next?_quoted (q := q) hx hd' (hsep b List.mem_cons_self) s rest
    refine ⟨_, _, .single hquoted, hs.step rfl rfl rfl, ?_, ?_, ?_⟩
    · rw [Reader.previous_step (x := .body _ _) (Token.wrap_ne_nil _ _)]
      simpa [Token.text, Delimiters.wrap, Delimiters.closing, Delimiters.closing?]
        using Token.not_bars_of_isNeutral (Token.isNeutral_quote q)
    · have hbodies : Token.bodiesAt r.offset [.body b.delimiters b.text] = [b] := by
        simp [Token.bodiesAt, Token.bodyAt?, ← hspan]
      rw [hbodies]
      exact .cons [] b (.nil [])
    · intro a ha
      obtain rfl := List.mem_singleton.mp ha
      exact List.mem_cons_self
  | @cons r r₁ r₂ r₃ r' t u u₁ u₂ u₃ v b b' g o tail lead mid trail xs hd' hspan hlength hx hlead
      hmid htrail hblank hcode hcomment h ih =>
    have hquoted := Token.next?_quoted (q := q) hx hd' (hsep b List.mem_cons_self)
    have hlast : ∀ x ∈ mid.getLast?, x.isLineComment = false := by
      have hnot := mt hcomment.mpr (hcomments (g, b') List.mem_cons_self)
      simpa using hnot
    obtain ⟨w, hcons⟩ := flattened_eq_cons source q b' tail rest
    obtain ⟨ys, s₁, hys, hs₁, hys'⟩ := exists_reads_fragment hquoted hmid
      ((htrail.append h.reads).diagnostics_eq_nil hd) hcode hlast hs (isBlank_quote q) w
    rw [← hcons] at hys
    obtain ⟨zs, s₂, hzs, hs₂, hbars, hrequotes, hplaces⟩ := ih hd
      (fun a ha => hsep a (List.mem_cons_of_mem _ ha))
      (fun p hp => hcomments p (List.mem_cons_of_mem _ hp)) hs₁
    have hoffset : s₁.offset = s.offset + (quoted q b ++ between source g).size :=
      Reads.offset_eq_add_size (by rwa [List.append_assoc])
    refine ⟨_, s₂, by rw [flattened_cons]; exact hys.append hzs, hs₂, hbars, ?_, ?_⟩
    · rw [bodiesAt_row hspan hlead hmid.reads htrail hblank, Token.bodiesAt_append, List.map_append,
        Token.bodiesAt, List.map_append, Token.map_written_bodiesAt _ 0 ys, hys',
        Token.map_written_bodiesAt 0 r₁.offset mid, Token.map_written_bodiesAt _ 0 zs]
      exact .cons [] b (hrequotes.append_left _)
    · intro a ha
      rw [Token.bodiesAt_append, ← hys.offset_eq, List.mem_append]
      rcases List.mem_cons.mp ha with rfl | ha
      · exact .inl List.mem_cons_self
      · exact .inr (hplaces a (by rwa [hoffset]))

/-- Nothing that closes an operand ends a line. -/
lemma not_isTerminator_of_mem_closeOperand {g : Group} (hc : c ∈ closeOperand g ++ [q.char]) :
    Text.isTerminator c = false := by
  rcases List.mem_append.mp hc with hc | hc
  · have hall : (closeOperand g).all (fun c => !Text.isTerminator c) = true := by
      cases hlow : g.lowPriority <;> simp only [closeOperand, hlow] <;> decide
    simpa using List.all_eq_true.mp hall c hc
  · obtain rfl := List.mem_singleton.mp hc
    exact q.not_isTerminator_char

/-- A line comment at the end of the code takes in the quote of the next body. -/
lemma exists_reads_swallowed {mid : List Token} {g : Group} {text : Text}
    (hquoted : ∀ (s : Reader) rest, Token.next? s.previous s.resumes (quoted q b ++ rest)
      = some (.body (.quoted q true) text, rest))
    (hmid : ReadsCode r t mid r' u) (hd : r'.diagnostics = [])
    (hcode : g.code source = Token.textOf mid)
    (hlast : ∃ x ∈ mid.getLast?, x.isLineComment = true) (hs : s.IsClear) (v : Text) :
    ∃ xs s' x w w', Reads s (quoted q b ++ (between source g ++ q.char :: v)) xs s' w ∧
      Token.next? s'.previous s'.resumes w = some (x, w') ∧
      s'.offset < s.offset + (quoted q b ++ between source g).size ∧
      s.offset + (quoted q b ++ between source g).size < (s'.step x).offset := by
  have hclear : (s.step (.body (.quoted q true) text)).IsClear := hs.step rfl rfl rfl
  obtain ⟨y, m, rfl, hy⟩ := hmid.neutral
  obtain ⟨x, hx, hcomment⟩ := hlast
  obtain ⟨front, x', rfl⟩ := (List.eq_nil_or_concat' mid).resolve_left hmid.ne_nil
  obtain rfl : x' = x := by simpa using hx
  cases x' with
  | comment w =>
    obtain ⟨r₁, u₁, hfront, hsingle⟩ := hmid.reads.split
    obtain ⟨rfl, hcom⟩ := hsingle.eq_step
    obtain ⟨rfl, hne⟩ := Token.next?_eq_some hcom
    obtain ⟨z, Z, hclose, hz⟩ := Reader.closeOperand_eq_cons g (q.char :: v)
    have hfront' := hfront.congr hy hz (fun hnil => absurd hnil hne) Z
    rw [← hclose] at hfront'
    obtain ⟨xs, s', hxs, -, -⟩ := hmid.exists_reads_openOperand (m := closeOperand g ++ q.char :: v)
      hclear hfront' (Reader.stays_append.mp hmid.stays).1 (hsingle.diagnostics_eq_nil hd) (by simp)
      g
    obtain ⟨w', u', hnext, hsize⟩ := Token.next?_lineComment hcom hcomment
      (fun c hc => not_isTerminator_of_mem_closeOperand hc) s' v
    have hreads := Reads.cons (hquoted s (between source g ++ q.char :: v)) (by
      rw [between_eq, hcode]
      simpa using hxs)
    have hoffset := hreads.offset_add_size
    have hpos := Text.size_pos hne
    have hq := q.char.utf8Size_pos
    simp only [Token.text, Text.size_append, Text.size_cons, Text.size_nil] at hoffset hpos hsize ⊢
    refine ⟨_, s', .comment w', _, u', hreads, by simpa [Token.text] using hnext, by omega, ?_⟩
    simp only [Reader.step, Token.text]
    omega
  | body | opening | closing | operator | blank | other => simp [Token.isLineComment] at hcomment

/-- If a line comment ends the code of an interpolation, one of the quoted bodies is not read. -/
lemma Row.exists_swallowed (h : Row source r t b tail xs r' v) (hd : r'.diagnostics = [])
    (hsep : ∀ a ∈ b :: tail.map Prod.snd, ∀ c, .plain c ∈ Atom.read a.text →
      Escape.isSeparator c = false)
    (hcomment : ∃ p ∈ tail, p.1.trailing.start ∈ Document.lineComments source) (hs : s.IsClear)
    (rest : Text) :
    ∃ a ∈ quotedBodies source q s.offset b tail, ∃ ys s' x w w',
      Reads s (flattened source q b tail ++ rest) ys s' w ∧
      Token.next? s'.previous s'.resumes w = some (x, w') ∧
      s'.offset < a.span.start ∧ a.span.start < (s'.step x).offset := by
  induction h generalizing s with
  | single => simp at hcomment
  | @cons r r₁ r₂ r₃ r' t u u₁ u₂ u₃ v b b' g o tail lead mid trail xs hd' hspan hlength hx hlead
      hmid htrail hblank hcode hiff h ih =>
    have hquoted := Token.next?_quoted (q := q) hx hd' (hsep b List.mem_cons_self)
    have hd₂ := (htrail.append h.reads).diagnostics_eq_nil hd
    obtain ⟨w, hcons⟩ := flattened_eq_cons source q b' tail rest
    rw [quotedBodies, flattened_cons]
    by_cases hmem : g.trailing.start ∈ Document.lineComments source
    · obtain ⟨ys, s', x, u', w', hys, hx', hlt, hlt'⟩ :=
        exists_reads_swallowed hquoted hmid hd₂ hcode (hiff.mp hmem) hs w
      rw [← hcons] at hys
      exact ⟨_, List.mem_cons_of_mem _ (quotedBody_mem_quotedBodies source q _ b' tail), ys, s', x,
        u', w', hys, hx', hlt, hlt'⟩
    · have hlast : ∀ x ∈ mid.getLast?, x.isLineComment = false := by
        simpa using mt hiff.mpr hmem
      obtain ⟨ys, s₁, hys, hs₁, -⟩ :=
        exists_reads_fragment hquoted hmid hd₂ hcode hlast hs (isBlank_quote q) w
      rw [← hcons] at hys
      have hcomment' : ∃ p ∈ tail, p.1.trailing.start ∈ Document.lineComments source := by
        obtain ⟨p, hp, hpmem⟩ := hcomment
        rcases List.mem_cons.mp hp with rfl | hp
        · exact absurd hpmem hmem
        · exact ⟨p, hp, hpmem⟩
      have hoffset : s₁.offset = s.offset + (quoted q b ++ between source g).size :=
        Reads.offset_eq_add_size (by rwa [List.append_assoc])
      obtain ⟨a, ha, zs, s', x, u', w', hzs, hrest⟩ :=
        ih hd (fun a ha => hsep a (List.mem_cons_of_mem _ ha)) hcomment' hs₁
      rw [hoffset] at ha
      exact ⟨a, List.mem_cons_of_mem _ ha, _, s', x, u', w', hys.append hzs, hrest⟩

end Concatenation

/-! ### The document of the concatenation -/

namespace Document

variable {source t u : Text} {ys : List Token} {r : Reader} {x : Token} {b : Body}

lemma diagnostics_read (source : Text) :
    (read source).diagnostics = (Reader.run {} source).diagnostics :=
  Reader.finish_invariant
    (P := fun r => r.diagnostics = (Reader.run {} source).diagnostics)
    (fun r h => (Reader.diagnostics_closeFrame r _).trans h) rfl

/-- No body starts in the middle of a token. -/
lemma not_mem_bodiesOf_read (h : Reader.Reads {} source ys r t)
    (hx : Token.next? r.previous r.resumes t = some (x, u)) (hlt : r.offset < b.span.start)
    (hlt' : b.span.start < (r.step x).offset) : b ∉ Target.bodiesOf (read source).targets := by
  intro hb
  obtain ⟨ys', r', after, zs, hys', -, hspan, -, -⟩ := exists_reads_of_mem_bodiesOf_read hb
  rw [hspan] at hlt hlt'
  obtain ⟨xs, hxs, -⟩ := h.exists_of_offset_le hys' (Nat.le_of_lt hlt)
  cases hxs with
  | nil => exact Nat.lt_irrefl _ hlt
  | cons hx' hxs =>
    obtain ⟨rfl, rfl⟩ := Prod.mk.inj (Option.some.inj (hx.symm.trans hx'))
    exact Nat.lt_irrefl _ (Nat.lt_of_lt_of_le hlt' hxs.offset_le)

end Document

namespace Command

variable {style : QuoteStyle} {source : Text} {offset : Nat} {edits : List Edit} {place : Place}

lemma exists_delimiters_of_isClosed {ts : List Target} {b : Body} (h : isClosed ts = true)
    (hb : ts.getLast? = some (.body b)) :
    ∃ o, b.delimiters = .template o (some .backtick) := by
  simp only [isClosed, hb] at h
  obtain ⟨⟨q, closed⟩ | ⟨o, _ | _ | _⟩, s, sp⟩ := b <;> simp at h
  exact ⟨o, rfl⟩

/-- What reading makes of a document with a literal outside all interpolations: what stands in front
of the literal, the row of the literal, and what follows. -/
structure ReadsLiteral (source : Text) (head : Body) (tail : List (Group × Body)) (ys : List Token)
    (r : Reader) (t : Text) (xs : List Token) (r' : Reader) (v : Text) (zs : List Token) :
    Prop where
  before  : Reader.Reads {} source ys r t
  start   : head.span.start = r.offset
  frames  : r.frames = []
  neutral : ∃ c w, t = c :: w ∧ Token.isNeutral c = true ∧ Text.isBlank c = false
  row     : Concatenation.Row source r t head tail xs r' v
  behind  : Reader.Reads r' v zs (Reader.run {} source) []

lemma exists_readsLiteral (h : Command.toNormal.run style source offset = .ok edits)
    (hfind : Place.find? offset (Document.read source).targets = some place)
    (htop : place.targets = (Document.read source).targets) :
    ∃ q head tail ys r t xs r' v zs,
      style.resolve (.normal (Document.read source).commonQuote) = .normal q ∧
      Concatenation.Alternates place.literal head tail ∧
      ReadsLiteral source head tail ys r t xs r' v zs ∧
      Edit.applyAll? source edits
        = some (Token.textOf ys ++ (Concatenation.flattened source q head tail ++ v)) := by
  obtain ⟨place', q, head, tail, before, rest, after, hflattens⟩ := exists_flattensLiteral h
  obtain rfl : place = place' := Option.some.inj (hfind.symm.trans hflattens.find)
  obtain ⟨pre, post, htargets⟩ := place.exists_targets_eq
  rw [htop] at htargets
  have halternates := hflattens.alternates
  have hmem : .body head ∈ (Document.read source).targets := by
    rw [htargets]
    exact List.mem_append_right _ (List.mem_append_left _ halternates.mem)
  obtain ⟨ys, r, t, u, hys, hx, hoffset, hlength⟩ := Document.exists_reads_of_mem_targets hmem
  obtain ⟨xs, r', v, hrow⟩ := halternates.exists_row htargets
    (exists_delimiters_of_isClosed hflattens.closed halternates.getLast?_eq) hys hx hoffset.symm
  obtain ⟨zs, hzs⟩ := Reader.exists_reads r' v
  rw [← (hys.append hrow.reads).run_eq] at hzs
  -- the row is the literal that the edits replace
  obtain ⟨rfl, ht⟩ : before = Token.textOf ys ∧ head.delimiters.wrap head.text ++ rest = t := by
    refine Text.append_inj_of_size_eq (hflattens.source_eq.symm.trans hys.text_append.symm) ?_
    rw [← hflattens.start, hoffset, hys.offset_eq]
    exact Nat.zero_add _
  obtain ⟨literal, hliteral, hstop⟩ := hflattens.laid.exists_append
  obtain ⟨-, rfl⟩ : literal = Token.textOf xs ∧ after = v := by
    refine
      Text.append_inj_of_size_eq ((hliteral.symm.trans ht).trans hrow.reads.text_append.symm) ?_
    have hsize := hrow.stop.1
    rw [hstop, ← hflattens.start, hoffset, hrow.reads.offset_eq] at hsize
    omega
  have hhead : ∃ c w, t = c :: w ∧ Token.isNeutral c = true ∧ Text.isBlank c = false := by
    obtain ⟨c, w, hcons, hc⟩ :=
      Token.wrap_eq_cons (d := head.delimiters) hflattens.isFirst head.text
    exact ⟨c, w ++ rest, by rw [← ht, hcons, List.cons_append], hc⟩
  rw [hflattens.isFirst, if_pos rfl] at hlength
  exact ⟨q, head, tail, ys, r, t, xs, r', after, zs, hflattens.quote, halternates,
    ⟨hys, hoffset, List.length_eq_zero_iff.mp hlength, hhead, hrow, hzs⟩,
    hflattens.splices.applyAll?⟩

namespace ReadsLiteral

open Concatenation (flattened quotedBodies)

variable {head : Body} {tail : List (Group × Body)} {ys xs zs : List Token} {r r' : Reader}
  {t v : Text} {q : Quote}

/-- What stands in front of the literal is read the same in front of a quote. -/
lemma reads_front (h : ReadsLiteral source head tail ys r t xs r' v zs) (q : Quote) :
    Reader.Reads {} (Token.textOf ys ++ (flattened source q head tail ++ v)) ys r
      (flattened source q head tail ++ v) := by
  have hys := h.before
  obtain ⟨c, w, rfl, hneutral, hblank⟩ := h.neutral
  obtain ⟨w', hcons⟩ := Concatenation.flattened_eq_cons source q head tail v
  have hfront := hys.congr (m := []) hneutral (Token.isNeutral_quote q)
    (fun _ _ _ => .inr (.inl ⟨hblank, Concatenation.isBlank_quote q⟩)) w'
  rwa [List.nil_append, ← hcons] at hfront

lemma diagnostics_eq_nil (h : ReadsLiteral source head tail ys r t xs r' v zs)
    (hd : (Document.read source).diagnostics = []) : r'.diagnostics = [] := by
  rw [Document.diagnostics_read] at hd
  exact h.behind.diagnostics_eq_nil hd

lemma isClear (h : ReadsLiteral source head tail ys r t xs r' v zs)
    (hd : (Document.read source).diagnostics = []) : r.IsClear :=
  ⟨h.frames, h.row.reads.diagnostics_eq_nil (h.diagnostics_eq_nil hd)⟩

/-- Without a line comment at the end of an interpolation, the concatenation is read as it should
be. -/
lemma read_flattened (h : ReadsLiteral source head tail ys r t xs r' v zs)
    (hd : (Document.read source).diagnostics = [])
    (hsep : ∀ a ∈ head :: tail.map Prod.snd, ∀ c, .plain c ∈ Atom.read a.text →
      Escape.isSeparator c = false)
    (hcomments : ∀ p ∈ tail, p.1.trailing.start ∉ Document.lineComments source) {result : Text}
    (hresult : result = Token.textOf ys ++ (flattened source q head tail ++ v)) :
    (Document.read result).diagnostics = [] ∧
      (Target.bodiesOf (Document.read result).targets).map Body.written
        = (Target.bodiesOf (Document.read source).targets).map
          (Escape.requote q (head :: tail.map Prod.snd)) ∧
      ∀ b ∈ quotedBodies source q head.span.start head tail,
        b ∈ Target.bodiesOf (Document.read result).targets := by
  have hrow := h.row
  have hzs := h.behind
  obtain ⟨ys', s, hys', hs, hbars, hrequotes, hplaces⟩ :=
    hrow.exists_reads_flattened (q := q) (h.diagnostics_eq_nil hd) hsep hcomments (h.isClear hd) v
  have hfollows : Reader.Follows 0 r' s := by
    refine ⟨hbars.trans hrow.stop.2.1.symm, ⟨[], rfl, ?_⟩, hs.2⟩
    rw [Reader.stack_eq_nil.mpr hrow.stop.2.2, Reader.stack_eq_nil.mpr hs.1, List.append_nil]
  rw [Document.diagnostics_read] at hd
  obtain ⟨s', hzs', hs'⟩ := hzs.follows hzs.stays_zero hd hfollows
  have hreads := (h.reads_front q).append (hys'.append hzs')
  rw [← hresult] at hreads
  have hrun : Reader.run {} result = s' := by
    rw [hreads.run_eq, Reader.run]
  have hstart : r.offset = 0 + (Token.textOf ys).size := h.before.offset_eq
  refine ⟨?_, ?_, ?_⟩
  · rw [Document.diagnostics_read, hrun, hs'.diagnostics]
  · have hall := (hrequotes.append_left (Token.bodiesAt 0 ys)).append_right
      (Token.bodiesAt r'.offset zs)
    have hbodies : Target.bodiesOf (Document.read source).targets
        = Token.bodiesAt 0 ys ++ Token.bodiesAt r.offset xs ++ Token.bodiesAt r'.offset zs := by
      rw [Document.bodiesOf_read, (h.before.append (hrow.reads.append hzs)).found_eq,
        Token.bodiesAt_append, Token.bodiesAt_append, hrow.reads.offset_eq, hstart]
      simp [Reader.found, Target.bodiesOf]
    rw [← hbodies] at hall
    rw [← hall.eq_map (Document.nodup_bodiesOf_read source), Document.bodiesOf_read, hrun,
      hreads.found_eq, Token.bodiesAt_append, Token.bodiesAt_append]
    simp only [Reader.found, Target.bodiesOf, List.reverse_nil, List.flatMap_nil, List.nil_append,
      List.map_append, List.append_assoc]
    rw [Token.map_written_bodiesAt _ 0 ys', Token.map_written_bodiesAt _ r'.offset zs]
  · intro a ha
    rw [h.start] at ha
    rw [Document.bodiesOf_read, hrun, hreads.found_eq, Token.bodiesAt_append, Token.bodiesAt_append,
      ← hstart]
    exact List.mem_append_right _ (List.mem_append_right _ (List.mem_append_left _ (hplaces a ha)))

/-- A line comment at the end of an interpolation takes in the start of a quoted body. -/
lemma exists_not_mem (h : ReadsLiteral source head tail ys r t xs r' v zs)
    (hd : (Document.read source).diagnostics = [])
    (hsep : ∀ a ∈ head :: tail.map Prod.snd, ∀ c, .plain c ∈ Atom.read a.text →
      Escape.isSeparator c = false)
    (hcomment : ∃ p ∈ tail, p.1.trailing.start ∈ Document.lineComments source) :
    ∃ b ∈ quotedBodies source q head.span.start head tail, b ∉ Target.bodiesOf
      (Document.read (Token.textOf ys ++ (flattened source q head tail ++ v))).targets := by
  obtain ⟨a, ha, ys', s, x, u, u', hys', hx, hlt, hlt'⟩ :=
    h.row.exists_swallowed (q := q) (h.diagnostics_eq_nil hd) hsep hcomment (h.isClear hd) v
  rw [← h.start] at ha
  exact ⟨a, ha, Document.not_mem_bodiesOf_read ((h.reads_front q).append hys') hx hlt hlt'⟩

end ReadsLiteral

/-- Flattening a template literal that stands outside all interpolations keeps the strings of a
document without problems: there are none afterwards, the bodies of the literal are quoted and in
their places, and all others are written as they were. This is so exactly if no line comment ends
where the code of an interpolation of the literal does. -/
theorem read_of_run_toNormal (h : Command.toNormal.run style source offset = .ok edits)
    (hd : (Document.read source).diagnostics = [])
    (hfind : Place.find? offset (Document.read source).targets = some place)
    (htop : place.targets = (Document.read source).targets)
    (hsep : ∀ b, .body b ∈ place.literal → ∀ c, .plain c ∈ Atom.read b.text →
      Escape.isSeparator c = false) :
    ∃ q head tail result,
      style.resolve (.normal (Document.read source).commonQuote) = .normal q ∧
      Concatenation.Alternates place.literal head tail ∧
      Edit.applyAll? source edits = some result ∧
      ((∀ p ∈ tail, p.1.trailing.start ∉ Document.lineComments source) ↔
        (Document.read result).diagnostics = [] ∧
        (Target.bodiesOf (Document.read result).targets).map Body.written
          = (Target.bodiesOf (Document.read source).targets).map
            (Escape.requote q (head :: tail.map Prod.snd)) ∧
        ∀ b ∈ Concatenation.quotedBodies source q head.span.start head tail,
          b ∈ Target.bodiesOf (Document.read result).targets) := by
  obtain ⟨q, head, tail, ys, r, t, xs, r', v, zs, hq, halternates, hreads, happly⟩ :=
    exists_readsLiteral h hfind htop
  have hsep' : ∀ a ∈ head :: tail.map Prod.snd, ∀ c, .plain c ∈ Atom.read a.text →
      Escape.isSeparator c = false := fun a ha => hsep a (halternates.body_mem a ha)
  refine ⟨q, head, tail, _, hq, halternates, happly, ?_⟩
  constructor
  · exact fun hcomments => hreads.read_flattened hd hsep' hcomments rfl
  · rintro ⟨-, -, hplaces⟩ p hp hcomment
    obtain ⟨b, hb, hnot⟩ := hreads.exists_not_mem hd hsep' ⟨p, hp, hcomment⟩
    exact hnot (hplaces b hb)

/-- A template in the code of an interpolation. -/
theorem read_of_run_toNormal_nested :
    Command.toNormal.run .single "`'$\x7b`b`\x7d`".toList 1
        = .ok [⟨⟨0, 4⟩, "'\\'' + ".toList⟩, ⟨⟨7, 9⟩, " + ''".toList⟩] ∧
      (Document.read "`'$\x7b`b`\x7d`".toList).diagnostics = [] ∧
      ∃ place, Place.find? 1 (Document.read "`'$\x7b`b`\x7d`".toList).targets = some place ∧
        place.targets = (Document.read "`'$\x7b`b`\x7d`".toList).targets ∧
        (∀ b, .body b ∈ place.literal → ∀ c, .plain c ∈ Atom.read b.text →
          Escape.isSeparator c = false) ∧
        ∃ q head tail result,
          QuoteStyle.single.resolve (.normal (Document.read "`'$\x7b`b`\x7d`".toList).commonQuote)
            = .normal q ∧
          Concatenation.Alternates place.literal head tail ∧
          Edit.applyAll? "`'$\x7b`b`\x7d`".toList
            [⟨⟨0, 4⟩, "'\\'' + ".toList⟩, ⟨⟨7, 9⟩, " + ''".toList⟩] = some result ∧
          ((∀ p ∈ tail, p.1.trailing.start ∉ Document.lineComments "`'$\x7b`b`\x7d`".toList) ↔
            (Document.read result).diagnostics = [] ∧
            (Target.bodiesOf (Document.read result).targets).map Body.written
              = (Target.bodiesOf (Document.read "`'$\x7b`b`\x7d`".toList).targets).map
                (Escape.requote q (head :: tail.map Prod.snd)) ∧
            ∀ b ∈ Concatenation.quotedBodies "`'$\x7b`b`\x7d`".toList q head.span.start head tail,
              b ∈ Target.bodiesOf (Document.read result).targets) := by
  have h : Command.toNormal.run .single "`'$\x7b`b`\x7d`".toList 1
      = .ok [⟨⟨0, 4⟩, "'\\'' + ".toList⟩, ⟨⟨7, 9⟩, " + ''".toList⟩] := by
    cbv
  have hd : (Document.read "`'$\x7b`b`\x7d`".toList).diagnostics = [] := by
    cbv
  obtain ⟨place, hfind, htop, hliteral⟩ :
      ∃ place, Place.find? 1 (Document.read "`'$\x7b`b`\x7d`".toList).targets = some place ∧
        place.targets = (Document.read "`'$\x7b`b`\x7d`".toList).targets ∧
        place.literal = [.body ⟨.template .backtick (some .interpolation), ['\''], ⟨0, 4⟩⟩,
          .group ⟨false, ⟨4, 4⟩, ⟨7, 7⟩, ⟨4, 7⟩⟩
            [.body ⟨.template .backtick (some .backtick), ['b'], ⟨4, 7⟩⟩],
          .body ⟨.template .brace (some .backtick), [], ⟨7, 9⟩⟩] :=
    ⟨⟨[], ⟨.template .backtick (some .interpolation), ['\''], ⟨0, 4⟩⟩,
        [.group ⟨false, ⟨4, 4⟩, ⟨7, 7⟩, ⟨4, 7⟩⟩
            [.body ⟨.template .backtick (some .backtick), ['b'], ⟨4, 7⟩⟩],
          .body ⟨.template .brace (some .backtick), [], ⟨7, 9⟩⟩]⟩, by cbv, by cbv, rfl⟩
  have hsep : ∀ b, .body b ∈ place.literal → ∀ c, .plain c ∈ Atom.read b.text →
      Escape.isSeparator c = false := by
    intro b hb c hc
    rw [hliteral] at hb
    obtain rfl | rfl : b = _ ∨ b = _ := by simpa using hb
    · obtain rfl : c = '\'' := by simpa [Atom.read] using hc
      rfl
    · simp [Atom.read] at hc
  exact ⟨h, hd, place, hfind, htop, hsep, read_of_run_toNormal h hd hfind htop hsep⟩

set_option maxRecDepth 4000 in
/-- The break that ends a line comment goes away, and the comment takes in the string behind it. -/
theorem read_of_run_toNormal_lineComment :
    Command.toNormal.run .single "`$\x7bb//\n\x7dd`".toList 0
        = .ok [⟨⟨0, 3⟩, "'' + ".toList⟩, ⟨⟨6, 10⟩, " + 'd'".toList⟩] ∧
      (Document.read "`$\x7bb//\n\x7dd`".toList).diagnostics = [] ∧
      ∃ place head p,
        Place.find? 0 (Document.read "`$\x7bb//\n\x7dd`".toList).targets = some place ∧
        place.targets = (Document.read "`$\x7bb//\n\x7dd`".toList).targets ∧
        (∀ b, .body b ∈ place.literal → ∀ c, .plain c ∈ Atom.read b.text →
          Escape.isSeparator c = false) ∧
        Concatenation.Alternates place.literal head [p] ∧
        Edit.applyAll? "`$\x7bb//\n\x7dd`".toList
          [⟨⟨0, 3⟩, "'' + ".toList⟩, ⟨⟨6, 10⟩, " + 'd'".toList⟩] = some "'' + b// + 'd'".toList ∧
        (Target.bodiesOf (Document.read "'' + b// + 'd'".toList).targets).map Body.written
          ≠ (Target.bodiesOf (Document.read "`$\x7bb//\n\x7dd`".toList).targets).map
            (Escape.requote .single [head, p.2]) := by
  have hread : Document.read "`$\x7bb//\n\x7dd`".toList = ⟨
      [.body ⟨.template .backtick (some .interpolation), [], ⟨0, 3⟩⟩,
        .group ⟨false, ⟨3, 3⟩, ⟨6, 7⟩, ⟨3, 7⟩⟩ [],
        .body ⟨.template .brace (some .backtick), ['d'], ⟨7, 10⟩⟩],
      [], [.opened 3, .closed 7]⟩ := by
    cbv
  have hresult : Document.read "'' + b// + 'd'".toList
      = ⟨[.body ⟨.quoted .single true, [], ⟨0, 2⟩⟩], [], []⟩ := by
    cbv
  have hrun : Command.toNormal.run .single "`$\x7bb//\n\x7dd`".toList 0
      = .ok [⟨⟨0, 3⟩, "'' + ".toList⟩, ⟨⟨6, 10⟩, " + 'd'".toList⟩] := by
    simp only [run, hread]
    rfl
  rw [hrun, hread, hresult]
  refine ⟨rfl, rfl, ⟨[], ⟨.template .backtick (some .interpolation), [], ⟨0, 3⟩⟩,
    [.group ⟨false, ⟨3, 3⟩, ⟨6, 7⟩, ⟨3, 7⟩⟩ [],
      .body ⟨.template .brace (some .backtick), ['d'], ⟨7, 10⟩⟩]⟩, _, _, by cbv, rfl, ?_,
    .cons rfl (.single _), by cbv, by decide⟩
  intro b hb c hc
  have hb' : .body b ∈ [Target.body ⟨.template .backtick (some .interpolation), [], ⟨0, 3⟩⟩,
    .group ⟨false, ⟨3, 3⟩, ⟨6, 7⟩, ⟨3, 7⟩⟩ [],
    .body ⟨.template .brace (some .backtick), ['d'], ⟨7, 10⟩⟩] := hb
  obtain rfl | rfl : b = _ ∨ b = _ := by simpa using hb'
  · simp [Atom.read] at hc
  · obtain rfl : c = 'd' := by simpa [Atom.read] using hc
    rfl

end Command

end Requote
