import Requote.Proofs.Interpolation

/-!
# Flattening a template literal

The edits that turn a template literal into a concatenation replace one stretch of the text for each
body: the body, with the blanks of the interpolations next to it. What they leave is the code of the
interpolations. So the new text is the quoted bodies with the code between them, every operand as it
was written.
-/

namespace Requote

/-! ### The literal under a cursor -/

namespace Place

variable {p : Place}

/-- What is taken of a list is all of it, or ends with an element that has the property. -/
lemma exists_takeThrough_append {α : Type} (q : α → Bool) (l : List α) :
    ∃ rest, l = takeThrough q l ++ rest ∧
      (rest = [] ∨ ∃ a, (takeThrough q l).getLast? = some a ∧ q a = true) := by
  induction l with
  | nil => exact ⟨[], rfl, .inl rfl⟩
  | cons a l ih =>
    obtain ⟨rest, hrest, hlast⟩ := ih
    by_cases ha : q a = true
    · exact ⟨l, by simp [takeThrough, ha], .inr ⟨a, by simp [takeThrough, ha], ha⟩⟩
    · refine ⟨rest, by simp [takeThrough, ha, ← hrest], hlast.imp_right ?_⟩
      rintro ⟨a', ha', hq⟩
      exact ⟨a', by simp [takeThrough, ha, List.getLast?_cons, ha'], hq⟩

lemma takeThrough_ne_nil {α : Type} (q : α → Bool) {l : List α} (hl : l ≠ []) :
    takeThrough q l ≠ [] := by
  match l with
  | [] => exact absurd rfl hl
  | a :: l =>
    rw [takeThrough]
    split <;> simp

/-- The literal of a body takes in what is around the body, up to a target that ends it or to the
end of the list. -/
lemma exists_literal_eq_of_ends (p : Place) : ∃ pre front back post,
    p.before = pre ++ front ∧ p.after = back ++ post ∧ p.literal = front ++ .body p.body :: back ∧
      (post = [] ∨ ∃ a, p.literal.getLast? = some a ∧ isLast a = true) := by
  obtain ⟨pre, hpre⟩ : ∃ pre, p.before
      = pre ++ (if p.body.isFirst then [] else (takeThrough isFirst p.before.reverse).reverse) := by
    split
    · exact ⟨p.before, by simp⟩
    · obtain ⟨rest, hrest, -⟩ := exists_takeThrough_append isFirst p.before.reverse
      refine ⟨rest.reverse, ?_⟩
      rw [← List.reverse_append, ← hrest, List.reverse_reverse]
  obtain ⟨post, hpost, hends⟩ : ∃ post, p.after
      = (if p.body.isLast then [] else takeThrough isLast p.after) ++ post ∧
        (post = [] ∨ ∃ a, p.literal.getLast? = some a ∧ isLast a = true) := by
    rw [literal]
    split
    · rename_i hlast
      exact ⟨p.after, by simp, .inr ⟨.body p.body, by simp, hlast⟩⟩
    · obtain ⟨post, hpost, hends⟩ := exists_takeThrough_append isLast p.after
      refine ⟨post, hpost, hends.imp_right ?_⟩
      rintro ⟨a, ha, hlast⟩
      exact ⟨a, by simp [List.getLast?_cons, ha], hlast⟩
  exact ⟨pre, _, _, post, hpre, hpost, rfl, hends⟩

lemma exists_literal_eq (p : Place) : ∃ pre front back post,
    p.before = pre ++ front ∧ p.after = back ++ post ∧
      p.literal = front ++ .body p.body :: back := by
  obtain ⟨pre, front, back, post, hbefore, hafter, hliteral, -⟩ := p.exists_literal_eq_of_ends
  exact ⟨pre, front, back, post, hbefore, hafter, hliteral⟩

/-- The literal of a body is a stretch of the list that the body is in. -/
lemma exists_targets_eq (p : Place) : ∃ pre post, p.targets = pre ++ (p.literal ++ post) := by
  obtain ⟨pre, front, back, post, hbefore, hafter, hliteral⟩ := p.exists_literal_eq
  exact ⟨pre, post, by simp [targets, hbefore, hafter, hliteral]⟩

end Place

namespace Concatenation

/-- Targets that are a body, and each group with the body that follows it, in turn. -/
inductive Alternates : List Target → Body → List (Group × Body) → Prop where
  | single (b : Body) : Alternates [.body b] b []
  | cons {b b' : Body} {g : Group} {inside ts : List Target} {tail : List (Group × Body)}
      (hblank : Target.isBlankGroup g inside = false) (h : Alternates (.body b' :: ts) b' tail) :
      Alternates (.body b :: .group g inside :: .body b' :: ts) b ((g, b') :: tail)

lemma Alternates.mem {ts : List Target} {b : Body} {tail : List (Group × Body)}
    (h : Alternates ts b tail) : .body b ∈ ts := by
  cases h <;> exact List.mem_cons_self

lemma readTail_cons_eq_ok {g : Group} {inside ts : List Target} {b : Body}
    {tail : List (Group × Body)} (h : readTail (.group g inside :: .body b :: ts) = .ok tail) :
    Target.isBlankGroup g inside = false ∧
      ∃ tail', readTail ts = .ok tail' ∧ tail = (g, b) :: tail' := by
  simp only [readTail, bind, Except.bind, pure, Except.pure, throw, throwThe,
    MonadExceptOf.throw] at h
  cases hblank : Target.isBlankGroup g inside
  · simp only [hblank, Bool.false_eq_true, if_false] at h
    split at h
    · split at h
      · simp at h
      · rename_i tail' htail
        exact ⟨rfl, tail', htail, (Except.ok.inj h).symm⟩
    · simp at h
  · simp [hblank] at h

lemma alternates_of_readTail {b : Body} {ts : List Target} {tail : List (Group × Body)}
    (h : readTail ts = .ok tail) : Alternates (.body b :: ts) b tail := by
  match ts with
  | [] =>
    obtain rfl : [] = tail := Except.ok.inj h
    exact .single b
  | .body b' :: ts => simp [readTail, throw, throwThe, MonadExceptOf.throw] at h
  | [.group g inside] | .group g inside :: .group g' inside' :: ts =>
    simp only [readTail] at h
    split at h <;> exact absurd h (by simp [throw, throwThe, MonadExceptOf.throw])
  | .group g inside :: .body b' :: ts =>
    obtain ⟨hblank, tail', htail, rfl⟩ := readTail_cons_eq_ok h
    exact .cons hblank (alternates_of_readTail htail)

lemma alternates_of_readFragments {ts : List Target} {fragments : Fragments}
    (h : readFragments ts = .ok fragments) :
    Alternates ts fragments.head fragments.tail ∧ fragments.head.isFirst = true := by
  simp only [readFragments, bind, Except.bind, pure, Except.pure, throw, throwThe,
    MonadExceptOf.throw] at h
  split at h
  · simp at h
  · split at h
    · rename_i b ts _
      split at h
      · rename_i hpiece
        split at h
        · simp at h
        · rename_i tail htail
          obtain rfl := Except.ok.inj h
          simp only [isPiece, Bool.and_eq_true, beq_iff_eq] at hpiece
          exact ⟨alternates_of_readTail htail, hpiece.1.1.2⟩
      · simp at h
    · simp at h

lemma readFragments_singleton {b : Body} {o : Opening}
    (hd : b.delimiters = .template o (some .backtick)) (hfirst : b.isFirst = true) :
    readFragments [.body b] = .ok ⟨b, []⟩ := by
  have hpiece : isPiece b true true = true := by
    simp [isPiece, hfirst, Body.kind, Body.isLast, Body.isTerminated, hd, Delimiters.kind,
      Kind.isTemplate, Delimiters.isLast, Delimiters.isTerminated, Delimiters.closing?]
  simp [readFragments, readTail, hpiece, bind, Except.bind, pure, Except.pure]

end Concatenation

/-! ### The text of an interpolation -/

/-- Between two bodies of a template literal stand blanks, code, and blanks, and there is code
unless the interpolation is blank. -/
lemma Document.split_interpolation {source front rest : Text} {path : List Nat}
    {ts inside : List Target} {i : Nat} {b b' : Body} {g : Group}
    (hts : Target.inside? (Document.read source).targets path = some ts)
    (hb : ts[i]? = some (.body b)) (hg : ts[i + 1]? = some (.group g inside))
    (hb' : ts[i + 1 + 1]? = some (.body b')) (hblank : Target.isBlankGroup g inside = false)
    (hsource : source = front ++ (b.delimiters.wrap b.text ++ rest))
    (hspan : b.span = ⟨front.size, front.size + (b.delimiters.wrap b.text).size⟩) :
    ∃ lead code trail rest',
      rest = lead ++ (code ++ (trail ++ (b'.delimiters.wrap b'.text ++ rest'))) ∧
      code ≠ [] ∧ g.leading.stop = b.span.stop + lead.size ∧
      g.trailing.start = g.leading.stop + code.size ∧
      b'.span = ⟨g.trailing.start + trail.size,
        g.trailing.start + trail.size + (b'.delimiters.wrap b'.text).size⟩ := by
  obtain ⟨start, stop, l, hchain, hl⟩ := exists_chain_of_inside? hts
  obtain ⟨ys, r₀, u₀, zs, r, u, f, fs, hgroup⟩ := exists_readsGroup hts hg hb'
  obtain ⟨lead, mid, trail, r₁, u₁, r₂, u₂, rfl, hparts⟩ := hgroup.exists_parts hblank
  have hstop : g.span.start = b.span.stop := (hchain.next_of_body hl hb).2 _ _ hg
  -- the row of the interpolation starts where the text after the body does
  obtain ⟨-, rfl⟩ : Token.textOf ys = front ++ b.delimiters.wrap b.text ∧ u₀ = rest := by
    have hsplit : Token.textOf ys ++ u₀ = front ++ b.delimiters.wrap b.text ++ rest := by
      rw [hgroup.before.text_append, hsource, List.append_assoc]
    refine Text.append_inj_of_size_eq hsplit ?_
    have hsize : r₀.offset = (Token.textOf ys).size := by simpa using hgroup.before.offset_eq
    rw [← hsize, hgroup.start, hstop, hspan, Text.size_append]
  obtain ⟨v, hx⟩ := hgroup.closes
  obtain rfl : b'.delimiters.wrap b'.text ++ v = u := (Token.next?_eq_some hx).1
  have hrest := hgroup.row.reads.text_append
  simp only [Token.textOf_append, List.append_assoc] at hrest
  have hne : Token.textOf mid ≠ [] := by
    have hmid := hparts.reads_mid
    obtain ⟨x, mid, rfl⟩ := List.exists_cons_of_ne_nil hparts.ne_nil
    exact hmid.textOf_ne_nil
  have hleading : g.leading.stop = b.span.stop + (Token.textOf lead).size := by
    rw [← hparts.leading, hparts.reads_lead.offset_eq, hgroup.start, hstop]
  have htrailing : g.trailing.start = g.leading.stop + (Token.textOf mid).size := by
    rw [← hparts.trailing, hparts.reads_mid.offset_eq, hparts.leading]
  have hspan' : b'.span = ⟨b'.span.start, b'.span.start + (b'.delimiters.wrap b'.text).size⟩ := by
    obtain ⟨before, after, -, hb'⟩ := split_of_mem_bodiesOf_read
      (Target.mem_bodiesOf_of_inside? hts (List.mem_of_getElem? hb'))
    rw [hb']
  have hstart : b'.span.start = g.trailing.start + (Token.textOf trail).size := by
    rw [hgroup.stop, hparts.reads_trail.offset_eq, hparts.trailing]
  rw [hstart] at hspan'
  exact ⟨Token.textOf lead, Token.textOf mid, Token.textOf trail, v, hrest.symm, hne, hleading,
    htrailing, hspan'⟩

/-! ### The text of a flattened literal -/

/-- The code of an interpolation, without the blanks at either end. -/
def Group.code (source : Text) (g : Group) : Text :=
  (source.slice? g.leading.stop g.trailing.start).getD []

namespace Concatenation

/-- The code of an interpolation as an operand: in parentheses if an operator in it binds no tighter
than `+`. -/
def operand (source : Text) (g : Group) : Text :=
  if g.lowPriority then '(' :: (g.code source ++ [')']) else g.code source

/-- A body of a template as a quoted literal. -/
def quoted (quote : Quote) (b : Body) : Text :=
  quote.char :: (Escape.normalOfTemplate quote b.text ++ [quote.char])

/-- A template literal as a concatenation. -/
def flattened (source : Text) (quote : Quote) (b : Body) : List (Group × Body) → Text
  | []              => quoted quote b
  | (g, b') :: tail =>
    quoted quote b ++ (" + ".toList ++ (operand source g ++ (" + ".toList
      ++ flattened source quote b' tail)))

/-- The last body of a template literal. -/
def lastBody (b : Body) : List (Group × Body) → Body
  | []              => b
  | (_, b') :: tail => lastBody b' tail

/-- How a template literal stands in a text that starts with its first body, at an offset: between
two bodies stand blanks, code, and blanks. The last text is what follows the literal. -/
inductive Laid (source : Text) : Nat → Text → Body → List (Group × Body) → Text → Prop where
  | single {offset : Nat} {b : Body} {after : Text}
      (hspan : b.span = ⟨offset, offset + (b.delimiters.wrap b.text).size⟩) :
      Laid source offset (b.delimiters.wrap b.text ++ after) b [] after
  | cons {offset : Nat} {b b' : Body} {g : Group} {tail : List (Group × Body)}
      {lead trail rest after : Text}
      (hspan : b.span = ⟨offset, offset + (b.delimiters.wrap b.text).size⟩)
      (hlead : g.leading.stop = b.span.stop + lead.size)
      (hcode : g.trailing.start = g.leading.stop + (g.code source).size)
      (hslice : source.slice? g.leading.stop g.trailing.start = some (g.code source))
      (hne : g.code source ≠ []) (htrail : b'.span.start = g.trailing.start + trail.size)
      (h : Laid source b'.span.start rest b' tail after) :
      Laid source offset
        (b.delimiters.wrap b.text ++ (lead ++ (g.code source ++ (trail ++ rest)))) b
        ((g, b') :: tail) after

variable {source t after : Text} {offset : Nat} {b : Body} {tail : List (Group × Body)} {q : Quote}

lemma convertAndWrap_eq_quoted (q : Quote) (b : Body) :
    Escape.convertAndWrap .template (.normal q) true true b.text = quoted q b := by
  simp [Escape.convertAndWrap, Escape.convert, Delimiters.ofKind, Delimiters.wrap,
    Delimiters.opening, Delimiters.closing, Delimiters.closing?, quoted]

/-- The two edits next to an interpolation make its code an operand. -/
lemma openOperand_append (source : Text) (g : Group) (t : Text) :
    openOperand g ++ (g.code source ++ (closeOperand g ++ t))
      = " + ".toList ++ (operand source g ++ (" + ".toList ++ t)) := by
  cases hlow : g.lowPriority <;> simp [openOperand, closeOperand, operand, hlow]

/-- The edits of a literal put the concatenation in its place. -/
lemma Laid.splices (h : Laid source offset t b tail after) {before : Option Group} {start : Nat}
    {kept gap : Text} (hstart : (before.map (·.trailing.start)).getD offset = start + kept.size)
    (hgap : offset = start + kept.size + gap.size) :
    Edit.Splices start (kept ++ (gap ++ t)) (editsFrom q before b tail)
      (kept ++ ((before.map closeOperand).getD [] ++ (flattened source q b tail ++ after))) := by
  induction h generalizing before start kept gap with
  | @single offset b after hspan =>
    have hsplice : Edit.Splices start (kept ++ (gap ++ b.delimiters.wrap b.text ++ after))
        [bodyEdit q before b none] (kept ++ ((bodyEdit q before b none).text ++ after)) := .cons
      (by simpa [bodyEdit, hspan] using hstart)
      (by simp only [bodyEdit, hspan, hstart, Option.map_none, Option.getD_none, Text.size_append]
          omega)
      (.nil _ _)
    simpa [editsFrom, bodyEdit, flattened, convertAndWrap_eq_quoted] using hsplice
  | @cons offset b b' g tail lead trail rest after hspan hlead hcode hslice hne htrail h ih =>
    have hrest := @ih (some g) g.leading.stop (g.code source) trail hcode (by rw [htrail, hcode])
    have hsplice : Edit.Splices start (kept ++ (gap ++ (b.delimiters.wrap b.text ++ lead)
          ++ (g.code source ++ (trail ++ rest))))
        (bodyEdit q before b (some g) :: editsFrom q (some g) b' tail)
        (kept ++ ((bodyEdit q before b (some g)).text ++ (g.code source ++ (closeOperand g
          ++ (flattened source q b' tail ++ after))))) := .cons
      (by simpa [bodyEdit, hspan] using hstart)
      (by simp only [bodyEdit, hspan, hstart, hlead, Option.map_some, Option.getD_some,
            Text.size_append]
          omega)
      hrest
    have hoperand := openOperand_append source g (flattened source q b' tail ++ after)
    simp only [bodyEdit, Option.map_some, Option.getD_some, convertAndWrap_eq_quoted,
      List.append_assoc, hoperand] at hsplice
    simpa only [editsFrom, bodyEdit, flattened, Option.map_some, Option.getD_some,
      convertAndWrap_eq_quoted, List.append_assoc] using hsplice

/-- What the edit of a body takes away is the body and what stands around it. -/
def Covers (e : Edit) (b : Body) : Prop :=
  e.span.start ≤ b.span.start ∧ b.span.stop ≤ e.span.stop

/-- There is one edit for each body. -/
lemma Laid.covers (h : Laid source offset t b tail after) {before : Option Group}
    (hbefore : ∀ g ∈ before, g.trailing.start ≤ offset) :
    List.Forall₂ Covers (editsFrom q before b tail) (b :: tail.map Prod.snd) := by
  induction h generalizing before with
  | @single offset b after hspan =>
    refine .cons ⟨?_, Nat.le_refl _⟩ .nil
    cases before with
    | none => exact Nat.le_refl _
    | some g => simpa [bodyEdit, hspan] using hbefore g rfl
  | @cons offset b b' g tail lead trail rest after hspan hlead hcode hslice hne htrail h ih =>
    refine .cons ⟨?_, ?_⟩ (ih ?_)
    · cases before with
      | none => exact Nat.le_refl _
      | some g => simpa [bodyEdit, hspan] using hbefore g rfl
    · simp only [bodyEdit, Option.map_some, Option.getD_some, hlead]
      omega
    · rintro g' hg'
      obtain rfl : g = g' := by simpa using hg'
      omega

lemma Laid.code_of_mem (h : Laid source offset t b tail after) :
    ∀ p ∈ tail, source.slice? p.1.leading.stop p.1.trailing.start = some (p.1.code source) ∧
      p.1.code source ≠ [] := by
  induction h with
  | single => simp
  | cons _ _ _ hslice hne _ _ ih =>
    intro p hp
    rcases List.mem_cons.mp hp with rfl | hp
    · exact ⟨hslice, hne⟩
    · exact ih p hp

/-- A literal ends where its last body does. -/
lemma Laid.exists_append (h : Laid source offset t b tail after) :
    ∃ literal, t = literal ++ after ∧ (lastBody b tail).span.stop = offset + literal.size := by
  induction h with
  | @single offset b after hspan => exact ⟨b.delimiters.wrap b.text, rfl, by rw [lastBody, hspan]⟩
  | @cons offset b b' g tail lead trail rest after hspan hlead hcode hslice hne htrail h ih =>
    obtain ⟨literal, rfl, hstop⟩ := ih
    refine ⟨b.delimiters.wrap b.text ++ (lead ++ (g.code source ++ (trail ++ literal))), by simp,
      ?_⟩
    rw [lastBody, hstop, htrail, hcode, hlead, hspan]
    simp only [Text.size_append]
    omega

/-- The literal of a body in a document stands in the source text like this. -/
lemma Alternates.laid {path : List Nat} {pre literal post : List Target} {front rest : Text}
    (h : Alternates literal b tail)
    (hts : Target.inside? (Document.read source).targets path = some (pre ++ (literal ++ post)))
    (hsource : source = front ++ (b.delimiters.wrap b.text ++ rest))
    (hspan : b.span = ⟨front.size, front.size + (b.delimiters.wrap b.text).size⟩) :
    ∃ after, Laid source front.size (b.delimiters.wrap b.text ++ rest) b tail after := by
  induction h generalizing pre front rest with
  | single b => exact ⟨rest, .single hspan⟩
  | @cons b b' g inside ts tail hblank h ih =>
    obtain ⟨lead, code, trail, rest', rfl, hne, hleading, htrailing, hspan'⟩ :=
      Document.split_interpolation (i := pre.length) hts (by simp) (by simp) (by
        rw [Nat.add_assoc, List.getElem?_append_right (Nat.le_add_right _ _),
          Nat.add_sub_cancel_left]
        rfl) hblank hsource hspan
    have hslice : source.slice? g.leading.stop g.trailing.start = some code := by
      have hsize : g.leading.stop = (front ++ (b.delimiters.wrap b.text ++ lead)).size := by
        rw [hleading, hspan]
        simp only [Text.size_append]
        omega
      rw [htrailing, hsize, hsource]
      simpa using Text.slice?_append (front ++ (b.delimiters.wrap b.text ++ lead)) code
        (trail ++ (b'.delimiters.wrap b'.text ++ rest'))
    have hcode : g.code source = code := by rw [Group.code, hslice, Option.getD_some]
    have hstart : b'.span.start
        = (front ++ (b.delimiters.wrap b.text ++ (lead ++ (code ++ trail)))).size := by
      rw [hspan', htrailing, hleading, hspan]
      simp only [Text.size_append]
      omega
    obtain ⟨after, hlaid⟩ := @ih (pre ++ [.body b, .group g inside])
      (front ++ (b.delimiters.wrap b.text ++ (lead ++ (code ++ trail)))) rest' (by simpa using hts)
      (by simpa using hsource) (by rw [← hstart, hspan'])
    rw [← hstart] at hlaid
    refine ⟨after, ?_⟩
    rw [← hcode] at hslice htrailing hne ⊢
    exact .cons hspan hleading htrailing hslice hne (by rw [hspan']) hlaid

end Concatenation

/-! ### The edits of the command -/

/-- A body that is a literal of its own opens it. -/
lemma Place.isFirst_of_literal {source : Text} {path : List Nat} {p : Place} {b : Body}
    (hpath : Target.inside? (Document.read source).targets path = some p.targets)
    (h : p.literal = [.body b]) : p.body = b ∧ b.isFirst = true := by
  cases hfirst : p.body.isFirst with
  | true =>
    have hb : p.body = b := by
      simp only [literal, hfirst, if_true, List.nil_append, List.cons.injEq, Target.body.injEq] at h
      exact h.1
    exact ⟨hb, hb ▸ hfirst⟩
  | false =>
    -- then a group stands in front of it, which is part of the literal
    obtain ⟨start, stop, l, hchain, -⟩ := Document.exists_chain_of_inside? hpath
    have hbody : p.targets[p.before.length]? = some (.body p.body) := by simp [targets]
    obtain ⟨j, g, inside, hj, -⟩ := (hchain.previous_of_body hbody).1.mp hfirst
    have hbefore : p.before.reverse ≠ [] := by
      intro hnil
      simp [List.reverse_eq_nil_iff.mp hnil] at hj
    have hpos := List.length_pos_iff.mpr (takeThrough_ne_nil isFirst hbefore)
    have hlength := congrArg List.length h
    simp only [literal, hfirst, Bool.false_eq_true, if_false, List.length_append,
      List.length_reverse, List.length_cons, List.length_nil] at hlength
    omega

namespace Command

variable {style : QuoteStyle} {source : Text} {offset : Nat} {edits : List Edit}

lemma delimiters_of_isClosed {b : Body} (h : isClosed [.body b] = true) :
    ∃ o, b.delimiters = .template o (some .backtick) := by
  obtain ⟨_ | ⟨o, _ | _ | _⟩, t, s⟩ := b <;> simp_all [isClosed]

/-- What flattening does when it succeeds. -/
lemma run_toNormal_eq_ok (h : Command.toNormal.run style source offset = .ok edits) :
    ∃ place q fragments, Place.find? offset (Document.read source).targets = some place ∧
      style.resolve (.normal (Document.read source).commonQuote) = .normal q ∧
      Concatenation.readFragments place.literal = .ok fragments ∧ isClosed place.literal = true ∧
      edits = Concatenation.editsFrom q none fragments.head fragments.tail := by
  simp only [run, bind, Except.bind] at h
  split at h
  · simp at h
  · rename_i place hplace
    have hfind := find?_of_placeAt hplace
    obtain ⟨q, hq⟩ :
        ∃ q, style.resolve (.normal (Document.read source).commonQuote) = .normal q := by
      cases style <;> exact ⟨_, rfl⟩
    simp only [hq, runToNormal] at h
    refine ⟨place, q, ?_⟩
    split at h
    · simp [declineAt] at h
    · split at h
      · rename_i hclosed
        split at h
        · rename_i b hliteral
          obtain ⟨path, hpath⟩ := Place.exists_path_of_find? hfind
          obtain ⟨-, hfirst⟩ := Place.isFirst_of_literal hpath hliteral
          obtain ⟨o, hd⟩ := delimiters_of_isClosed (hliteral ▸ hclosed)
          refine ⟨⟨b, []⟩, hfind, hq, ?_, hclosed, ?_⟩
          · rw [hliteral, Concatenation.readFragments_singleton hd hfirst]
          · rw [← Except.ok.inj h]
            simp [replaceBody, Concatenation.editsFrom, Concatenation.bodyEdit, Body.kind, hd,
              Delimiters.kind]
        · cases hkind : Concatenation.edits place.literal (.normal q) with
          | error flaw => simp [hkind] at h
          | ok edits' =>
            rw [hkind] at h
            obtain rfl := Except.ok.inj h
            simp only [Concatenation.edits, bind, Except.bind, pure, Except.pure] at hkind
            split at hkind
            · simp at hkind
            · rename_i fragments hfragments
              exact ⟨fragments, hfind, hq, hfragments, hclosed, (Except.ok.inj hkind).symm⟩
      · simp [declineAt] at h

/-- Where the literal stands that the command flattens, and what its edits are. -/
structure FlattensLiteral (style : QuoteStyle) (source : Text) (offset : Nat) (edits : List Edit)
    (place : Place) (q : Quote) (head : Body) (tail : List (Group × Body))
    (before rest after : Text) : Prop where
  find       : Place.find? offset (Document.read source).targets = some place
  quote      : style.resolve (.normal (Document.read source).commonQuote) = .normal q
  alternates : Concatenation.Alternates place.literal head tail
  isFirst    : head.isFirst = true
  closed     : isClosed place.literal = true
  edits_eq   : edits = Concatenation.editsFrom q none head tail
  source_eq  : source = before ++ (head.delimiters.wrap head.text ++ rest)
  start      : head.span.start = before.size
  laid       : Concatenation.Laid source before.size (head.delimiters.wrap head.text ++ rest) head
    tail after

lemma exists_flattensLiteral (h : Command.toNormal.run style source offset = .ok edits) :
    ∃ place q head tail before rest after,
      FlattensLiteral style source offset edits place q head tail before rest after := by
  obtain ⟨place, q, ⟨head, tail⟩, hfind, hq, hfragments, hclosed, rfl⟩ := run_toNormal_eq_ok h
  obtain ⟨halternates, hfirst⟩ := Concatenation.alternates_of_readFragments hfragments
  obtain ⟨path, hpath⟩ := Place.exists_path_of_find? hfind
  obtain ⟨pre, post, htargets⟩ := place.exists_targets_eq
  rw [htargets] at hpath
  obtain ⟨before, rest, hsource, hspan⟩ := Document.split_of_mem_bodiesOf_read
    (Target.mem_bodiesOf_of_inside? hpath (List.mem_append_right _
      (List.mem_append_left _ halternates.mem)))
  obtain ⟨after, hlaid⟩ := halternates.laid hpath hsource hspan
  exact ⟨place, q, head, tail, before, rest, after, hfind, hq, halternates, hfirst, hclosed, rfl,
    hsource, congrArg Span.start hspan, hlaid⟩

/-- The edits that flatten a literal put the concatenation in its place. -/
lemma FlattensLiteral.splices {place : Place} {q : Quote} {head : Body} {tail : List (Group × Body)}
    {before rest after : Text}
    (h : FlattensLiteral style source offset edits place q head tail before rest after) :
    Edit.Splices 0 source edits
      (before ++ (Concatenation.flattened source q head tail ++ after)) := by
  have hsplices : Edit.Splices 0 (before ++ ([] ++ (head.delimiters.wrap head.text ++ rest)))
      (Concatenation.editsFrom q none head tail)
      (before ++ ([] ++ (Concatenation.flattened source q head tail ++ after))) :=
    h.laid.splices (by simp) (by simp)
  rwa [List.nil_append, ← h.source_eq, ← h.edits_eq] at hsplices

/-- There is one edit for each body of the literal. -/
lemma FlattensLiteral.covers {place : Place} {q : Quote} {head : Body} {tail : List (Group × Body)}
    {before rest after : Text}
    (h : FlattensLiteral style source offset edits place q head tail before rest after) :
    List.Forall₂ Concatenation.Covers edits (head :: tail.map Prod.snd) := by
  rw [h.edits_eq]
  exact h.laid.covers (by simp)

/-- The text of a flattening: the quoted bodies with the code of the interpolations between them, in
the place of the literal. There is one edit for each body, and none overlaps another. -/
theorem applyAll?_of_run_toNormal (h : Command.toNormal.run style source offset = .ok edits) :
    ∃ place q head tail before after,
      Place.find? offset (Document.read source).targets = some place ∧
      style.resolve (.normal (Document.read source).commonQuote) = .normal q ∧
      Concatenation.Alternates place.literal head tail ∧
      edits.Pairwise (fun a b => a.span.stop ≤ b.span.start) ∧
      List.Forall₂ Concatenation.Covers edits (head :: tail.map Prod.snd) ∧
      (∀ p ∈ tail, source.slice? p.1.leading.stop p.1.trailing.start = some (p.1.code source) ∧
        p.1.code source ≠ []) ∧
      source.slice? 0 head.span.start = some before ∧
      source.slice? (Concatenation.lastBody head tail).span.stop source.size = some after ∧
      Edit.applyAll? source edits
        = some (before ++ (Concatenation.flattened source q head tail ++ after)) := by
  obtain ⟨place, q, head, tail, before, rest, after, hflattens⟩ := exists_flattensLiteral h
  have hsource := hflattens.source_eq
  have hstart := hflattens.start
  have hsplices := hflattens.splices
  obtain ⟨literal, hliteral, hstop⟩ := hflattens.laid.exists_append
  refine ⟨place, q, head, tail, before, after, hflattens.find, hflattens.quote,
    hflattens.alternates, hsplices.ordered.1, hflattens.covers, hflattens.laid.code_of_mem, ?_, ?_,
    hsplices.applyAll?⟩
  · have hslice := Text.slice?_append [] before (head.delimiters.wrap head.text ++ rest)
    rw [List.nil_append, ← hsource] at hslice
    simpa [hstart] using hslice
  · have hslice := Text.slice?_append (before ++ literal) after []
    rw [List.append_nil, List.append_assoc, ← hliteral, ← hsource, Text.size_append] at hslice
    have hsize : source.size = before.size + literal.size + after.size := by
      rw [hsource, hliteral]
      simp only [Text.size_append]
      omega
    rw [hstop, hsize]
    exact hslice

/-- A template in an interpolation, whose code needs parentheses. -/
theorem applyAll?_of_run_toNormal_nested :
    Command.toNormal.run .single "`a$\x7b b, `c'$\x7bd\x7d` \x7de`".toList 1
        = .ok [⟨⟨0, 5⟩, "'a' + (".toList⟩, ⟨⟨16, 20⟩, ") + 'e'".toList⟩] ∧
      ∃ place q head tail before after,
        Place.find? 1 (Document.read "`a$\x7b b, `c'$\x7bd\x7d` \x7de`".toList).targets
          = some place ∧
        QuoteStyle.single.resolve
            (.normal (Document.read "`a$\x7b b, `c'$\x7bd\x7d` \x7de`".toList).commonQuote)
          = .normal q ∧
        Concatenation.Alternates place.literal head tail ∧
        List.Pairwise (fun a b : Edit => a.span.stop ≤ b.span.start)
          [⟨⟨0, 5⟩, "'a' + (".toList⟩, ⟨⟨16, 20⟩, ") + 'e'".toList⟩] ∧
        List.Forall₂ Concatenation.Covers
          [⟨⟨0, 5⟩, "'a' + (".toList⟩, ⟨⟨16, 20⟩, ") + 'e'".toList⟩]
          (head :: tail.map Prod.snd) ∧
        (∀ p ∈ tail, Text.slice? "`a$\x7b b, `c'$\x7bd\x7d` \x7de`".toList p.1.leading.stop
            p.1.trailing.start = some (p.1.code "`a$\x7b b, `c'$\x7bd\x7d` \x7de`".toList) ∧
          p.1.code "`a$\x7b b, `c'$\x7bd\x7d` \x7de`".toList ≠ []) ∧
        Text.slice? "`a$\x7b b, `c'$\x7bd\x7d` \x7de`".toList 0 head.span.start = some before ∧
        Text.slice? "`a$\x7b b, `c'$\x7bd\x7d` \x7de`".toList
          (Concatenation.lastBody head tail).span.stop
          (Text.size "`a$\x7b b, `c'$\x7bd\x7d` \x7de`".toList) = some after ∧
        Edit.applyAll? "`a$\x7b b, `c'$\x7bd\x7d` \x7de`".toList
            [⟨⟨0, 5⟩, "'a' + (".toList⟩, ⟨⟨16, 20⟩, ") + 'e'".toList⟩]
          = some (before ++ (Concatenation.flattened "`a$\x7b b, `c'$\x7bd\x7d` \x7de`".toList q
            head tail ++ after)) := by
  have h : Command.toNormal.run .single "`a$\x7b b, `c'$\x7bd\x7d` \x7de`".toList 1
      = .ok [⟨⟨0, 5⟩, "'a' + (".toList⟩, ⟨⟨16, 20⟩, ") + 'e'".toList⟩] := by
    cbv
  exact ⟨h, applyAll?_of_run_toNormal h⟩

end Command

end Requote
