import Mathlib
import Requote.Proofs.Paths
import Requote.Proofs.Rewriting

/-!
# Moving what was read

When a literal is replaced by a longer or a shorter one, everything behind it moves. A function on
offsets says where each place goes, and a function on bodies says what each body becomes; together
they act on targets, on open interpolations and on the whole state of the reader.

Reading commutes with this action as long as what is read lies behind the replaced literal. So the
document of the new text is the document of the old one with all its places moved, and with one body
replaced.
-/

namespace Requote

/-! ### The action -/

/-- A span with both its ends moved. -/
def Span.move (f : Nat → Nat) (s : Span) : Span :=
  ⟨f s.start, f s.stop⟩

/-- A group with all its places moved. -/
def Group.move (f : Nat → Nat) (g : Group) : Group :=
  { g with leading := g.leading.move f, trailing := g.trailing.move f, span := g.span.move f }

/-- A diagnostic with its place moved. -/
def Diagnostic.move (f : Nat → Nat) : Diagnostic → Diagnostic
  | mismatchedBracket b offset => mismatchedBracket b (f offset)
  | unterminated k offset      => unterminated k (f offset)

/-- An event with its place moved. -/
def Event.move (f : Nat → Nat) : Event → Event
  | opened offset       => opened (f offset)
  | closed offset       => closed (f offset)
  | mismatched b offset => mismatched b (f offset)

namespace Target

mutual

/-- A target with its places moved and its bodies replaced. The shape of the tree stays. -/
def move (f : Nat → Nat) (β : Body → Body) : Target → Target
  | body b         => body (β b)
  | group g inside => group (g.move f) (moveAll f β inside)

/-- A list of targets with their places moved and their bodies replaced. -/
def moveAll (f : Nat → Nat) (β : Body → Body) : List Target → List Target
  | []      => []
  | a :: as => move f β a :: moveAll f β as

end

@[simp] lemma moveAll_append (f : Nat → Nat) (β : Body → Body) (l l' : List Target) :
    moveAll f β (l ++ l') = moveAll f β l ++ moveAll f β l' := by
  induction l with
  | nil => rfl
  | cons a l ih => simp [moveAll, ih]

end Target

/-- An open interpolation with its places moved and its bodies replaced. -/
def Frame.move (f : Nat → Nat) (β : Body → Body) (a : Frame) : Frame :=
  { a with
    start    := f a.start
    inside   := Target.moveAll f β a.inside
    leading  := a.leading.map (Span.move f)
    trailing := a.trailing.map (Span.move f) }

namespace Reader

/-- The state of the reader with its places moved, its bodies replaced, and another character in
front. -/
def move (f : Nat → Nat) (β : Body → Body) (p : Option Char) (r : Reader) : Reader :=
  { offset      := f r.offset
    previous    := p
    targets     := Target.moveAll f β r.targets
    frames      := r.frames.map (Frame.move f β)
    diagnostics := r.diagnostics.map (Diagnostic.move f)
    events      := r.events.map (Event.move f) }

/-! ### Reading commutes with it -/

variable {f : Nat → Nat} {β : Body → Body} {p : Option Char} {r r' : Reader} {t v : Text}
  {x : Token} {xs : List Token}

lemma move_addTarget (r : Reader) (a : Target) :
    (r.addTarget a).move f β p = (r.move f β p).addTarget (a.move f β) := by
  simp only [addTarget, move]
  cases r.frames with
  | nil => simp [Target.moveAll]
  | cons fr frames => simp [Frame.move, Target.moveAll]

lemma Frame.move_finish (fr : Frame) (stop : Nat) :
    (fr.finish stop).move f β = (fr.move f β).finish (f stop) := by
  have hgetD : ∀ (o : Option Span) (n : Nat),
      (o.getD ⟨n, n⟩).move f = (o.map (Span.move f)).getD ⟨f n, f n⟩ := by
    intro o n
    cases o <;> rfl
  simp only [Frame.finish, Frame.move, Target.move, Group.move, hgetD]
  rfl

lemma move_closeFrame (r : Reader) (stop : Nat) :
    (r.closeFrame stop).move f β p = (r.move f β p).closeFrame (f stop) := by
  cases hframes : r.frames with
  | nil => simp [closeFrame, hframes, move]
  | cons fr frames =>
    simp only [closeFrame, hframes, move_addTarget, Frame.move_finish]
    simp [move, hframes, addEvent, Event.move]

lemma move_modifyFrame (r : Reader) {g g' : Frame → Frame}
    (h : ∀ fr, (g fr).move f β = g' (fr.move f β)) :
    (r.modifyFrame g).move f β p = (r.move f β p).modifyFrame g' := by
  simp only [modifyFrame, move]
  cases r.frames <;> simp [h]

lemma Frame.move_note (fr : Frame) (x : Token) (s : Span) :
    (fr.note x s).move f β = (fr.move f β).note x (s.move f) := by
  obtain ⟨start, inside, brackets, low, started, leading, trailing⟩ := fr
  cases x <;> cases brackets <;> cases started <;> simp [Frame.note, Frame.move]

lemma move_note (r : Reader) (x : Token) (s : Span) :
    (r.note x s).move f β p = (r.move f β p).note x (s.move f) :=
  move_modifyFrame r fun fr => Frame.move_note fr x s

lemma move_openFrame (r : Reader) (start : Nat) :
    (r.openFrame start).move f β p = (r.move f β p).openFrame (f start) := by
  simp [openFrame, move, addEvent, Event.move, Frame.move, Target.moveAll]

lemma move_closeBracket (r : Reader) (b : Bracket) (offset : Nat) :
    (r.closeBracket b offset).move f β p = (r.move f β p).closeBracket b (f offset) := by
  cases hframes : r.frames with
  | nil => simp [closeBracket, move, hframes]
  | cons fr frames =>
    by_cases h : fr.brackets.head? = some b <;>
      simp [closeBracket, move, hframes, h, Frame.move, addEvent, addDiagnostic, Event.move,
        Diagnostic.move]

lemma move_addDiagnostic (r : Reader) (e : Diagnostic) :
    (r.addDiagnostic e).move f β p = (r.move f β p).addDiagnostic (e.move f) := by
  simp [addDiagnostic, move]

lemma move_addBody (r : Reader) (d : Delimiters) (t : Text) (s : Span)
    (hβ : β ⟨d, t, s⟩ = ⟨d, t, s.move f⟩) :
    (r.addBody d t s).move f β p = (r.move f β p).addBody d t (s.move f) := by
  simp only [addBody]
  split
  · simp [move_addTarget, Target.move, hβ]
  · simp [move_addTarget, Target.move, hβ, move_addDiagnostic, Diagnostic.move, Span.move]

/-- What a token does commutes with moving, if the body that it gives just moves. -/
lemma move_act (f : Nat → Nat) (β : Body → Body) (p : Option Char) (r : Reader) (x : Token)
    (s : Span) (hβ : ∀ d t, x = .body d t → β ⟨d, t, s⟩ = ⟨d, t, s.move f⟩) :
    (r.act x s).move f β p = (r.move f β p).act x (s.move f) := by
  match x with
  | .body d t =>
    rw [act_body, act_body]
    split <;> split <;>
      simp only [move_openFrame, move_addBody _ _ _ _ (hβ _ _ rfl), move_note,
        move_closeFrame] <;> rfl
  | .opening b | .operator t =>
    simp only [act]
    rw [move_modifyFrame, move_note]
    intro fr
    rfl
  | .closing b =>
    simp only [act]
    rw [move_closeBracket, move_note]
    rfl
  | .comment t | .blank t | .other t => exact move_note r _ s

/-- Reading a token commutes with moving, if the reader moves on by the same number of bytes. -/
lemma move_step (f : Nat → Nat) (β : Body → Body) (p : Option Char) (r : Reader) (hx : x.text ≠ [])
    (hf : f (r.offset + x.text.size) = f r.offset + x.text.size)
    (hβ : ∀ b ∈ x.bodyAt? r.offset, β b = { b with span := b.span.move f }) :
    (r.step x).move f β (r.step x).previous = (r.move f β p).step x := by
  have hact := move_act f β p r x ⟨r.offset, r.offset + x.text.size⟩ (by
    rintro d t rfl
    exact hβ _ rfl)
  have hspan : Span.move f ⟨r.offset, r.offset + x.text.size⟩
      = ⟨(r.move f β p).offset, (r.move f β p).offset + x.text.size⟩ := by
    simp [Span.move, hf, move]
  rw [hspan] at hact
  simp only [step, ← hact]
  simp [move, hf, List.getLast?_eq_some_getLast hx]

lemma resumes_move (r : Reader) : (r.move f β p).resumes = r.resumes := by
  simp only [resumes, move]
  cases r.frames <;> rfl

/-- What is read behind the replaced literal is read the same after the move. -/
lemma Reads.move (h : Reads r t xs r' v)
    (hf : ∀ o n, r.offset ≤ o → f (o + n) = f o + n)
    (hβ : ∀ b : Body, r.offset ≤ b.span.start → β b = { b with span := b.span.move f })
    (hp : Token.bars p = Token.bars r.previous) :
    ∃ p', Reads (r.move f β p) t xs (r'.move f β p') v := by
  induction h generalizing p with
  | nil => exact ⟨p, .nil _ _⟩
  | @cons r r' t u v x xs hx h ih =>
    have hle : r.offset ≤ (r.step x).offset := Nat.le_add_right _ _
    have hstep := move_step f β p r (Token.next?_eq_some hx).2
      (hf _ _ (Nat.le_refl _)) (by
        intro b hb
        match x, hb with
        | .body d s, hb =>
          obtain rfl := Option.some.inj hb
          exact hβ _ (Nat.le_refl _))
    obtain ⟨p', hmove⟩ := ih (p := (r.step x).previous)
      (fun o n ho => hf o n (Nat.le_trans hle ho)) (fun b hb => hβ b (Nat.le_trans hle hb)) rfl
    rw [hstep] at hmove
    refine ⟨p', .cons ?_ hmove⟩
    rw [resumes_move, ← hx]
    exact Token.next?_previous hp

/-- What is read in front of the replaced literal does not move. -/
lemma Reads.move_eq_self (f : Nat → Nat) (β : Body → Body) (h : Reads r t xs r' v)
    (hr : r.move f β r.previous = r) (hf : ∀ o, o ≤ r'.offset → f o = o)
    (hβ : ∀ b : Body, b.span.start ≤ b.span.stop → b.span.stop ≤ r'.offset → β b = b) :
    r'.move f β r'.previous = r' := by
  induction h with
  | nil => exact hr
  | @cons r r' t u v x xs hx h ih =>
    have hle := h.offset_le
    have hstop : (r.step x).offset = r.offset + x.text.size := rfl
    have hfix : f r.offset = r.offset ∧ f (r.offset + x.text.size) = r.offset + x.text.size :=
      ⟨hf _ (by omega), hf _ (by omega)⟩
    have hstep := move_step f β r.previous r (Token.next?_eq_some hx).2
      (by rw [hfix.1, hfix.2]) (by
        intro b hb
        match x, hb with
        | .body d s, hb =>
          obtain rfl := Option.some.inj hb
          rw [hβ _ (Nat.le_add_right _ _) hle]
          simp only [Span.move, hfix.1]
          exact congrArg _ (congrArg _ hfix.2.symm))
    rw [hr] at hstep
    exact ih hstep hf hβ

lemma move_unwind (r : Reader) (n : Nat) :
    (r.unwind n).move f β p = (r.move f β p).unwind n := by
  induction n generalizing r with
  | zero => rfl
  | succ n ih => rw [unwind, unwind, ih, move_closeFrame]; rfl

lemma move_finish (r : Reader) : r.finish.move f β p = (r.move f β p).finish := by
  rw [finish, move_unwind, finish]
  simp [move]

/-- A whole literal is one more target. -/
lemma act_whole (r : Reader) (kind : Kind) (s : Text) (sp : Span) :
    r.act (.body (.ofKind kind true true) s) sp
      = (r.note (.body (.ofKind kind true true) s) sp).addTarget
        (.body ⟨.ofKind kind true true, s, sp⟩) := by
  cases kind <;> rfl

/-- Where one whole literal stands in for another, the state behind it is the moved one. -/
lemma move_step_whole {kind kind' : Kind} {s s' : Text} (hr : r.move f β r.previous = r)
    (hf : f (r.offset + (Token.body (.ofKind kind true true) s).text.size)
      = r.offset + (Token.body (.ofKind kind' true true) s').text.size)
    (hβ : β ⟨.ofKind kind true true, s,
        ⟨r.offset, r.offset + (Token.body (.ofKind kind true true) s).text.size⟩⟩
      = ⟨.ofKind kind' true true, s',
        ⟨r.offset, r.offset + (Token.body (.ofKind kind' true true) s').text.size⟩⟩) :
    (r.step (.body (.ofKind kind true true) s)).move f β
        (r.step (.body (.ofKind kind' true true) s')).previous
      = r.step (.body (.ofKind kind' true true) s') := by
  -- a literal that is no blank is noted the same whatever it is and wherever it stands
  have hnote : ∀ sp sp', r.note (.body (.ofKind kind true true) s) sp
      = r.note (.body (.ofKind kind' true true) s') sp' := fun _ _ => rfl
  have hact : (r.act (.body (.ofKind kind true true) s)
        ⟨r.offset, r.offset + (Token.body (.ofKind kind true true) s).text.size⟩).move f β
          r.previous
      = r.act (.body (.ofKind kind' true true) s')
        ⟨r.offset, r.offset + (Token.body (.ofKind kind' true true) s').text.size⟩ := by
    rw [act_whole, act_whole, move_addTarget, move_note, hr, Target.move, hβ]
    rw [hnote]
  simp only [step, ← hact]
  simp [move, hf]

end Reader

/-! ### Converting a quoted literal -/

namespace Token

variable {q : Quote} {kind : Kind} {t u s : Text}

/-- The body of a quoted literal, converted, is read back as it was written. -/
lemma next?_convertAndWrap (previous : Option Char) (resumes : Bool)
    (hkind : kind = .template ∨ kind = .normal q.other)
    (h : readQuoted q.char t = ⟨s, true, u⟩) (rest : Text) :
    next? previous resumes (Escape.convertAndWrap (.normal q) kind true true s ++ rest)
      = some (.body (.ofKind kind true true) (Escape.convert (.normal q) kind s), rest) := by
  have hfits := Atom.fits_of_readQuoted h
  rcases hkind with rfl | rfl
  · have hread := Escape.readTemplate_templateOfNormal hfits rest
    simp [Escape.convertAndWrap, Delimiters.ofKind, Delimiters.wrap, Delimiters.opening,
      Delimiters.closing, Delimiters.closing?, Opening.text, Closing.text, Escape.convert,
      next?_backtick, hread]
  · have hread := Escape.readQuoted_swapQuotes hfits rest
    have hne : q ≠ q.other := by cases q <;> decide
    simp [Escape.convertAndWrap, Delimiters.ofKind, Delimiters.wrap, Delimiters.opening,
      Delimiters.closing, Delimiters.closing?, Escape.convert, hne, next?_quote, hread]

/-- No word that follows a whole literal is barred from being an operator. -/
lemma not_bars_wrap_ofKind (kind : Kind) (s : Text) :
    bars ((Delimiters.ofKind kind true true).wrap s).getLast? = false := by
  rcases kind with q | _
  · simpa [Delimiters.ofKind, Delimiters.wrap, Delimiters.closing, Delimiters.closing?]
      using not_bars_of_isNeutral (isNeutral_quote q)
  · simpa [Delimiters.ofKind, Delimiters.wrap, Delimiters.closing, Delimiters.closing?,
      Closing.text] using not_bars_of_isNeutral (y := '\x60') (by decide)

end Token

/-- A replacement of the text between `start` and `stop`, which then goes up to `stop'`: nothing
moves in front of it, and everything behind it moves by the same distance. -/
structure Shifts (f : Nat → Nat) (β : Body → Body) (start stop stop' : Nat) : Prop where
  offset_of_le : ∀ o, o ≤ start → f o = o
  offset_stop  : f stop = stop'
  offset_add   : ∀ o n, stop ≤ o → f (o + n) = f o + n
  body_of_le   : ∀ b : Body, b.span.start ≤ b.span.stop → b.span.stop ≤ start → β b = b
  body_of_ge   : ∀ b : Body, stop ≤ b.span.start → β b = { b with span := b.span.move f }

/-- Where one whole literal stands in for another, the rest of the text is read as before. -/
lemma Reader.Reads.replace {r r' : Reader} {t after : Text} {ys zs : List Token} (kind kind' : Kind)
    {s s' : Text} {f : Nat → Nat} {β : Body → Body}
    (hys : Reads {} t ys r ((Delimiters.ofKind kind true true).wrap s ++ after))
    (hzs : Reads (r.step (.body (.ofKind kind true true) s)) after zs r' [])
    (hx : Token.next? r.previous r.resumes ((Delimiters.ofKind kind' true true).wrap s' ++ after)
      = some (.body (.ofKind kind' true true) s', after))
    (hmoves : Shifts f β r.offset (r.step (.body (.ofKind kind true true) s)).offset
      (r.step (.body (.ofKind kind' true true) s')).offset)
    (hself : β ⟨.ofKind kind true true, s,
        ⟨r.offset, (r.step (.body (.ofKind kind true true) s)).offset⟩⟩
      = ⟨.ofKind kind' true true, s',
        ⟨r.offset, (r.step (.body (.ofKind kind' true true) s')).offset⟩⟩) :
    ∃ p, run {} (Token.textOf ys ++ ((Delimiters.ofKind kind' true true).wrap s' ++ after))
      = r'.move f β p := by
  have hfirst : ∀ kind, (Delimiters.ofKind kind true true).isFirst = true := by
    intro kind
    cases kind <;> rfl
  obtain ⟨c, w, hcons, hneutral, hblank⟩ := Token.wrap_eq_cons (hfirst kind) s
  obtain ⟨c', w', hcons', hneutral', hblank'⟩ := Token.wrap_eq_cons (hfirst kind') s'
  rw [hcons, List.cons_append] at hys
  have hfront := hys.congr (m := []) hneutral hneutral'
    (fun _ _ _ => .inr (.inl ⟨hblank, hblank'⟩)) (w' ++ after)
  rw [List.nil_append, ← List.cons_append, ← hcons'] at hfront
  have hfix := hys.move_eq_self f β
    (by simp [Reader.move, Target.moveAll, hmoves.offset_of_le 0])
    hmoves.offset_of_le hmoves.body_of_le
  have hmove := move_step_whole hfix hmoves.offset_stop hself
  have hbars : Token.bars (r.step (.body (.ofKind kind' true true) s')).previous
      = Token.bars (r.step (.body (.ofKind kind true true) s)).previous := by
    rw [previous_step (x := .body _ s') (Token.wrap_ne_nil _ _),
      previous_step (x := .body _ s) (Token.wrap_ne_nil _ _)]
    exact (Token.not_bars_wrap_ofKind kind' s').trans (Token.not_bars_wrap_ofKind kind s).symm
  obtain ⟨p, hback⟩ := hzs.move hmoves.offset_add hmoves.body_of_ge hbars
  rw [hmove] at hback
  have hall := hfront.append (.cons hx hback)
  exact ⟨p, by rw [hall.run_eq, run]⟩

namespace Body

/-- Where a place is after a body was replaced: everything behind the start of the body moves by the
change in size. -/
def shift (b : Body) (source result : Text) (offset : Nat) : Nat :=
  if offset ≤ b.span.start then offset else offset + result.size - source.size

/-- What the bodies of a document become when one of them is converted to another kind. -/
def converted (b : Body) (kind : Kind) (f : Nat → Nat) (a : Body) : Body :=
  if a = b then
    ⟨.ofKind kind true true, Escape.convert b.kind kind b.text, b.span.move f⟩
  else
    { a with span := a.span.move f }

variable {a b : Body} {kind : Kind} {f : Nat → Nat}

lemma converted_self : b.converted kind f b
    = ⟨.ofKind kind true true, Escape.convert b.kind kind b.text, b.span.move f⟩ :=
  if_pos rfl

lemma converted_of_ne (h : a.span ≠ b.span) :
    b.converted kind f a = { a with span := a.span.move f } :=
  if_neg fun heq => h (congrArg span heq)

/-- Converting a body is a replacement of its text. -/
lemma shifts (kind : Kind) (before old new after : Text) (hold : old ≠ [])
    (hspan : b.span = ⟨before.size, before.size + old.size⟩) :
    Shifts (b.shift (before ++ (old ++ after)) (before ++ (new ++ after)))
      (b.converted kind (b.shift (before ++ (old ++ after)) (before ++ (new ++ after))))
      before.size (before.size + old.size) (before.size + new.size) := by
  have hpos := Text.size_pos hold
  have hle : ∀ o, o ≤ before.size →
      b.shift (before ++ (old ++ after)) (before ++ (new ++ after)) o = o := by
    intro o ho
    exact if_pos (by rw [hspan]; exact ho)
  have hge : ∀ o, before.size + old.size ≤ o →
      b.shift (before ++ (old ++ after)) (before ++ (new ++ after)) o
        = o + new.size - old.size := by
    intro o ho
    rw [shift, hspan]
    simp only [Text.size_append]
    rw [if_neg (by omega)]
    omega
  refine ⟨hle, ?_, ?_, ?_, ?_⟩
  · rw [hge _ (Nat.le_refl _)]
    omega
  · intro o n ho
    rw [hge o ho, hge (o + n) (by omega)]
    omega
  · intro a ha hstop
    rw [converted_of_ne (by rw [hspan]; intro heq; rw [heq] at hstop; simp at hstop; omega),
      Span.move, hle _ hstop, hle _ (Nat.le_trans ha hstop)]
  · intro a ha
    exact converted_of_ne (by rw [hspan]; intro heq; rw [heq] at ha; simp at ha; omega)

end Body

/-- A document with its places moved and its bodies replaced. -/
def Document.move (f : Nat → Nat) (β : Body → Body) (d : Document) : Document where
  targets     := Target.moveAll f β d.targets
  diagnostics := d.diagnostics.map (Diagnostic.move f)
  events      := d.events.map (Event.move f)

namespace Document

variable {source : Text} {b : Body} {q : Quote} {kind : Kind}

/-- After a quoted literal is converted the document is the same, with its places moved and with the
one body converted. -/
lemma read_convertAndWrap (hb : b ∈ Target.bodiesOf (read source).targets)
    (hd : b.delimiters = .quoted q true) (hkind : kind = .template ∨ kind = .normal q.other) :
    ∃ before after, source = before ++ (b.delimiters.wrap b.text ++ after) ∧
      b.span = ⟨before.size, before.size + (b.delimiters.wrap b.text).size⟩ ∧
      ∀ result, result = before ++ (Escape.convertAndWrap b.kind kind true true b.text ++ after) →
        read result = (read source).move (b.shift source result)
          (b.converted kind (b.shift source result)) := by
  obtain ⟨ys, r, after, zs, hys, hoffset, hspan, hx, hzs⟩ := exists_reads_of_mem_bodiesOf_read hb
  obtain rfl := hys.text_append
  refine ⟨Token.textOf ys, after, rfl, by rw [hspan, hoffset], ?_⟩
  rintro result rfl
  have hk : b.kind = .normal q := by rw [Body.kind, hd]; rfl
  rw [hk]
  have hmoves := b.shifts kind (Token.textOf ys) (b.delimiters.wrap b.text)
    (Escape.convertAndWrap (.normal q) kind true true b.text) after (Token.wrap_ne_nil _ _)
    (by rw [hspan, hoffset])
  generalize b.shift _ _ = f at hmoves ⊢
  rw [← hoffset] at hmoves
  have hb' : b = ⟨b.delimiters, b.text, b.span⟩ := rfl
  rw [hspan, hd] at hb'
  have hself : b.converted kind f
        ⟨.quoted q true, b.text,
          ⟨r.offset, r.offset + ((Delimiters.quoted q true).wrap b.text).size⟩⟩
      = ⟨.ofKind kind true true, Escape.convert (.normal q) kind b.text,
        ⟨r.offset, r.offset + (Escape.convertAndWrap (.normal q) kind true true b.text).size⟩⟩ := by
    rw [← hb', Body.converted_self, Span.move, hspan, hk, hmoves.offset_of_le _ (Nat.le_refl _),
      hmoves.offset_stop]
  rw [hd] at hys hzs hx hmoves ⊢
  obtain ⟨t, -, hread⟩ := Token.next?_eq_quoted hx
  have hx' := Token.next?_convertAndWrap r.previous r.resumes hkind hread after
  obtain ⟨p, hrun⟩ := hys.replace (.normal q) kind hzs hx' hmoves hself
  have hread' :
      ∀ t, read t = ⟨(Reader.run {} t).finish.targets, (Reader.run {} t).finish.diagnostics,
    (Reader.run {} t).finish.events⟩ := fun _ => rfl
  rw [hread', hread', Escape.convertAndWrap, hrun, ← Reader.move_finish]
  rfl

end Document

namespace Command

variable {command : Command} {style : QuoteStyle} {source : Text} {offset : Nat} {edits : List Edit}

lemma replaceQuoted_eq_ok {b : Body} {kind : Kind} (h : replaceQuoted source b kind = .ok edits) :
    b.isTerminated = true ∧ edits = [replaceBody b kind] := by
  simp only [replaceQuoted] at h
  split at h
  · rename_i hterminated
    exact ⟨hterminated, (Except.ok.inj h).symm⟩
  · simp [declineAt] at h

lemma delimiters_of_kind {b : Body} {q : Quote} (hkind : b.kind = .normal q)
    (hterminated : b.isTerminated = true) : b.delimiters = .quoted q true := by
  obtain ⟨⟨q', _ | _⟩ | _, t, s⟩ := b <;>
    simp_all [Body.kind, Delimiters.kind, Body.isTerminated, Delimiters.isTerminated,
      Delimiters.closing?]

/-- What the two commands on quoted literals do when they succeed. -/
lemma run_eq_ok_of_ne_toNormal (hcommand : command ≠ .toNormal)
    (h : command.run style source offset = .ok edits) :
    ∃ place q kind, Place.find? offset (Document.read source).targets = some place ∧
      place.body.delimiters = .quoted q true ∧
      (command = .toTemplate ∧ kind = .template ∨ command = .toggle ∧ kind = .normal q.other) ∧
      edits = [replaceBody place.body kind] := by
  simp only [run, bind, Except.bind] at h
  split at h
  · simp at h
  · rename_i place hplace
    refine ⟨place, ?_⟩
    match command with
    | .toNormal => exact absurd rfl hcommand
    | .toTemplate =>
      simp only [runToTemplate] at h
      split at h
      · simp [declineAt] at h
      · rename_i q hkind
        obtain ⟨hterminated, hedits⟩ := replaceQuoted_eq_ok h
        exact ⟨q, .template, find?_of_placeAt hplace, delimiters_of_kind hkind hterminated,
          .inl ⟨rfl, rfl⟩, hedits⟩
    | .toggle =>
      simp only [runToggle] at h
      split at h
      · simp [declineAt] at h
      · rename_i q hkind
        obtain ⟨hterminated, hedits⟩ := replaceQuoted_eq_ok h
        exact ⟨q, .normal q.other, find?_of_placeAt hplace, delimiters_of_kind hkind hterminated,
          .inr ⟨rfl, rfl⟩, hedits⟩

/-- Converting a quoted literal leaves the rest of the document as it is: the new text is read as
the same tree, with one body converted and with all places behind it moved by the change in size. -/
theorem read_of_run_quoted (hcommand : command ≠ .toNormal)
    (h : command.run style source offset = .ok edits) :
    ∃ place q kind result, Place.find? offset (Document.read source).targets = some place ∧
      place.body.delimiters = .quoted q true ∧
      (command = .toTemplate ∧ kind = .template ∨ command = .toggle ∧ kind = .normal q.other) ∧
      (Target.bodiesOf (Document.read source).targets).count place.body = 1 ∧
      Edit.applyAll? source edits = some result ∧
      Document.read result = (Document.read source).move (place.body.shift source result)
        (place.body.converted kind (place.body.shift source result)) := by
  obtain ⟨place, q, kind, hfind, hd, hkind, rfl⟩ := run_eq_ok_of_ne_toNormal hcommand h
  have hb := Place.mem_bodiesOf_of_find? hfind
  have hkind' : kind = .template ∨ kind = .normal q.other := hkind.imp And.right And.right
  obtain ⟨before, after, hsource, hspan, hread⟩ := Document.read_convertAndWrap hb hd hkind'
  have hsplices : Edit.Splices 0 (before ++ (place.body.delimiters.wrap place.body.text ++ after))
      [replaceBody place.body kind]
      (before ++ (Escape.convertAndWrap place.body.kind kind true true place.body.text ++ after)) :=
    .cons (by simp [replaceBody, hspan]) (by simp [replaceBody, hspan]) (.nil _ _)
  rw [← hsource] at hsplices
  exact ⟨place, q, kind, _, hfind, hd, hkind,
    List.count_eq_one_of_mem (Document.nodup_bodiesOf_read source) hb, hsplices.applyAll?,
    hread _ rfl⟩

/-- Swapping the quotes of a string in an interpolation, whose body needs a backslash less. -/
theorem read_of_run_quoted_nested :
    Command.toggle.run .infer "`a$\x7b'it\\'s' in x\x7db`".toList 6
        = .ok [⟨⟨4, 11⟩, "\"it's\"".toList⟩] ∧
      ∃ place q kind result,
        Place.find? 6 (Document.read "`a$\x7b'it\\'s' in x\x7db`".toList).targets = some place ∧
        place.body.delimiters = .quoted q true ∧
        (Command.toggle = .toTemplate ∧ kind = .template ∨
          Command.toggle = .toggle ∧ kind = .normal q.other) ∧
        (Target.bodiesOf (Document.read "`a$\x7b'it\\'s' in x\x7db`".toList).targets).count
          place.body = 1 ∧
        Edit.applyAll? "`a$\x7b'it\\'s' in x\x7db`".toList [⟨⟨4, 11⟩, "\"it's\"".toList⟩]
          = some result ∧
        Document.read result = (Document.read "`a$\x7b'it\\'s' in x\x7db`".toList).move
          (place.body.shift "`a$\x7b'it\\'s' in x\x7db`".toList result)
          (place.body.converted kind
            (place.body.shift "`a$\x7b'it\\'s' in x\x7db`".toList result)) := by
  have h : Command.toggle.run .infer "`a$\x7b'it\\'s' in x\x7db`".toList 6
      = .ok [⟨⟨4, 11⟩, "\"it's\"".toList⟩] := by
    cbv
  exact ⟨h, read_of_run_quoted (by decide) h⟩

end Command

end Requote
