import Requote.Proofs.Cursors
import Requote.Proofs.Grammar
import Requote.Proofs.Outcomes
import Requote.Proofs.Relocation

/-!
# Whole literals in a document

A literal without interpolations stands in a document between two texts. Reading gets to its start
in a state that depends on the text in front of it only, so another literal can stand in its place
if it is read as a whole from every state. A cursor right behind the first character of the literal
finds it, so a command can be run there again and again.
-/

namespace Requote

/-! ### Literals that are read as a whole -/

namespace Kind

variable {q : Quote} {k : Kind} {s : Text}

/-- A whole literal with a body. -/
def wrap (k : Kind) (s : Text) : Text :=
  (Delimiters.ofKind k true true).wrap s

/-- A whole literal that starts at an offset, as a body of a document. -/
def bodyAt (k : Kind) (offset : Nat) (s : Text) : Body :=
  ⟨.ofKind k true true, s, ⟨offset, offset + (k.wrap s).size⟩⟩

/-- Whether a literal with this body is read as a whole, wherever it stands. -/
def Admits (k : Kind) (s : Text) : Prop :=
  ∀ previous resumes rest, Token.next? previous resumes (k.wrap s ++ rest)
    = some (.body (.ofKind k true true) s, rest)

lemma wrap_normal (q : Quote) (s : Text) : (normal q).wrap s = q.char :: (s ++ [q.char]) := rfl

lemma one_lt_size_wrap (k : Kind) (s : Text) : 1 < (k.wrap s).size := by
  have hticks : '\x60'.utf8Size = 1 := by decide
  have hquote : ∀ q : Quote, q.char.utf8Size = 1 := by
    intro q
    cases q <;> decide
  cases k with
  | normal q =>
    simp only [wrap_normal, Text.size_cons, Text.size_append, Text.size_nil, hquote]
    omega
  | template =>
    simp only [wrap, Delimiters.ofKind, Delimiters.wrap, Delimiters.opening, Delimiters.closing,
      Delimiters.closing?, Opening.text, Closing.text, if_true, Option.map_some, Option.getD_some,
      Text.size_append, Text.size_cons, Text.size_nil, hticks]
    omega

lemma admits_normal_iff : (normal q).Admits s ↔ ∀ a ∈ Atom.read s, a.Fits q.char := by
  constructor
  · intro h
    obtain ⟨t, ht, hread⟩ := Token.next?_eq_quoted (h none false [])
    exact Atom.fits_of_readQuoted hread
  · intro h previous resumes rest
    have hread := Atom.readQuoted_spell h rest
    rw [Atom.spell_read] at hread
    rw [wrap_normal, List.cons_append, List.append_assoc, List.singleton_append, Token.next?_quote,
      hread]
    rfl

/-- What a quoted literal is converted to is read as a whole again. -/
lemma Admits.convert (h : (normal q).Admits s) (hk : k = .template ∨ k = .normal q.other) :
    k.Admits (Escape.convert (.normal q) k s) := by
  obtain ⟨t, -, hread⟩ := Token.next?_eq_quoted (h none false [])
  intro previous resumes rest
  exact Token.next?_convertAndWrap previous resumes hk hread rest

end Kind

/-! ### The place of a literal -/

namespace Document

variable {before after s s' : Text} {k k' : Kind} {q : Quote} {b : Body} {source : Text}

/-- A whole literal between two texts is a body of the document that all three make up. -/
def Holds (before : Text) (k : Kind) (s after : Text) : Prop :=
  k.bodyAt before.size s ∈ Target.bodiesOf (read (before ++ (k.wrap s ++ after))).targets

/-- Every whole literal of a document stands between two texts. -/
lemma exists_holds (hb : b ∈ Target.bodiesOf (read source).targets)
    (hd : b.delimiters = .ofKind k true true) :
    ∃ before after, source = before ++ (k.wrap b.text ++ after) ∧ b = k.bodyAt before.size b.text ∧
      Holds before k b.text after := by
  obtain ⟨before, after, hsource, hspan⟩ := split_of_mem_bodiesOf_read hb
  rw [hd] at hsource hspan
  have hb' : b = k.bodyAt before.size b.text := by
    obtain ⟨d, t, sp⟩ := b
    simp only at hd hspan
    rw [Kind.bodyAt, hd, hspan, Kind.wrap]
  refine ⟨before, after, hsource, hb', ?_⟩
  rw [Holds, ← hb', Kind.wrap, ← hsource]
  exact hb

/-- The state in which a literal is read. -/
lemma Holds.exists_reads (h : Holds before k s after) :
    ∃ ys r, Reader.Reads {} (before ++ (k.wrap s ++ after)) ys r (k.wrap s ++ after) ∧
      r.offset = before.size ∧
      Token.next? r.previous r.resumes (k.wrap s ++ after)
        = some (.body (.ofKind k true true) s, after) := by
  obtain ⟨ys, r, after', zs, hys, hoffset, hspan, hx, -⟩ := exists_reads_of_mem_bodiesOf_read h
  have hstart : before.size = r.offset := congrArg Span.start hspan
  obtain ⟨-, hrest⟩ := Text.append_inj_of_size_eq hys.text_append (hoffset.symm.trans hstart.symm)
  obtain rfl : after' = after := List.append_cancel_left hrest
  exact ⟨ys, r, hys, hstart.symm, hx⟩

lemma Holds.fits (h : Holds before (.normal q) s after) : ∀ a ∈ Atom.read s, a.Fits q.char := by
  obtain ⟨ys, r, -, -, hx⟩ := h.exists_reads
  obtain ⟨t, -, hread⟩ := Token.next?_eq_quoted hx
  exact Atom.fits_of_readQuoted hread

lemma mem_bodiesOf_of_reads {ys : List Token} {r : Reader} {t u : Text}
    (hys : Reader.Reads {} source ys r t)
    (hx : Token.next? r.previous r.resumes t = some (.body (.ofKind k true true) s, u)) :
    k.bodyAt r.offset s ∈ Target.bodiesOf (read source).targets := by
  obtain ⟨zs, hzs⟩ := Reader.exists_reads (r.step (.body (.ofKind k true true) s)) u
  have hread := hys.append (.cons hx hzs)
  rw [bodiesOf_read, hread.run_eq, Reader.run, hzs.found_eq, Reader.found_step]
  simp [Token.bodyAt?, Kind.bodyAt, Kind.wrap]

/-- Where a whole literal stands, another one can stand. -/
lemma Holds.replace (h : Holds before k s after) (h' : k'.Admits s') :
    Holds before k' s' after := by
  obtain ⟨ys, r, hys, hoffset, -⟩ := h.exists_reads
  have hfirst : ∀ k : Kind, (Delimiters.ofKind k true true).isFirst = true := by
    intro k
    cases k <;> rfl
  -- the tokens in front of the literal stop at its first character, whichever it is
  obtain ⟨c, w, hcons, hneutral, hblank⟩ := Token.wrap_eq_cons (hfirst k) s
  obtain ⟨c', w', hcons', hneutral', hblank'⟩ := Token.wrap_eq_cons (hfirst k') s'
  have hbefore : Token.textOf ys = before := hys.textOf_eq
  rw [Kind.wrap, hcons, List.cons_append] at hys
  have hfront := hys.congr (m := []) hneutral hneutral'
    (fun _ _ _ => .inr (.inl ⟨hblank, hblank'⟩)) (w' ++ after)
  rw [List.nil_append, ← List.cons_append, ← hcons', hbefore] at hfront
  rw [Holds, ← hoffset]
  exact mem_bodiesOf_of_reads hfront (h' _ _ _)

/-- A cursor right behind the first character of a whole literal finds it. -/
lemma Holds.find? (h : Holds before k s after) :
    ∃ place,
      Place.find? (before.size + 1) (read (before ++ (k.wrap s ++ after))).targets = some place ∧
      place.body = k.bodyAt before.size s :=
  find?_of_mem_bodiesOf h (Nat.lt_succ_self _) (Nat.add_lt_add_left (k.one_lt_size_wrap s) _)

end Document

/-! ### Converting a literal in its place -/

namespace Command

open Document (Holds)

variable {before after s source text : Text} {k k' : Kind} {q : Quote} {style : QuoteStyle}
  {command : Command} {place : Place} {offset : Nat} {edits : List Edit}

/-- Which kind of literal a command converts to which. -/
inductive Turns (style : QuoteStyle) : Command → Kind → Kind → Prop where
  | toTemplate (q : Quote) : Turns style .toTemplate (.normal q) .template
  | toggle (q : Quote) : Turns style .toggle (.normal q) (.normal q.other)
  | toNormal {q : Quote} (h : ∀ suggested, style.resolve suggested = .normal q) :
      Turns style .toNormal .template (.normal q)

lemma convert_eq_ok (hrun : command.run style source offset = .ok edits)
    (happly : Edit.applyAll? source edits = some text) :
    command.convert style source offset = .ok text := by
  simp [convert, hrun, happly, bind, Except.bind]

lemma run_eq_ok_of_turns (hk : Turns style command k k')
    (hfind : Place.find? offset (Document.read source).targets = some place)
    (hbody : place.body.delimiters = .ofKind k true true) :
    command.run style source offset = .ok [replaceBody place.body k'] := by
  have hkind : place.body.kind = k := by
    rw [Body.kind, hbody]
    cases k <;> rfl
  cases hk with
  | toTemplate q | toggle q =>
    have hterminated : place.body.isTerminated = true := by
      rw [Body.isTerminated, hbody]
      rfl
    simp [run, placeAt, hfind, runToTemplate, runToggle, hkind, replaceQuoted, hterminated, bind,
      Except.bind]
  | toNormal hq =>
    have hfirst : place.body.isFirst = true := by
      rw [Body.isFirst, hbody]
      rfl
    have hlast : place.body.isLast = true := by
      rw [Body.isLast, hbody]
      rfl
    have hliteral : place.literal = [.body place.body] := by simp [Place.literal, hfirst, hlast]
    have hclosed : isClosed [.body place.body] = true := by
      simp [isClosed, hbody, Delimiters.ofKind]
    simp [run, placeAt, hfind, runToNormal, hkind, hliteral, hclosed, hq, bind, Except.bind]

/-- A command on a whole literal puts the converted literal in its place. -/
lemma convert_of_holds (style : QuoteStyle) (h : Holds before k s after)
    (hk : Turns style command k k') :
    command.convert style (before ++ (k.wrap s ++ after)) (before.size + 1)
      = .ok (before ++ (k'.wrap (Escape.convert k k' s) ++ after)) := by
  obtain ⟨place, hfind, hbody⟩ := h.find?
  have hrun := run_eq_ok_of_turns hk hfind (congrArg Body.delimiters hbody)
  have hspan : (k.bodyAt before.size s).span = ⟨before.size, before.size + (k.wrap s).size⟩ := rfl
  have hkind : (k.bodyAt before.size s).kind = k := by cases k <;> rfl
  have happly := applyAll?_replaceBody after hspan k'
  rw [hkind] at happly
  rw [hbody] at hrun
  exact convert_eq_ok hrun happly

end Command

end Requote
