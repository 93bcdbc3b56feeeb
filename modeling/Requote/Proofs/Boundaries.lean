import Requote.Proofs.Cursors
import Requote.Proofs.Lines
import Requote.Proofs.Outcomes
import Requote.Proofs.Relocation

/-!
# Places between characters

Reading keeps many places: the ends of bodies, of groups and of the blanks in them, and the offsets
of diagnostics. They are all ends of tokens, so they all lie between two characters, and taking the
text or the position there cannot fail. A line and a column name such a place as well. So the only
place that is never looked at before it is used is the cursor itself, and that matters only where no
string is.
-/

namespace Requote

/-! ### The places that are kept -/

/-- Both ends of a span have a property. -/
def Span.LiesAt (P : Nat → Prop) (s : Span) : Prop :=
  P s.start ∧ P s.stop

namespace Target

mutual

/-- All places of a target, and of those inside it, have a property. -/
def LiesAt (P : Nat → Prop) : Target → Prop
  | body b         => b.span.LiesAt P
  | group g inside => (g.leading.LiesAt P ∧ g.trailing.LiesAt P ∧ g.span.LiesAt P) ∧ LieAt P inside

/-- All places of a list of targets have a property. -/
def LieAt (P : Nat → Prop) : List Target → Prop
  | []      => True
  | a :: as => LiesAt P a ∧ LieAt P as

end

variable {P : Nat → Prop} {ts ts' : List Target} {a : Target}

lemma lieAt_iff : LieAt P ts ↔ ∀ a ∈ ts, LiesAt P a := by
  induction ts with
  | nil => simp [LieAt]
  | cons b ts ih => simp [LieAt, ih]

lemma lieAt_snoc : LieAt P (ts ++ [a]) ↔ LieAt P ts ∧ LiesAt P a := by
  simp only [lieAt_iff, List.forall_mem_append, List.forall_mem_singleton]

lemma LieAt.inside? {path : List Nat} (h : LieAt P ts) (hts : inside? ts path = some ts') :
    LieAt P ts' := by
  induction path generalizing ts with
  | nil =>
    obtain rfl := Option.some.inj hts
    exact h
  | cons i path ih =>
    obtain ⟨g, inside, hg, hinside⟩ := inside?_cons hts
    obtain ⟨-, hin⟩ := lieAt_iff.mp h _ (List.mem_of_getElem? hg)
    exact ih hin hinside

lemma LiesAt.start (h : LiesAt P a) : P a.span.start := by
  cases a with
  | body b => exact h.1
  | group g inside => exact h.1.2.2.1

end Target

/-- All places that an open interpolation keeps have a property. -/
structure Frame.LiesAt (P : Nat → Prop) (f : Frame) : Prop where
  start    : P f.start
  inside   : Target.LieAt P f.inside
  leading  : ∀ s ∈ f.leading, s.LiesAt P
  trailing : ∀ s ∈ f.trailing, s.LiesAt P

/-- All places that the reader keeps have a property. -/
structure Reader.LiesAt (P : Nat → Prop) (r : Reader) : Prop where
  targets     : Target.LieAt P r.targets
  frames      : ∀ f ∈ r.frames, f.LiesAt P
  diagnostics : ∀ d ∈ r.diagnostics, P d.offset

namespace Frame.LiesAt

variable {P : Nat → Prop} {f : Frame} {s : Span}

lemma finish {stop : Nat} (h : f.LiesAt P) (hstop : P stop) : (f.finish stop).LiesAt P := by
  have hgetD : ∀ (o : Option Span) (n : Nat), (∀ s ∈ o, s.LiesAt P) → P n →
      (o.getD ⟨n, n⟩).LiesAt P := by
    intro o n ho hn
    cases o with
    | none => exact ⟨hn, hn⟩
    | some s => exact ho s rfl
  exact ⟨⟨hgetD _ _ h.leading h.start, hgetD _ _ h.trailing hstop, h.start, hstop⟩, h.inside⟩

lemma note (h : f.LiesAt P) (x : Token) (hs : s.LiesAt P) : (f.note x s).LiesAt P := by
  have hblank : ∀ t ∈ (f.note x s).trailing, t.LiesAt P := by
    cases x <;> cases hbrackets : f.brackets <;> simp [Frame.note, hbrackets, hs]
  refine ⟨h.start, h.inside, ?_, hblank⟩
  cases hstarted : f.started
  · simpa [Frame.note, hstarted] using hblank
  · simpa [Frame.note, hstarted] using h.leading

end Frame.LiesAt

namespace Reader

variable {P : Nat → Prop} {r r' : Reader} {s : Span} {t v : Text} {x : Token} {xs : List Token}

lemma LiesAt.addTarget {a : Target} (h : r.LiesAt P) (ha : a.LiesAt P) :
    (r.addTarget a).LiesAt P := by
  simp only [Reader.addTarget]
  split
  · exact ⟨Target.lieAt_snoc.mpr ⟨h.targets, ha⟩, h.frames, h.diagnostics⟩
  · rename_i f frames hf
    obtain ⟨hfirst, hrest⟩ := List.forall_mem_cons.mp (hf ▸ h.frames)
    refine ⟨h.targets, List.forall_mem_cons.mpr ⟨?_, hrest⟩, h.diagnostics⟩
    exact ⟨hfirst.start, Target.lieAt_snoc.mpr ⟨hfirst.inside, ha⟩, hfirst.leading, hfirst.trailing⟩

lemma LiesAt.addDiagnostic {d : Diagnostic} (h : r.LiesAt P) (hd : P d.offset) :
    (r.addDiagnostic d).LiesAt P := by
  refine ⟨h.targets, h.frames, ?_⟩
  intro e he
  rcases List.mem_append.mp he with he | he
  · exact h.diagnostics e he
  · rwa [List.mem_singleton.mp he]

lemma LiesAt.modifyFrame {g : Frame → Frame} (h : r.LiesAt P)
    (hg : ∀ f, f.LiesAt P → (g f).LiesAt P) :
    (r.modifyFrame g).LiesAt P := by
  refine ⟨h.targets, ?_, h.diagnostics⟩
  simp only [Reader.modifyFrame]
  cases hf : r.frames with
  | nil => simp
  | cons f frames =>
    obtain ⟨hfirst, hrest⟩ := List.forall_mem_cons.mp (hf ▸ h.frames)
    exact List.forall_mem_cons.mpr ⟨hg f hfirst, hrest⟩

lemma LiesAt.note (h : r.LiesAt P) (x : Token) (hs : s.LiesAt P) : (r.note x s).LiesAt P :=
  h.modifyFrame fun _ hf => hf.note x hs

lemma LiesAt.closeFrame {stop : Nat} (h : r.LiesAt P) (hstop : P stop) :
    (r.closeFrame stop).LiesAt P := by
  simp only [Reader.closeFrame]
  split
  · exact h
  · rename_i f frames hf
    obtain ⟨hfirst, hrest⟩ := List.forall_mem_cons.mp (hf ▸ h.frames)
    exact LiesAt.addTarget ⟨h.targets, hrest, h.diagnostics⟩ (hfirst.finish hstop)

lemma LiesAt.addBody {d : Delimiters} (h : r.LiesAt P) (hs : s.LiesAt P) :
    (r.addBody d t s).LiesAt P := by
  simp only [Reader.addBody]
  split
  · exact h.addTarget hs
  · have hdiagnostic :
        (r.addDiagnostic (.unterminated d.kind s.start)).LiesAt P := h.addDiagnostic hs.1
    exact hdiagnostic.addTarget hs

lemma LiesAt.openFrame {start : Nat} (h : r.LiesAt P) (hstart : P start) :
    (r.openFrame start).LiesAt P := by
  refine ⟨h.targets, List.forall_mem_cons.mpr ⟨?_, h.frames⟩, h.diagnostics⟩
  exact ⟨hstart, trivial, by simp, by simp⟩

lemma LiesAt.closeBracket {b : Bracket} {offset : Nat} (h : r.LiesAt P) (hoffset : P offset) :
    (r.closeBracket b offset).LiesAt P := by
  simp only [Reader.closeBracket]
  split
  · exact h
  · rename_i f frames hf
    obtain ⟨hfirst, hrest⟩ := List.forall_mem_cons.mp (hf ▸ h.frames)
    split
    · refine ⟨h.targets, List.forall_mem_cons.mpr ⟨?_, hrest⟩, h.diagnostics⟩
      exact ⟨hfirst.start, hfirst.inside, hfirst.leading, hfirst.trailing⟩
    · have hevent : (r.addEvent (.mismatched b offset)).LiesAt P :=
        ⟨h.targets, h.frames, h.diagnostics⟩
      exact hevent.addDiagnostic hoffset

/-- A token brings in no places but its two ends. -/
lemma LiesAt.act (h : r.LiesAt P) (x : Token) (hs : s.LiesAt P) : (r.act x s).LiesAt P := by
  cases x with
  | body d t =>
    have hbody :
        (((if d.isFirst then r else r.closeFrame s.start).note (.body d t) s).addBody d t
          s).LiesAt P := by
      refine (LiesAt.note ?_ _ hs).addBody hs
      split
      · exact h
      · exact h.closeFrame hs.1
    rw [act_body]
    split
    · exact hbody
    · exact hbody.openFrame hs.2
  | opening b | operator t =>
    exact (h.note _ hs).modifyFrame fun f hf => ⟨hf.start, hf.inside, hf.leading, hf.trailing⟩
  | closing b => exact (h.note _ hs).closeBracket hs.1
  | comment t | blank t | other t => exact h.note _ hs

lemma LiesAt.step (h : r.LiesAt P) (hoffset : P r.offset) (hstop : P (r.step x).offset) :
    (r.step x).LiesAt P := by
  have hspan : (⟨r.offset, r.offset + x.text.size⟩ : Span).LiesAt P := ⟨hoffset, hstop⟩
  have hact := h.act x hspan
  exact ⟨hact.targets, hact.frames, hact.diagnostics⟩

lemma LiesAt.finish (h : r.LiesAt P) (hoffset : P r.offset) : r.finish.LiesAt P := by
  have hinvariant := finish_invariant (P := fun r => r.LiesAt P ∧ P r.offset) ?_ ⟨h, hoffset⟩
  · exact hinvariant.1
  · rintro r ⟨h, hoffset⟩
    exact ⟨h.closeFrame hoffset, by rwa [offset_closeFrame]⟩

/-- The reader stands between two characters, where the text in front of it and the text that is
left meet. -/
lemma Reads.cut?_offset {source : Text} (h : Reads {} source xs r t) :
    source.cut? r.offset = some (Token.textOf xs, t) := by
  have hoffset : r.offset = (Token.textOf xs).size := by simpa using h.offset_eq
  rw [hoffset, ← h.text_append, Text.cut?_append]

/-- The places that the reader keeps are places where it has been. -/
lemma Reads.liesAt {source : Text} (hP : ∀ xs r t, Reads {} source xs r t → P r.offset)
    (h : Reads {} source xs r t) : r.LiesAt P := by
  refine h.invariant_of_reads (P := fun r _ => r.LiesAt P) ?_ ⟨trivial, by simp, by simp⟩
  intro ys r t x u hys hlies hx
  exact hlies.step (hP _ _ _ hys) (hP _ _ _ (hys.append (.single hx)))

end Reader

namespace Document

/-- All places in a document have a property. -/
def LiesAt (P : Nat → Prop) (d : Document) : Prop :=
  Target.LieAt P d.targets ∧ ∀ e ∈ d.diagnostics, P e.offset

lemma liesAt_read {P : Nat → Prop} {source : Text}
    (hP : ∀ xs r t, Reader.Reads {} source xs r t → P r.offset) : (read source).LiesAt P := by
  obtain ⟨xs, h⟩ := Reader.exists_reads {} source
  have hlies := (h.liesAt hP).finish (hP _ _ _ h)
  exact ⟨hlies.targets, hlies.diagnostics⟩

/-- All places in a document are places between two characters of the text. -/
lemma liesAt_isBoundary (source : Text) :
    (read source).LiesAt fun offset => source.isBoundary offset = true := by
  apply liesAt_read
  intro xs r t h
  simp [Text.isBoundary, h.cut?_offset]

lemma isBoundary_start {source : Text} {path : List Nat} {ts : List Target} {a : Target}
    (hts : Target.inside? (read source).targets path = some ts) (ha : a ∈ ts) :
    source.isBoundary a.span.start = true :=
  (Target.lieAt_iff.mp ((liesAt_isBoundary source).1.inside? hts) a ha).start

end Document

/-- A decline points at a place between two characters, if it points at any. -/
def Decline.LiesIn (source : Text) (d : Decline) : Prop :=
  ∀ p ∈ d.location, source.position? p.offset = .ok p

lemma Decline.liesIn_of_isBoundary {source : Text} {offset : Nat} {d : Decline}
    (hd : d.location = some (source.position offset)) (h : source.isBoundary offset = true) :
    d.LiesIn source := by
  intro p hp
  obtain rfl : source.position offset = p := Option.some.inj (hd.symm.trans hp)
  rw [Text.offset_position, Text.position?_of_isBoundary h]

namespace Command

variable {command : Command} {style : QuoteStyle} {source : Text} {offset : Nat} {place : Place}
  {edits : List Edit} {kind : Kind}

/-! ### What a command answers -/

/-- Whether a cursor is inside a character and touches no string. -/
def Stray (source : Text) (offset : Nat) : Prop :=
  offset < source.size ∧ source.isBoundary offset = false ∧
    ∀ b ∈ Target.bodiesOf (Document.read source).targets, b.span.touches offset = false

/-- A command gives a text, or it declines with a place of the source text. -/
def Answers (command : Command) (style : QuoteStyle) (source : Text) (offset : Nat) : Prop :=
  (∃ text, command.convert style source offset = .ok text) ∨
    ∃ d, command.convert style source offset = .error (.declined d) ∧ d.LiesIn source

lemma declineAt_liesIn {α : Type} (reason : Reason) (h : source.isBoundary offset = true) :
    ∃ d, (declineAt source reason offset : Except Failure α) = .error (.declined d) ∧
      d.LiesIn source :=
  ⟨_, rfl, Decline.liesIn_of_isBoundary rfl h⟩

lemma replaceQuoted_eq_ok_or_declined {b : Body} (kind : Kind)
    (h : source.isBoundary b.span.start = true) :
    (∃ edits, replaceQuoted source b kind = .ok edits) ∨
      ∃ d, replaceQuoted source b kind = .error (.declined d) ∧ d.LiesIn source := by
  rw [replaceQuoted]
  split
  · exact .inl ⟨_, rfl⟩
  · exact .inr (declineAt_liesIn _ h)

lemma run_toNormal_eq_ok_or_declined (style : QuoteStyle)
    (hfind : Place.find? offset (Document.read source).targets = some place)
    (hkind : place.body.kind = .template) :
    (∃ edits, Command.toNormal.run style source offset = .ok edits) ∨
      ∃ d, Command.toNormal.run style source offset = .error (.declined d) ∧ d.LiesIn source := by
  obtain ⟨path, hpath⟩ := Place.exists_path_of_find? hfind
  obtain ⟨head, tail, hliteral, hfirst, htail⟩ := Place.exists_continues hpath
  obtain ⟨pre, post, htargets⟩ := place.exists_targets_eq
  have hboundary : ∀ a ∈ Target.body head :: tail, source.isBoundary a.span.start = true := by
    intro a ha
    apply Document.isBoundary_start hpath
    rw [htargets, hliteral]
    exact List.mem_append_right _ (List.mem_append_left _ ha)
  have hflattens := flattens_run_toNormal style hfind hkind hliteral hfirst htail
  generalize Command.toNormal.run style source offset = result at hflattens
  cases hflattens with
  | cutOff hcut => exact .inr (declineAt_liesIn _ (hboundary _ List.mem_cons_self))
  | blank hcut hg =>
    obtain ⟨inside, hmem, -⟩ := hg.exists_mem
    have hstart := hboundary _ (List.mem_cons_of_mem _ hmem)
    exact .inr ⟨_, rfl, Decline.liesIn_of_isBoundary rfl hstart⟩
  | flat hcut hnone => exact .inl ⟨_, rfl⟩

/-- Where a string is found, the command gives edits or declines. -/
lemma run_eq_ok_or_declined (command : Command) (style : QuoteStyle)
    (hfind : Place.find? offset (Document.read source).targets = some place) :
    (∃ edits, command.run style source offset = .ok edits) ∨
      ∃ d, command.run style source offset = .error (.declined d) ∧ d.LiesIn source := by
  obtain ⟨path, hpath⟩ := Place.exists_path_of_find? hfind
  have hbody : source.isBoundary place.body.span.start = true :=
    Document.isBoundary_start hpath (a := .body place.body) (by simp [Place.targets])
  cases command with
  | toTemplate =>
    simp only [run, placeAt, hfind, runToTemplate, bind, Except.bind]
    split
    · exact .inr (declineAt_liesIn _ hbody)
    · exact replaceQuoted_eq_ok_or_declined _ hbody
  | toggle =>
    simp only [run, placeAt, hfind, runToggle, bind, Except.bind]
    split
    · exact .inr (declineAt_liesIn _ hbody)
    · exact replaceQuoted_eq_ok_or_declined _ hbody
  | toNormal =>
    cases hkind : place.body.kind with
    | template => exact run_toNormal_eq_ok_or_declined style hfind hkind
    | normal q =>
      simp only [run, placeAt, hfind, runToNormal, hkind, bind, Except.bind]
      exact .inr (declineAt_liesIn _ hbody)

/-- The edits of a command can be applied. -/
lemma exists_applyAll?_of_run (h : command.run style source offset = .ok edits) :
    ∃ text, Edit.applyAll? source edits = some text := by
  by_cases hcommand : command = .toNormal
  · subst hcommand
    obtain ⟨place, q, head, tail, before, rest, after, hflattens⟩ := exists_flattensLiteral h
    exact ⟨_, hflattens.splices.applyAll?⟩
  · obtain ⟨place, q, kind, hfind, -, -, rfl⟩ := run_eq_ok_of_ne_toNormal hcommand h
    obtain ⟨before, after, rfl, hspan⟩ :=
      Document.split_of_mem_bodiesOf_read (Place.mem_bodiesOf_of_find? hfind)
    exact ⟨_, applyAll?_replaceBody after hspan kind⟩

lemma answers_of_find? (hfind : Place.find? offset (Document.read source).targets = some place) :
    command.Answers style source offset := by
  rcases run_eq_ok_or_declined command style hfind with ⟨edits, hrun⟩ | ⟨d, hrun, hd⟩
  · obtain ⟨text, htext⟩ := exists_applyAll?_of_run hrun
    exact .inl ⟨text, by simp [convert, hrun, htext, bind, Except.bind]⟩
  · exact .inr ⟨d, by simp [convert, hrun, bind, Except.bind], hd⟩

lemma convert_of_placeAt_error {failure : Failure}
    (h : placeAt source (Document.read source) offset = .error failure) :
    command.convert style source offset = .error failure := by
  simp [convert, run, h, bind, Except.bind]

lemma convert_of_stray (h : Stray source offset) :
    command.convert style source offset = .error (.cursor (.insideCharacter offset)) := by
  obtain ⟨hlt, hinside, hnone⟩ := h
  apply convert_of_placeAt_error
  have hmin : min offset source.size = offset := Nat.min_eq_left (Nat.le_of_lt hlt)
  have hle : ¬source.size < offset := Nat.not_lt_of_lt hlt
  rw [placeAt, Document.find?_eq_none_iff.mpr hnone]
  simp [Text.position?, hmin, hle, hinside]

/-- A cursor that finds no string is taken back to the end of the text if it is past the end. -/
lemma isBoundary_min (h : ¬Stray source offset)
    (hfind : Place.find? offset (Document.read source).targets = none) :
    source.isBoundary (min offset source.size) = true := by
  by_cases hlt : offset < source.size
  · rw [Nat.min_eq_left (Nat.le_of_lt hlt)]
    by_contra hinside
    exact h ⟨hlt, eq_false_of_ne_true hinside, Document.find?_eq_none_iff.mp hfind⟩
  · rw [Nat.min_eq_right (Nat.le_of_not_lt hlt)]
    simpa using Text.isBoundary_append source []

lemma answers_of_not_stray (h : ¬Stray source offset) : command.Answers style source offset := by
  match hfind : Place.find? offset (Document.read source).targets with
  | some place => exact answers_of_find? hfind
  | none =>
    have hboundary := isBoundary_min h hfind
    have hplace : placeAt source (Document.read source) offset = .error
        (.declined (.located source .noString (source.position (min offset source.size)))) := by
      simp only [placeAt, hfind, Text.position?_of_isBoundary hboundary]
    exact .inr ⟨_, convert_of_placeAt_error hplace, Decline.liesIn_of_isBoundary rfl hboundary⟩

lemma not_stray_of_isBoundary (h : source.isBoundary offset = true) : ¬Stray source offset :=
  fun hstray => Bool.false_ne_true (hstray.2.1.symm.trans h)

/-- A command breaks off exactly at a cursor that is inside a character and touches no string. At
every other cursor it gives a text or declines. All places kept in reading are places between two
characters, and so is the place of a line and column, which exists if there is such a line. -/
theorem answers_iff_not_stray (source : Text) :
    (∀ (command : Command) (style : QuoteStyle) (offset : Nat),
      (command.Answers style source offset ↔ ¬Stray source offset) ∧
      (Stray source offset →
        command.convert style source offset = .error (.cursor (.insideCharacter offset)))) ∧
    ((Document.read source).LiesAt fun offset => source.isBoundary offset = true) ∧
    (∀ xs r t, Reader.Reads {} source xs r t → source.cut? r.offset = some (Token.textOf xs, t)) ∧
    ∀ line column : Nat,
      (cursorAt source line column = .error (.outside line column) ↔
        line = 0 ∨ column = 0 ∨ source.count '\n' + 1 < line) ∧
      (cursorAt source line column ≠ .error (.outside line column) →
        ∃ offset ≤ source.size, cursorAt source line column = .ok offset ∧
          source.isBoundary offset = true ∧
          ∀ (command : Command) (style : QuoteStyle), command.Answers style source offset) := by
  refine ⟨fun command style offset => ⟨⟨?_, answers_of_not_stray⟩, convert_of_stray⟩,
    Document.liesAt_isBoundary source, fun xs r t h => h.cut?_offset, fun line column => ?_⟩
  · rintro (⟨text, htext⟩ | ⟨d, hd, -⟩) hstray
    · rw [convert_of_stray hstray] at htext
      simp at htext
    · rw [convert_of_stray hstray] at hd
      simp at hd
  · rw [← Text.offset?_eq_none_iff, cursorAt]
    match hoffset : source.offset? line column with
    | none => simp
    | some offset =>
      have hboundary := Text.isBoundary_of_offset? hoffset
      constructor
      · simp
      · intro _
        exact ⟨offset, Text.le_size_of_isBoundary hboundary, rfl, hboundary,
          fun command style => answers_of_not_stray (not_stray_of_isBoundary hboundary)⟩

/-- A cursor in the middle of a letter, in front of a string. -/
theorem answers_iff_not_stray_letter :
    Stray "é = 'a'".toList 1 ∧ ¬Command.toggle.Answers .infer "é = 'a'".toList 1 ∧
      Command.toggle.Answers .infer "é = 'a'".toList 0 := by
  have hbodies : Target.bodiesOf (Document.read "é = 'a'".toList).targets
      = [⟨.quoted .single true, ['a'], ⟨5, 8⟩⟩] := by
    cbv
  have hstray : Stray "é = 'a'".toList 1 := by
    refine ⟨by decide, by decide, ?_⟩
    rw [hbodies]
    decide
  have hanswers := (answers_iff_not_stray "é = 'a'".toList).1 .toggle .infer
  refine ⟨hstray, fun h => (hanswers 1).1.mp h hstray, (hanswers 0).1.mpr ?_⟩
  rintro ⟨-, hinside, -⟩
  exact absurd hinside (by decide)

end Command

end Requote
