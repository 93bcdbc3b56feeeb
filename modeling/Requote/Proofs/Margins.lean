import Requote.Proofs.Outcomes
import Requote.Proofs.Rows

/-!
# Blanks at the ends of an interpolation

A group keeps two spans of blanks, one at each end of its code. They are brought up to date token by
token while the interpolation is open. What is open then holds nothing but blanks so far, or it
holds code between its two ends, and a string in it covers all interpolations around. So the spans
are right however the interpolation ends: at a closing brace, or with the text, when it is finished
together with those around it.
-/

namespace Requote

/-! ### Stretches of a text -/

namespace Text

variable {t w w' : Text} {a b c : Nat}

lemma slice?_eq_some_iff :
    t.slice? a b = some w ↔
      ∃ before after, t = before ++ (w ++ after) ∧ before.size = a ∧ a + w.size = b := by
  constructor
  · intro h
    rw [slice?] at h
    split at h
    · rename_i hle
      obtain ⟨⟨before, rest⟩, hcut, h⟩ := Option.bind_eq_some_iff.mp h
      obtain ⟨⟨middle, after⟩, hcut', h⟩ := Option.bind_eq_some_iff.mp h
      obtain rfl := Option.some.inj h
      obtain ⟨rfl, rfl⟩ := append_eq_of_cut? hcut
      obtain ⟨rfl, hsize⟩ := append_eq_of_cut? hcut'
      exact ⟨before, after, rfl, rfl, by omega⟩
    · simp at h
  · rintro ⟨before, after, rfl, rfl, rfl⟩
    exact slice?_append before w after

/-- Two stretches one after the other are one. -/
lemma slice?_trans (h : t.slice? a b = some w) (h' : t.slice? b c = some w') :
    t.slice? a c = some (w ++ w') := by
  obtain ⟨before, after, rfl, rfl, rfl⟩ := slice?_eq_some_iff.mp h
  obtain ⟨before', after', heq, hsize, rfl⟩ := slice?_eq_some_iff.mp h'
  rw [← List.append_assoc] at heq
  obtain ⟨rfl, rfl⟩ := append_inj_of_size_eq heq (by rw [hsize, size_append])
  refine slice?_eq_some_iff.mpr ⟨before, after', by simp, rfl, ?_⟩
  rw [size_append, Nat.add_assoc]

lemma slice?_le (h : t.slice? a b = some w) : a ≤ b := by
  obtain ⟨-, -, -, -, rfl⟩ := slice?_eq_some_iff.mp h
  exact Nat.le_add_right a _

/-- At either end of a stretch there is an empty one. -/
lemma slice?_start (h : t.slice? a b = some w) : t.slice? a a = some [] := by
  obtain ⟨before, after, rfl, rfl, rfl⟩ := slice?_eq_some_iff.mp h
  exact slice?_eq_some_iff.mpr ⟨before, w ++ after, rfl, rfl, rfl⟩

lemma slice?_stop (h : t.slice? a b = some w) : t.slice? b b = some [] := by
  obtain ⟨before, after, rfl, rfl, rfl⟩ := slice?_eq_some_iff.mp h
  refine slice?_eq_some_iff.mpr ⟨before ++ w, after, by simp, size_append _ _, rfl⟩

end Text

/-- Whether there is nothing but blanks in a span. -/
def Span.IsBlank (source : Text) (s : Span) : Prop :=
  ∃ w, source.slice? s.start s.stop = some w ∧ ∀ c ∈ w, Text.isBlank c = true

/-! ### The groups of a tree -/

namespace Target

mutual

/-- Every group of a target, at any depth, has a property. -/
def EveryGroup (P : Group → List Target → Prop) : Target → Prop
  | body _         => True
  | group g inside => P g inside ∧ EveryGroupOf P inside

/-- Every group of a list of targets, at any depth, has a property. -/
def EveryGroupOf (P : Group → List Target → Prop) : List Target → Prop
  | []      => True
  | a :: as => EveryGroup P a ∧ EveryGroupOf P as

end

variable {P : Group → List Target → Prop} {ts ts' : List Target} {a : Target}

lemma everyGroupOf_iff : EveryGroupOf P ts ↔ ∀ a ∈ ts, EveryGroup P a := by
  induction ts with
  | nil => simp [EveryGroupOf]
  | cons b ts ih => simp [EveryGroupOf, ih]

lemma everyGroupOf_snoc : EveryGroupOf P (ts ++ [a]) ↔ EveryGroupOf P ts ∧ EveryGroup P a := by
  simp only [everyGroupOf_iff, List.forall_mem_append, List.forall_mem_singleton]

lemma EveryGroupOf.inside? {path : List Nat} (h : EveryGroupOf P ts)
    (hts : inside? ts path = some ts') : EveryGroupOf P ts' := by
  induction path generalizing ts with
  | nil =>
    obtain rfl := Option.some.inj hts
    exact h
  | cons i path ih =>
    obtain ⟨g, inside, hg, hinside⟩ := inside?_cons hts
    obtain ⟨-, hin⟩ := everyGroupOf_iff.mp h _ (List.mem_of_getElem? hg)
    exact ih hin hinside

end Target

/-! ### The spans of blanks -/

/-- The spans of blanks of a group are right. They are where the group begins and ends, and if it
holds code, this begins and ends between them, with all targets in it. -/
structure Group.Trimmed (source : Text) (g : Group) (inside : List Target) : Prop where
  text           : ∃ w, source.slice? g.span.start g.span.stop = some w
  leading        : g.leading.IsBlank source
  trailing       : g.trailing.IsBlank source
  leading_start  : g.leading.start = g.span.start
  leading_stop   : g.leading.stop ≤ g.span.stop
  trailing_start : g.span.start ≤ g.trailing.start
  trailing_stop  : g.trailing.stop = g.span.stop
  of_isBlank     : g.IsBlank source → g.leading = g.span ∧ g.trailing = g.span
  code           : ¬g.IsBlank source → g.leading.stop < g.trailing.start ∧
    (∃ c w, source.slice? g.leading.stop g.trailing.start = some (c :: w) ∧
      Text.isBlank c = false) ∧
    ∀ a ∈ inside, g.leading.stop ≤ a.span.start ∧ a.span.stop ≤ g.trailing.start

namespace Frame

/-- What is known of the code of an open interpolation if it ends at an offset. -/
def groupAt (f : Frame) (stop : Nat) : Group where
  lowPriority := f.lowPriority
  leading     := f.leading.getD ⟨f.start, f.start⟩
  trailing    := f.trailing.getD ⟨stop, stop⟩
  span        := ⟨f.start, stop⟩

/-- Nothing but blanks was read in an interpolation so far, and no more of them follow. -/
structure HoldsBlanks (source : Text) (stop : Nat) (rest : Text) (f : Frame) : Prop where
  span     : (f.groupAt stop).span.IsBlank source
  inside   : f.inside = []
  brackets : f.brackets = []
  fresh    : f.started = false → stop = f.start
  rest     : f.started = true → ∀ c ∈ rest.head?, Text.isBlank c = false
  leading  : (f.groupAt stop).leading = (f.groupAt stop).span
  trailing : (f.groupAt stop).trailing = (f.groupAt stop).span

/-- Code was read in an interpolation, and blanks may stand at either end of it. -/
structure HoldsCode (source : Text) (stop : Nat) (f : Frame) : Prop where
  started       : f.started = true
  leading       : (f.groupAt stop).leading.IsBlank source
  trailing      : (f.groupAt stop).trailing.IsBlank source
  leading_start : (f.groupAt stop).leading.start = f.start
  trailing_stop : (f.groupAt stop).trailing.stop = stop
  code          : ∃ c w, source.slice? (f.groupAt stop).leading.stop (f.groupAt stop).trailing.start
    = some (c :: w) ∧ Text.isBlank c = false
  inside        : ∀ a ∈ f.inside, (f.groupAt stop).leading.stop ≤ a.span.start ∧
    a.span.stop ≤ (f.groupAt stop).trailing.start

variable {source rest u w : Text} {f : Frame} {x : Token} {stop stop' : Nat} {a : Target}
  {previous : Option Char} {resumes : Bool}

lemma HoldsBlanks.trimmed (h : f.HoldsBlanks source stop rest) :
    (f.groupAt stop).Trimmed source f.inside := by
  obtain ⟨w, hw, -⟩ := h.span
  refine ⟨⟨w, hw⟩, ?_, ?_, ?_, ?_, ?_, ?_, fun _ => ⟨h.leading, h.trailing⟩, fun hnot => ?_⟩
  · rw [h.leading]
    exact h.span
  · rw [h.trailing]
    exact h.span
  · rw [h.leading]
  · rw [h.leading]
  · rw [h.trailing]
  · rw [h.trailing]
  · exact absurd h.span hnot

lemma HoldsCode.trimmed (h : f.HoldsCode source stop) :
    (f.groupAt stop).Trimmed source f.inside := by
  obtain ⟨lead, hlead, -⟩ := h.leading
  obtain ⟨trail, htrail, -⟩ := h.trailing
  obtain ⟨c, w, hcode, hc⟩ := h.code
  have htext := Text.slice?_trans (Text.slice?_trans hlead hcode) htrail
  rw [h.leading_start, h.trailing_stop] at htext
  have hlt : (f.groupAt stop).leading.stop < (f.groupAt stop).trailing.start := by
    obtain ⟨-, -, -, -, hsize⟩ := Text.slice?_eq_some_iff.mp hcode
    have hpos := Text.size_pos (List.cons_ne_nil c w)
    omega
  have hstart := Text.slice?_le hlead
  have hstop := Text.slice?_le htrail
  rw [h.leading_start] at hstart
  rw [h.trailing_stop] at hstop
  refine ⟨⟨_, htext⟩, h.leading, h.trailing, h.leading_start, ?_, ?_, h.trailing_stop, ?_,
    fun _ => ⟨hlt, h.code, h.inside⟩⟩
  · exact Nat.le_trans (Nat.le_of_lt hlt) hstop
  · exact Nat.le_trans hstart (Nat.le_of_lt hlt)
  · rintro ⟨blanks, hblanks, hall⟩
    obtain rfl := Option.some.inj (htext.symm.trans hblanks)
    rw [hall c (by simp)] at hc
    exact absurd hc (by simp)

/-! ### One token -/

/-- An interpolation that was just opened. -/
lemma holdsBlanks_opened (h : source.slice? stop stop = some []) :
    HoldsBlanks source stop rest { start := stop } :=
  ⟨⟨[], h, by simp⟩, rfl, rfl, fun _ => rfl, by simp, rfl, rfl⟩

lemma leading_groupAt_take (hx : x.isBlank = true → f.started = false → f.brackets = []) (s : Span)
    (stop stop' : Nat) :
    ((f.take x s).groupAt stop').leading = if f.started then (f.groupAt stop).leading
      else if x.isBlank then s else ⟨f.start, f.start⟩ := by
  simp only [groupAt, leading_take hx, start_take]
  cases f.started <;> cases x.isBlank <;> rfl

/-- The blanks at the end are those that were read just now, or none. -/
lemma trailing_groupAt_take (f : Frame) (x : Token) (s : Span) :
    ((f.take x s).groupAt s.stop).trailing = ⟨s.stop, s.stop⟩ ∨
      x.isBlank = true ∧ ((f.take x s).groupAt s.stop).trailing = s := by
  simp only [groupAt]
  match h : (f.take x s).trailing with
  | none => exact .inl rfl
  | some sp =>
    obtain ⟨rfl, hblank⟩ := eq_of_mem_trailing_take sp h
    exact .inr ⟨hblank, rfl⟩

lemma trailing_take (hx : x.isBlank = false) {s : Span} : (f.take x s).trailing = none := by
  match h : (f.take x s).trailing with
  | none => rfl
  | some sp =>
    obtain ⟨-, hblank⟩ := eq_of_mem_trailing_take sp h
    rw [hx] at hblank
    exact absurd hblank (by simp)

lemma mem_inside_take {s : Span} (ha : a ∈ (f.take x s).inside) :
    a ∈ f.inside ∨ a.span = s ∧ x.isBlank = false := by
  cases x with
  | body d t =>
    rcases List.mem_append.mp ha with ha | ha
    · exact .inl ha
    · rw [List.mem_singleton.mp ha]
      exact .inr ⟨rfl, rfl⟩
  | opening b | closing b | operator t | comment t | blank t | other t => exact .inl ha

/-- Behind the first blanks of an interpolation there is code. -/
lemma HoldsBlanks.take_code (h : f.HoldsBlanks source stop rest) (hx : x.isBlank = false)
    (htext : source.slice? stop stop' = some x.text)
    (hcode : ∃ c w, x.text = c :: w ∧ Text.isBlank c = false) :
    (f.take x ⟨stop, stop'⟩).HoldsCode source stop' := by
  have hleading : ((f.take x ⟨stop, stop'⟩).groupAt stop').leading = ⟨f.start, stop⟩ := by
    rw [leading_groupAt_take (by simp [hx]) _ stop, h.leading, hx]
    cases hstarted : f.started with
    | true => rfl
    | false =>
      rw [h.fresh hstarted]
      rfl
  have htrailing : ((f.take x ⟨stop, stop'⟩).groupAt stop').trailing = ⟨stop', stop'⟩ := by
    simp [groupAt, trailing_take hx]
  obtain ⟨c, w, hcw, hc⟩ := hcode
  refine ⟨started_take f x _, ?_, ?_, ?_, ?_, ?_, ?_⟩
  · rw [hleading]
    exact h.span
  · rw [htrailing]
    exact ⟨[], Text.slice?_stop htext, by simp⟩
  · rw [hleading, start_take]
  · rw [htrailing]
  · rw [hleading, htrailing]
    exact ⟨c, w, hcw ▸ htext, hc⟩
  · rw [hleading, htrailing]
    intro a ha
    rcases mem_inside_take ha with ha | ⟨hspan, -⟩
    · simp [h.inside] at ha
    · simp [hspan]

/-- The first token of an interpolation, if it is blank. -/
lemma HoldsBlanks.take_blank (h : f.HoldsBlanks source stop rest) (hx : x.isBlank = true)
    (hfresh : f.started = false) (htext : source.slice? stop stop' = some x.text)
    (hblank : ∀ c ∈ x.text, Text.isBlank c = true) (hu : ∀ c ∈ u.head?, Text.isBlank c = false) :
    (f.take x ⟨stop, stop'⟩).HoldsBlanks source stop' u := by
  have hstop := h.fresh hfresh
  match x, hx with
  | .blank w, _ =>
    refine ⟨⟨w, ?_, hblank⟩, h.inside, h.brackets, ?_, fun _ => hu, ?_, ?_⟩
    · simpa [groupAt, start_take, ← hstop, Token.text] using htext
    · simp [started_take]
    · simp [groupAt, take, note, h.brackets, hfresh, hstop]
    · simp [groupAt, take, note, h.brackets, hstop]

/-- What is read behind the code, or in it, makes the code longer, up to the blanks at its end. -/
lemma HoldsCode.extend {f' : Frame} {trail : Span} (h : f.HoldsCode source stop)
    (hstarted : f'.started = true) (hstart : f'.start = f.start) (hleading : f'.leading = f.leading)
    (htrailing : (f'.groupAt stop').trailing = trail) (hblank : trail.IsBlank source)
    (hstop : trail.stop = stop') (htext : source.slice? stop trail.start = some w)
    (hinside : ∀ a ∈ f'.inside, a ∈ f.inside ∨ stop ≤ a.span.start ∧ a.span.stop ≤ trail.start) :
    f'.HoldsCode source stop' := by
  have hleading' : (f'.groupAt stop').leading = (f.groupAt stop).leading := by
    simp only [groupAt, hleading, hstart]
  obtain ⟨c, v, hcode, hc⟩ := h.code
  obtain ⟨old, hold, -⟩ := h.trailing
  rw [h.trailing_stop] at hold
  have hlonger := Text.slice?_trans hcode hold
  have hle := Text.slice?_le hlonger
  have hold_le := Text.slice?_le hold
  have htext_le := Text.slice?_le htext
  refine ⟨hstarted, ?_, ?_, ?_, ?_, ?_, ?_⟩
  · rw [hleading']
    exact h.leading
  · rwa [htrailing]
  · rw [hleading', hstart]
    exact h.leading_start
  · rwa [htrailing]
  · rw [hleading', htrailing]
    exact ⟨c, _, Text.slice?_trans hlonger htext, hc⟩
  · rw [hleading', htrailing]
    intro a ha
    rcases hinside a ha with ha | ha
    · have := h.inside a ha
      omega
    · omega

lemma HoldsCode.take (h : f.HoldsCode source stop) (htext : source.slice? stop stop' = some x.text)
    (hblank : x.isBlank = true → ∀ c ∈ x.text, Text.isBlank c = true) :
    (f.take x ⟨stop, stop'⟩).HoldsCode source stop' := by
  have hleading : (f.take x ⟨stop, stop'⟩).leading = f.leading := by
    rw [leading_take (by simp [h.started]), h.started, if_pos rfl]
  rcases trailing_groupAt_take f x ⟨stop, stop'⟩ with htrailing | ⟨hx, htrailing⟩
  · refine h.extend (started_take f x _) (start_take f x _) hleading htrailing
      ⟨[], Text.slice?_stop htext, by simp⟩ rfl htext fun a ha => ?_
    rcases mem_inside_take ha with ha | ⟨hspan, -⟩
    · exact .inl ha
    · rw [hspan]
      exact .inr ⟨Nat.le_refl _, Nat.le_refl _⟩
  · refine h.extend (started_take f x _) (start_take f x _) hleading htrailing
      ⟨x.text, htext, hblank hx⟩ rfl (Text.slice?_start htext) fun a ha => ?_
    rcases mem_inside_take ha with ha | ⟨-, hnot⟩
    · exact .inl ha
    · rw [hx] at hnot
      exact absurd hnot (by simp)

/-- The group of an interpolation further inside is code of the one around it. -/
lemma HoldsCode.addInside (h : f.HoldsCode source stop) (htrailing : f.trailing = none)
    (htext : source.slice? stop stop' = some w) (hstart : a.span.start = stop)
    (hstop : a.span.stop = stop') :
    HoldsCode source stop' { f with inside := f.inside ++ [a] } := by
  have htrailing' :
      (groupAt { f with inside := f.inside ++ [a] } stop').trailing = ⟨stop', stop'⟩ := by
    simp [groupAt, htrailing]
  refine h.extend h.started rfl rfl htrailing' ⟨[], Text.slice?_stop htext, by simp⟩ rfl htext
    fun b hb => ?_
  rcases List.mem_append.mp hb with hb | hb
  · exact .inl hb
  · rw [List.mem_singleton.mp hb, hstart, hstop]
    exact .inr ⟨Nat.le_refl _, Nat.le_refl _⟩

/-- Blanks, or code, between the start of an interpolation and an offset. -/
def Holds (source : Text) (stop : Nat) (rest : Text) (f : Frame) : Prop :=
  f.HoldsBlanks source stop rest ∨ f.HoldsCode source stop

lemma Holds.trimmed (h : f.Holds source stop rest) : (f.groupAt stop).Trimmed source f.inside :=
  h.elim HoldsBlanks.trimmed HoldsCode.trimmed

lemma Holds.take_code (h : f.Holds source stop rest)
    (hx : Token.next? previous resumes rest = some (x, u)) (hblank : x.isBlank = false)
    (htext : source.slice? stop stop' = some x.text) :
    (f.take x ⟨stop, stop'⟩).HoldsCode source stop' := by
  obtain ⟨happ, hne⟩ := Token.next?_eq_some hx
  obtain ⟨c, w, hw⟩ := List.exists_cons_of_ne_nil hne
  rw [← happ, hw, List.cons_append] at hx
  rcases h with h | h
  · exact h.take_code hblank htext ⟨c, w, hw, Token.isBlank_of_next? hx hblank⟩
  · exact h.take htext (by simp [hblank])

/-- A token keeps what is known of the interpolation that it is read in. -/
lemma Holds.take (h : f.Holds source stop rest)
    (hx : Token.next? previous resumes rest = some (x, u))
    (htext : source.slice? stop stop' = some x.text) :
    (f.take x ⟨stop, stop'⟩).Holds source stop' u := by
  cases hblank : x.isBlank with
  | false => exact .inr (h.take_code hx hblank htext)
  | true =>
    obtain ⟨w, rfl⟩ : ∃ w, x = .blank w := by
      match x, hblank with
      | .blank w, _ => exact ⟨w, rfl⟩
    obtain ⟨hall, hrest⟩ := Token.next?_eq_blank hx
    rcases h with h | h
    · refine .inl (h.take_blank hblank ?_ htext hall hrest)
      -- blanks do not follow blanks
      by_contra hstarted
      obtain ⟨happ, hne⟩ := Token.next?_eq_some hx
      obtain ⟨c, v, rfl⟩ := List.exists_cons_of_ne_nil hne
      have hc := h.rest (by simpa using hstarted) c (by simp [← happ, Token.text])
      rw [hall c List.mem_cons_self] at hc
      exact absurd hc (by simp)
    · exact .inr (h.take htext fun _ => hall)

end Frame

namespace Reader

variable {r r' : Reader} {source t u v : Text} {x : Token} {xs : List Token} {f : Frame}
  {fs : List Frame} {stop : Nat}

/-! ### All open interpolations -/

/-- Interpolations around another one that starts at an offset. Each of them ends, so far, with the
string that opens the next. -/
def Around (source : Text) : Nat → List Frame → Prop
  | _,    []      => True
  | stop, f :: fs => f.HoldsCode source stop ∧ f.trailing = none ∧ Around source f.start fs

/-- What is known of the open interpolations, at an offset and with the text that is left. -/
def Nested (source : Text) (stop : Nat) (rest : Text) : List Frame → Prop
  | []      => True
  | f :: fs => f.Holds source stop rest ∧ Around source f.start fs

/-- The spans of blanks are right in all groups found so far, and in those to come. -/
structure Trims (source : Text) (r : Reader) (rest : Text) : Prop where
  groups : ∀ level ∈ r.levels, Target.EveryGroupOf (Group.Trimmed source) level.2
  frames : Nested source r.offset rest r.frames

lemma forall_addToHead {P : Group → List Target → Prop} {a : Target}
    {levels : List (Nat × List Target)} (h : ∀ level ∈ levels, Target.EveryGroupOf P level.2)
    (ha : a.EveryGroup P) :
    ∀ level ∈ addToHead a levels, Target.EveryGroupOf P level.2 := by
  cases levels with
  | nil => exact h
  | cons level levels =>
    obtain ⟨hfirst, hrest⟩ := List.forall_mem_cons.mp h
    exact List.forall_mem_cons.mpr ⟨Target.everyGroupOf_snoc.mpr ⟨hfirst, ha⟩, hrest⟩

/-- An interpolation that ends where the reader is becomes a group in the one around it. -/
lemma Trims.closeFrame (h : r.Trims source t) : (r.closeFrame r.offset).Trims source t := by
  cases hf : r.frames with
  | nil =>
    rwa [closeFrame_of_frames_eq_nil hf]
  | cons f fs =>
    obtain ⟨hholds, haround⟩ : f.Holds source r.offset t ∧ Around source f.start fs := by
      simpa [hf, Nested] using h.frames
    have htrimmed := hholds.trimmed
    constructor
    · rw [levels_closeFrame hf]
      refine forall_addToHead (fun level hlevel => h.groups level (List.mem_of_mem_tail hlevel)) ?_
      exact ⟨htrimmed, h.groups (f.start, f.inside) (by simp [levels, hf])⟩
    · rw [offset_closeFrame, frames_closeFrame hf]
      cases fs with
      | nil => trivial
      | cons f' fs =>
        obtain ⟨hcode, htrailing, haround⟩ := haround
        obtain ⟨w, hw⟩ := htrimmed.text
        exact ⟨.inr (hcode.addInside htrailing hw rfl rfl), haround⟩

/-- A token keeps what is known of the interpolation that it is read in, and may open another one in
it. -/
lemma Nested.take {previous : Option Char} {resumes : Bool} {stop' : Nat}
    (h : Nested source stop t fs) (hx : Token.next? previous resumes t = some (x, u))
    (htext : source.slice? stop stop' = some x.text) :
    Nested source stop' u (opened x stop' ++ fs.modifyHead fun f => f.take x ⟨stop, stop'⟩) := by
  have hfresh : Frame.Holds source stop' u { start := stop' } :=
    .inl (Frame.holdsBlanks_opened (Text.slice?_stop htext))
  cases hopening : x.isOpening with
  | false =>
    cases fs with
    | nil => simp [opened, hopening, Nested]
    | cons f fs =>
      obtain ⟨hholds, haround⟩ := h
      simp only [opened, hopening, List.modifyHead_cons]
      exact ⟨hholds.take hx htext, by rwa [Frame.start_take]⟩
  | true =>
    simp only [opened, hopening, if_true, List.cons_append, List.nil_append]
    refine ⟨hfresh, ?_⟩
    cases fs with
    | nil => trivial
    | cons f fs =>
      obtain ⟨hholds, haround⟩ := h
      have hblank : x.isBlank = false := by
        cases x <;> first | rfl | simp [Token.isOpening] at hopening
      exact ⟨hholds.take_code hx hblank htext, Frame.trailing_take hblank,
        by rwa [Frame.start_take]⟩

lemma Trims.step (h : r.Trims source t) (hx : Token.next? r.previous r.resumes t = some (x, u))
    (htext : source.slice? r.offset (r.step x).offset = some x.text) :
    (r.step x).Trims source u := by
  -- the token is read in what is the innermost interpolation once it may have ended one
  obtain ⟨hgroups, hframes⟩ : (r.leaving x).Trims source t := by
    rw [leaving]
    split
    · exact h.closeFrame
    · exact h
  rw [offset_leaving] at hframes
  constructor
  · rw [levels_step, List.forall_mem_append]
    constructor
    · cases hopening : x.isOpening <;> simp [opened, hopening, Target.EveryGroupOf]
    · split
      · exact forall_addToHead hgroups trivial
      · exact h.groups
  · rw [frames_step]
    exact hframes.take hx htext

lemma Trims.finish (h : r.Trims source t) : r.finish.Trims source t :=
  finish_invariant (P := fun r => r.Trims source t) (fun _ h => h.closeFrame) h

lemma Reads.trims (h : Reads {} source xs r t) : r.Trims source t := by
  refine h.invariant_of_reads (P := fun r t => r.Trims source t) ?_
    ⟨by simp [levels, Target.EveryGroupOf], trivial⟩
  intro ys r t x u hys htrims hx
  have htext := hys.slice?_eq (.single hx)
  rw [Token.textOf_cons, Token.textOf_nil, List.append_nil] at htext
  exact htrims.step hx htext

end Reader

namespace Document

variable {source : Text} {path : List Nat} {ts inside : List Target} {g : Group}

/-- The spans of blanks of every group of a document are right, at any depth, whether a brace or the
end of the text ends the interpolation. -/
theorem trimmed_of_mem (hts : Target.inside? (read source).targets path = some ts)
    (hg : .group g inside ∈ ts) : g.Trimmed source inside := by
  obtain ⟨xs, h⟩ := Reader.exists_reads {} source
  have hgroups := h.trims.finish.groups (0, (read source).targets) (by simp [Reader.levels, read])
  exact (Target.everyGroupOf_iff.mp (hgroups.inside? hts) _ hg).1

set_option maxRecDepth 1000 in
/-- An interpolation that the end of the text cuts off, and in it another one that is blank. -/
theorem trimmed_of_mem_nested :
    (Target.inside? (read "`a$\x7b `b$\x7b \x7d`+c ".toList).targets [] = some
        [.body ⟨.template .backtick (some .interpolation), ['a'], ⟨0, 4⟩⟩,
          .group ⟨true, ⟨4, 5⟩, ⟨14, 15⟩, ⟨4, 15⟩⟩
            [.body ⟨.template .backtick (some .interpolation), ['b'], ⟨5, 9⟩⟩,
              .group ⟨false, ⟨9, 10⟩, ⟨9, 10⟩, ⟨9, 10⟩⟩ [],
              .body ⟨.template .brace (some .backtick), [], ⟨10, 12⟩⟩]] ∧
      Group.Trimmed "`a$\x7b `b$\x7b \x7d`+c ".toList ⟨true, ⟨4, 5⟩, ⟨14, 15⟩, ⟨4, 15⟩⟩
        [.body ⟨.template .backtick (some .interpolation), ['b'], ⟨5, 9⟩⟩,
          .group ⟨false, ⟨9, 10⟩, ⟨9, 10⟩, ⟨9, 10⟩⟩ [],
          .body ⟨.template .brace (some .backtick), [], ⟨10, 12⟩⟩]) ∧
      Target.inside? (read "`a$\x7b `b$\x7b \x7d`+c ".toList).targets [1] = some
        [.body ⟨.template .backtick (some .interpolation), ['b'], ⟨5, 9⟩⟩,
          .group ⟨false, ⟨9, 10⟩, ⟨9, 10⟩, ⟨9, 10⟩⟩ [],
          .body ⟨.template .brace (some .backtick), [], ⟨10, 12⟩⟩] ∧
      Group.Trimmed "`a$\x7b `b$\x7b \x7d`+c ".toList ⟨false, ⟨9, 10⟩, ⟨9, 10⟩, ⟨9, 10⟩⟩ [] := by
  have houter : Target.inside? (read "`a$\x7b `b$\x7b \x7d`+c ".toList).targets [] = some
      [.body ⟨.template .backtick (some .interpolation), ['a'], ⟨0, 4⟩⟩,
        .group ⟨true, ⟨4, 5⟩, ⟨14, 15⟩, ⟨4, 15⟩⟩
          [.body ⟨.template .backtick (some .interpolation), ['b'], ⟨5, 9⟩⟩,
            .group ⟨false, ⟨9, 10⟩, ⟨9, 10⟩, ⟨9, 10⟩⟩ [],
            .body ⟨.template .brace (some .backtick), [], ⟨10, 12⟩⟩]] := by
    cbv
  have hinner : Target.inside? (read "`a$\x7b `b$\x7b \x7d`+c ".toList).targets [1] = some
      [.body ⟨.template .backtick (some .interpolation), ['b'], ⟨5, 9⟩⟩,
        .group ⟨false, ⟨9, 10⟩, ⟨9, 10⟩, ⟨9, 10⟩⟩ [],
        .body ⟨.template .brace (some .backtick), [], ⟨10, 12⟩⟩] := by
    cbv
  exact ⟨⟨houter, trimmed_of_mem houter (by simp)⟩, hinner, trimmed_of_mem hinner (by simp)⟩

end Document

end Requote
