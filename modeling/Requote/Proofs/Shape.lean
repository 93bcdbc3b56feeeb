import Mathlib
import Requote.Cursor
import Requote.Proofs.Neighbours

/-!
# The shape of a document

The targets of a list stand one after the other. A body that opens an interpolation is followed by
the group of that interpolation, and the group by the body that resumes the template; only the end
of the text can leave a group without such a body, and then it cuts off every interpolation around.

The targets are added from left to right, so the shape of a list is an inductive predicate that
grows at the end. While the text is read, every open interpolation has a list of its own, and all
these lists but the innermost wait for a group.
-/

namespace Requote

/-! ### Chains of targets -/

/-- What can follow a list of targets. -/
inductive Link where
  /-- A new literal, or nothing. -/
  | free
  /-- The group of the interpolation that the last body opens. -/
  | opened
  /-- Nothing: the text ended inside the last group. -/
  | cut
deriving DecidableEq

/-- What follows a body. -/
def Body.link (b : Body) : Link :=
  if b.isLast then .free else .opened

namespace Target

/-- A list of targets that stand one after the other between two offsets, in a text of some size. A
relation tells how a group and the body that follows it came about. -/
inductive Chain (size : Nat) (closed : Group → List Target → Body → Prop) :
    Nat → List Target → Nat → Link → Prop where
  | nil (start : Nat) : Chain size closed start [] start .free
  /-- A body that opens its literal. -/
  | first {start stop : Nat} {ts : List Target} {b : Body}
      (h : Chain size closed start ts stop .free)
      (hb : b.isFirst = true) (hle : stop ≤ b.span.start) (hlt : b.span.start ≤ b.span.stop) :
      Chain size closed start (ts ++ [.body b]) b.span.stop b.link
  /-- An interpolation and the body that resumes the template. -/
  | resumed {start stop : Nat} {ts inside : List Target} {g : Group} {b : Body}
      (h : Chain size closed start ts g.span.start .opened)
      (hin : Chain size closed g.span.start inside stop .free) (hle : stop ≤ g.span.stop)
      (hb : b.isFirst = false) (hstart : b.span.start = g.span.stop)
      (hlt : b.span.start ≤ b.span.stop) (hclosed : closed g inside b) :
      Chain size closed start (ts ++ [.group g inside, .body b]) b.span.stop b.link
  /-- An interpolation that the end of the text cuts off. -/
  | cut {start stop : Nat} {ts inside : List Target} {g : Group} {l : Link}
      (h : Chain size closed start ts g.span.start .opened)
      (hin : Chain size closed g.span.start inside stop l) (hl : l ≠ .opened)
      (hle : stop ≤ g.span.stop) (hsize : g.span.stop = size) :
      Chain size closed start (ts ++ [.group g inside]) g.span.stop .cut

variable {size start stop : Nat} {closed : Group → List Target → Body → Prop}
  {ts inside : List Target} {g : Group} {l : Link}

lemma Chain.start_le (h : Chain size closed start ts stop l) : start ≤ stop := by
  induction h with
  | nil => exact Nat.le_refl _
  | first _ _ hle hlt ih => omega
  | resumed _ _ hle _ hstart hlt _ ih₁ ih₂ => omega
  | cut _ _ _ hle _ ih₁ ih₂ => omega

/-- Targets in order and disjoint, between two offsets. -/
def InOrder (start : Nat) (ts : List Target) (stop : Nat) : Prop :=
  ts.Pairwise (fun a b => a.span.stop ≤ b.span.start) ∧
    ∀ a ∈ ts, start ≤ a.span.start ∧ a.span.start ≤ a.span.stop ∧ a.span.stop ≤ stop

lemma InOrder.snoc {a : Target} (h : InOrder start ts stop) (hstart : start ≤ a.span.start)
    (hle : stop ≤ a.span.start) (hlt : a.span.start ≤ a.span.stop) :
    InOrder start (ts ++ [a]) a.span.stop := by
  obtain ⟨hpair, hin⟩ := h
  simp only [InOrder, List.pairwise_append, List.mem_append, List.mem_singleton]
  refine ⟨⟨hpair, List.pairwise_singleton _ _, ?_⟩, ?_⟩
  · rintro b hb _ rfl
    exact Nat.le_trans (hin b hb).2.2 hle
  · rintro b (hb | rfl)
    · have := hin b hb
      omega
    · exact ⟨hstart, hlt, Nat.le_refl _⟩

lemma Chain.inOrder (h : Chain size closed start ts stop l) : InOrder start ts stop := by
  induction h with
  | nil => simp [InOrder]
  | @first start stop ts b h _ hle hlt ih =>
    have hstart := h.start_le
    exact ih.snoc (a := .body b) (by simp only [span]; omega) hle hlt
  | @resumed start stop ts inside g b h hin hle _ hb hlt _ ih _ =>
    have hstart := h.start_le
    have hinside := hin.start_le
    have hgroup := ih.snoc (a := .group g inside) hstart (Nat.le_refl _)
      (by simp only [span]; omega)
    have hbody := hgroup.snoc (a := .body b) (by simp only [span]; omega)
      (by simp only [span]; omega) hlt
    simpa only [List.append_assoc, List.cons_append, List.nil_append, span] using hbody
  | @cut start stop ts inside g l h hin _ hle _ ih _ =>
    have hstart := h.start_le
    have hinside := hin.start_le
    exact ih.snoc (a := .group g inside) hstart (Nat.le_refl _) (by simp only [span]; omega)

/-! ### Neighbours in a list -/

/-- How two neighbours in a list go together. -/
def Adjacent : Target → Target → Prop
  | body b,    body b'   => b.isLast = true ∧ b'.isFirst = true
  | body b,    group g _ => b.isLast = false ∧ g.span.start = b.span.stop
  | group g _, body b    => b.isFirst = false ∧ b.span.start = g.span.stop
  | group _ _, group _ _ => False

/-- What the last target of a list tells about what follows. -/
def Ends (size stop : Nat) : Target → Link → Prop
  | body b,    .free   => b.isLast = true
  | body b,    .opened => b.isLast = false ∧ b.span.stop = stop
  | group g _, .cut    => g.span.stop = size
  | _,         _       => False

lemma ends_body (size : Nat) (b : Body) : Ends size b.span.stop (.body b) b.link := by
  cases h : b.isLast <;> simp [Body.link, h, Ends]

lemma Chain.ends (h : Chain size closed start ts stop l) :
    ∀ a ∈ ts.getLast?, Ends size stop a l := by
  cases h with
  | nil => simp
  | first | resumed => simpa using ends_body _ _
  | cut _ _ _ _ hsize => simpa [Ends] using hsize

/-- A list that waits for a group ends with the body that opens it. -/
lemma Chain.getLast?_of_opened (h : Chain size closed start ts stop .opened) :
    ∃ b, ts.getLast? = some (.body b) ∧ b.isLast = false ∧ b.span.stop = stop := by
  cases hlast : ts.getLast? with
  | none =>
    rw [List.getLast?_eq_none_iff] at hlast
    subst hlast
    generalize hts : ([] : List Target) = ts at h
    generalize hl : Link.opened = l at h
    cases h <;> simp at hts hl
  | some a =>
    have := h.ends a hlast
    match a with
    | .body b => exact ⟨b, rfl, this⟩
    | .group g inside => exact absurd this id

lemma Chain.isChain (h : Chain size closed start ts stop l) : ts.IsChain Adjacent := by
  induction h with
  | nil => exact .nil
  | @first start stop ts b h hb _ _ ih =>
    refine List.isChain_append.mpr ⟨ih, .singleton _, ?_⟩
    intro a ha c hc
    obtain rfl : .body b = c := by simpa using hc
    match a, h.ends a ha with
    | .body b', hlast => exact ⟨hlast, hb⟩
  | @resumed start stop ts inside g b h _ _ hb hstart _ _ ih _ =>
    refine List.isChain_append.mpr ⟨ih, by simp [Adjacent, hb, hstart], ?_⟩
    intro a ha c hc
    obtain rfl : .group g inside = c := by simpa using hc
    obtain ⟨b', hb', hlast, hstop⟩ := h.getLast?_of_opened
    obtain rfl : .body b' = a := Option.some.inj (hb'.symm.trans ha)
    exact ⟨hlast, hstop.symm⟩
  | @cut start stop ts inside g l h _ _ _ _ ih _ =>
    refine List.isChain_append.mpr ⟨ih, .singleton _, ?_⟩
    intro a ha c hc
    obtain rfl : .group g inside = c := by simpa using hc
    obtain ⟨b', hb', hlast, hstop⟩ := h.getLast?_of_opened
    obtain rfl : .body b' = a := Option.some.inj (hb'.symm.trans ha)
    exact ⟨hlast, hstop.symm⟩

/-- A list starts with a body that opens its literal. -/
lemma Chain.head?_isFirst (h : Chain size closed start ts stop l) :
    ∀ a ∈ ts.head?, Place.isFirst a = true := by
  induction h with
  | nil => simp
  | @first start stop ts b _ hb _ _ ih =>
    match ts with
    | [] => simpa [Place.isFirst, body?] using hb
    | a :: ts => simpa using ih
  | @resumed start stop ts inside g b h _ _ _ _ _ _ ih _
  | @cut start stop ts inside g l h _ _ _ _ ih _ =>
    obtain ⟨b', hb', -⟩ := h.getLast?_of_opened
    match ts with
    | [] => simp at hb'
    | a :: ts => simpa using ih

/-- The targets inside a group form a chain too. If the text ends inside one of them, the group is
the last target of its list and ends with the text. -/
lemma Chain.of_group {i : Nat} (h : Chain size closed start ts stop l)
    (hg : ts[i]? = some (.group g inside)) :
    start ≤ g.span.start ∧ g.span.stop ≤ stop ∧
      ∃ stop' l', Chain size closed g.span.start inside stop' l' ∧ l' ≠ .opened ∧
        stop' ≤ g.span.stop ∧
        (l' = .cut → l = .cut ∧ i + 1 = ts.length ∧ g.span.stop = size) := by
  have hspan := h.inOrder.2 _ (List.mem_of_getElem? hg)
  refine ⟨hspan.1, hspan.2.2, ?_⟩
  clear hspan
  induction h with
  | nil => simp at hg
  | @first start stop ts b _ _ _ _ ih =>
    rw [List.getElem?_append] at hg
    split at hg
    · obtain ⟨stop', l', hin, hl', hle, hcut⟩ := ih hg
      exact ⟨stop', l', hin, hl', hle, fun h => absurd (hcut h).1 (by simp)⟩
    · simpa using List.mem_of_getElem? hg
  | @resumed start stop ts inside' g' b _ hin hle _ _ _ _ ih _ =>
    rw [List.getElem?_append] at hg
    split at hg
    · obtain ⟨stop', l', hin, hl', hle, hcut⟩ := ih hg
      exact ⟨stop', l', hin, hl', hle, fun h => absurd (hcut h).1 (by simp)⟩
    · obtain ⟨rfl, rfl⟩ : g = g' ∧ inside = inside' := by simpa using List.mem_of_getElem? hg
      exact ⟨stop, .free, hin, by simp, hle, by simp⟩
  | @cut start stop ts inside' g' l _ hin hl hle hsize ih _ =>
    rw [List.getElem?_append] at hg
    split at hg
    · obtain ⟨stop', l', hin, hl', hle, hcut⟩ := ih hg
      exact ⟨stop', l', hin, hl', hle, fun h => absurd (hcut h).1 (by simp)⟩
    · obtain ⟨rfl, rfl⟩ : g = g' ∧ inside = inside' := by simpa using List.mem_of_getElem? hg
      have hi := (List.getElem?_eq_some_iff.mp hg).1
      refine ⟨stop, l, hin, hl, hle, fun _ => ⟨rfl, ?_, hsize⟩⟩
      simp only [List.length_cons, List.length_nil, List.length_append] at hi ⊢
      omega

/-- The last target of a list, unless it is cut off, is no group. -/
lemma Chain.ne_group_of_last {i : Nat} (h : Chain size closed start ts stop l) (hl : l ≠ .cut)
    (hi : i + 1 = ts.length) : ts[i]? ≠ some (.group g inside) := by
  intro hg
  have hends := h.ends (.group g inside) (by rw [List.getLast?_eq_getElem?, ← hi]; exact hg)
  match l with
  | .free | .opened => exact hends
  | .cut => exact hl rfl

/-- A group and the body after it came about together. -/
lemma Chain.closed_of_getElem? {i : Nat} {b : Body} (h : Chain size closed start ts stop l)
    (hg : ts[i]? = some (.group g inside)) (hb : ts[i + 1]? = some (.body b)) :
    closed g inside b := by
  induction h with
  | nil => simp at hg
  | @first start stop ts b' h _ _ _ ih | @cut start stop ts inside' g' l h _ _ _ _ ih _ =>
    rw [List.getElem?_append] at hg hb
    by_cases hi : i + 1 < ts.length
    · rw [if_pos (by omega)] at hg
      rw [if_pos hi] at hb
      exact ih hg hb
    · have hlast : i + 1 = ts.length := by
        rw [if_neg hi] at hb
        have := (List.getElem?_eq_some_iff.mp hb).1
        simp only [List.length_singleton] at this
        omega
      rw [if_pos (by omega)] at hg
      exact absurd hg (h.ne_group_of_last (by simp) hlast)
  | @resumed start stop ts inside' g' b' h _ _ _ _ _ hclosed ih _ =>
    rw [List.getElem?_append] at hg hb
    by_cases hi : i + 1 < ts.length
    · rw [if_pos (by omega)] at hg
      rw [if_pos hi] at hb
      exact ih hg hb
    · by_cases hlast : i + 1 = ts.length
      · rw [if_pos (by omega)] at hg
        exact absurd hg (h.ne_group_of_last (by simp) hlast)
      · rw [if_neg hi] at hb
        have := (List.getElem?_eq_some_iff.mp hb).1
        simp only [List.length_cons, List.length_nil] at this
        obtain rfl : i = ts.length := by omega
        simp only [Nat.lt_irrefl, if_false, Nat.sub_self, Nat.add_sub_cancel_left,
          List.getElem?_cons_zero, List.getElem?_cons_succ, Option.some.injEq, group.injEq,
          body.injEq] at hg hb
        obtain ⟨rfl, rfl⟩ := hg
        subst hb
        exact hclosed

end Target

/-! ### Lists that wait for a group -/

namespace Reader

/-- Lists that all wait for a group, each starting where the one outside it stops. -/
def OpenAt (size : Nat) (closed : Group → List Target → Body → Prop) :
    List (Nat × List Target) → Nat → Prop
  | [],                   stop => stop = 0
  | (start, ts) :: outer, stop =>
    Target.Chain size closed start ts stop .opened ∧ OpenAt size closed outer start

/-- The innermost list is a chain up to an offset, and the lists around it wait for a group. -/
def Shaped (size : Nat) (closed : Group → List Target → Body → Prop) (r : Reader) (stop : Nat)
    (l : Link) : Prop :=
  ∃ start ts outer, r.levels = (start, ts) :: outer ∧ Target.Chain size closed start ts stop l ∧
    OpenAt size closed outer start

variable {size stop offset : Nat} {closed : Group → List Target → Body → Prop} {l : Link}
  {r r' : Reader} {t u v : Text} {x : Token} {xs : List Token}

lemma Shaped.congr (h : r.Shaped size closed stop l) (hlevels : r'.levels = r.levels) :
    r'.Shaped size closed stop l := by
  simpa only [Shaped, hlevels] using h

lemma Shaped.addFirst {d : Delimiters} {s : Span} (h : r.Shaped size closed stop .free)
    (hd : d.isFirst = true) (hle : stop ≤ s.start) (hlt : s.start ≤ s.stop) :
    (r.addBody d t s).Shaped size closed s.stop (Body.mk d t s).link := by
  obtain ⟨start, ts, outer, hlevels, hchain, houter⟩ := h
  refine ⟨start, ts ++ [.body ⟨d, t, s⟩], outer, ?_,
    .first (b := ⟨d, t, s⟩) hchain hd hle hlt, houter⟩
  rw [levels_addBody, hlevels]
  rfl

lemma Shaped.openFrame (h : r.Shaped size closed stop .opened) :
    (r.openFrame stop).Shaped size closed stop .free := by
  obtain ⟨start, ts, outer, hlevels, hchain, houter⟩ := h
  refine ⟨stop, [], (start, ts) :: outer, ?_, .nil stop, hchain, houter⟩
  rw [levels_openFrame, hlevels]

/-- The targets of the innermost interpolation are a chain, and those around it wait for its
group. -/
lemma Shaped.exists_around {f : Frame} {frames : List Frame} (h : r.Shaped size closed stop l)
    (hf : r.frames = f :: frames) :
    ∃ start ts outer, r.levels = (f.start, f.inside) :: (start, ts) :: outer ∧
      Target.Chain size closed f.start f.inside stop l ∧
      Target.Chain size closed start ts f.start .opened ∧ OpenAt size closed outer start := by
  obtain ⟨start, ts, outer, hlevels, hchain, houter⟩ := h
  obtain ⟨⟨rfl, rfl⟩, hrest⟩ : (f.start = start ∧ f.inside = ts) ∧ _ = outer := by
    simpa [levels, hf] using hlevels
  cases outer with
  | nil => simp at hrest
  | cons level outer =>
    obtain ⟨hopen, houter⟩ := houter
    exact ⟨level.1, level.2, outer, hlevels, hchain, hopen, houter⟩

/-- The body that resumes a template closes the innermost interpolation. -/
lemma Shaped.resume {d : Delimiters} {s : Span} (h : r.Shaped size closed stop .free)
    (hd : d.isFirst = false) (hle : stop ≤ s.start) (hlt : s.start ≤ s.stop) {f : Frame}
    {frames : List Frame} (hf : r.frames = f :: frames)
    (hclosed : ∀ g inside, f.finish s.start = .group g inside → closed g inside ⟨d, t, s⟩) :
    (((r.closeFrame s.start).note x s).addBody d t s).Shaped size closed s.stop
      (Body.mk d t s).link := by
  obtain ⟨start, ts, outer, hlevels, hchain, hopen, houter⟩ := h.exists_around hf
  refine ⟨start, ts ++ [f.finish s.start, .body ⟨d, t, s⟩], outer, ?_,
    .resumed (b := ⟨d, t, s⟩) hopen hchain hle hd rfl hlt (hclosed _ _ rfl), houter⟩
  rw [levels_addBody, levels_note, levels_closeFrame hf, hlevels]
  simp [addToHead]

/-- The group of an interpolation that the text ends in goes up to the end of the text. -/
lemma Shaped.cutOff {f : Frame} {frames : List Frame} (h : r.Shaped size closed stop l)
    (hl : l ≠ .opened) (hle : stop ≤ size) (hf : r.frames = f :: frames) :
    (r.closeFrame size).Shaped size closed size .cut := by
  obtain ⟨start, ts, outer, hlevels, hchain, hopen, houter⟩ := h.exists_around hf
  refine ⟨start, ts ++ [f.finish size], outer, ?_, .cut hopen hchain hl hle rfl, houter⟩
  rw [levels_closeFrame hf, hlevels]
  simp [addToHead]

lemma Shaped.unwind (n : Nat) (hn : r.frames.length = n) (h : r.Shaped size closed stop l)
    (hl : l ≠ .opened) (hle : stop ≤ size) (hoffset : r.offset = size) :
    ∃ stop l, Target.Chain size closed 0 (r.unwind n).targets stop l ∧ l ≠ .opened ∧
      stop ≤ size := by
  induction n generalizing r stop l with
  | zero =>
    obtain ⟨start, ts, outer, hlevels, hchain, -⟩ := h
    have hf : r.frames = [] := List.length_eq_zero_iff.mp hn
    obtain ⟨⟨rfl, rfl⟩, rfl⟩ : (0 = start ∧ r.targets = ts) ∧ [] = outer := by
      simpa [levels, hf] using hlevels
    exact ⟨stop, l, hchain, hl, hle⟩
  | succ n ih =>
    cases hf : r.frames with
    | nil => simp [hf] at hn
    | cons f frames =>
      have hlength : (r.closeFrame r.offset).frames.length = n := by
        rw [length_frames_closeFrame, hn]
        rfl
      have hcut := h.cutOff hl hle hf
      rw [Reader.unwind]
      exact ih hlength (by rwa [hoffset]) (by simp) (Nat.le_refl _)
        (by rw [offset_closeFrame, hoffset])

/-- A body that is added, and the interpolation that it may open, keep the lists in shape. -/
lemma Shaped.openAfter {d : Delimiters} {s : Span}
    (h : r.Shaped size closed s.stop (Body.mk d t s).link) :
    (if d.isLast then r else r.openFrame s.stop).Shaped size closed s.stop .free := by
  cases hlast : d.isLast <;> simp only [Body.link, Body.isLast, hlast] at h
  · exact h.openFrame
  · exact h

lemma Shaped.act {s : Span} (h : r.Shaped size closed stop .free) (hle : stop ≤ s.start)
    (hlt : s.start ≤ s.stop)
    (hclosed : ∀ d t, x = .body d t → d.isFirst = false → ∃ f frames, r.frames = f :: frames ∧
      ∀ g inside, f.finish s.start = .group g inside → closed g inside ⟨d, t, s⟩) :
    ∃ stop, (r.act x s).Shaped size closed stop .free ∧ stop ≤ s.stop := by
  have hsame : (r.act x s).levels = r.levels →
      ∃ stop, (r.act x s).Shaped size closed stop .free ∧ stop ≤ s.stop := by
    intro hact
    exact ⟨stop, h.congr hact, Nat.le_trans hle hlt⟩
  match x with
  | .opening _ | .operator _ =>
    apply hsame
    simp [Reader.act, levels_modifyFrame]
  | .closing _ | .comment _ | .blank _ | .other _ =>
    apply hsame
    simp [Reader.act]
  | .body d t =>
    refine ⟨s.stop, ?_, Nat.le_refl _⟩
    rw [act_body]
    have hbody : (((if d.isFirst then r else r.closeFrame s.start).note (.body d t) s).addBody d t
        s).Shaped size closed s.stop (Body.mk d t s).link := by
      cases hfirst : d.isFirst with
      | true => exact (h.congr (levels_note r _ _)).addFirst hfirst hle hlt
      | false =>
        obtain ⟨f, frames, hf, hfinish⟩ := hclosed d t rfl hfirst
        exact h.resume hfirst hle hlt hf hfinish
    exact hbody.openAfter

/-- A body that does not open its literal is only read where a closing brace ends an
interpolation. -/
lemma resumes_of_next? {d : Delimiters} {s : Text}
    (hx : Token.next? r.previous r.resumes t = some (.body d s, u)) (hd : d.isFirst = false) :
    r.resumes = true := by
  match d with
  | .quoted q closed => simp [Delimiters.isFirst] at hd
  | .template .backtick e => simp [Delimiters.isFirst] at hd
  | .template .brace e =>
    obtain ⟨-, -, -, hresumes⟩ := Token.next?_eq_template hx
    exact hresumes rfl

lemma frames_ne_nil_of_next? {d : Delimiters} {s : Text}
    (hx : Token.next? r.previous r.resumes t = some (.body d s, u)) (hd : d.isFirst = false) :
    r.frames ≠ [] := by
  intro hf
  simpa [resumes, hf] using resumes_of_next? hx hd

end Reader

namespace Document

/-- How a group and the body that resumes the template are found in a source text: the body is read
where the interpolation is the innermost open one, and the group is what the interpolation
becomes. -/
def Closes (source : Text) (g : Group) (inside : List Target) (b : Body) : Prop :=
  ∃ ys r u v f frames, Reader.Reads {} source ys r u ∧
    Token.next? r.previous r.resumes u = some (.body b.delimiters b.text, v) ∧
    b.span.start = r.offset ∧ r.frames = f :: frames ∧ f.finish r.offset = .group g inside

lemma shaped_of_reads {source v : Text} {xs : List Token} {r : Reader}
    (h : Reader.Reads {} source xs r v) :
    ∃ stop, r.Shaped source.size (Closes source) stop .free ∧ stop ≤ r.offset := by
  refine h.invariant_of_reads
    (P := fun r _ => ∃ stop, r.Shaped source.size (Closes source) stop .free ∧ stop ≤ r.offset) ?_
    ⟨0, ⟨0, [], [], rfl, .nil 0, rfl⟩, Nat.le_refl _⟩
  rintro ys r t x u hys ⟨stop, hshaped, hle⟩ hx
  refine hshaped.act (x := x) (s := ⟨r.offset, r.offset + x.text.size⟩) hle
    (Nat.le_add_right _ _) ?_
  rintro d s rfl hd
  obtain ⟨f, frames, hf⟩ := List.exists_cons_of_ne_nil (Reader.frames_ne_nil_of_next? hx hd)
  exact ⟨f, frames, hf, fun g inside hg => ⟨ys, r, t, u, f, frames, hys, hx, rfl, hf, hg⟩⟩

/-- The targets of a document form a chain, which stops at the end of the text at the latest. -/
lemma chain_read (source : Text) :
    ∃ stop l, Target.Chain source.size (Closes source) 0 (read source).targets stop l ∧
      l ≠ .opened ∧ stop ≤ source.size := by
  obtain ⟨xs, h⟩ := Reader.exists_reads {} source
  obtain ⟨stop, hshaped, hle⟩ := shaped_of_reads h
  have hoffset : (Reader.run {} source).offset = source.size := by
    simpa using h.offset_add_size
  exact hshaped.unwind _ rfl (by simp) (by omega) hoffset

end Document

end Requote
