import Requote.Proofs.Flattening
import Requote.Proofs.Lines
import Requote.Proofs.Operands

/-!
# When a template is flattened

A template literal is the stretch of its list from the body that opens it to the body that ends it,
or to the group of the interpolation that the end of the text cuts off. Walking to both sides from
the body under the cursor finds exactly this stretch, since neighbours in a list always go together.

So there are two reasons only for not flattening a template: no backtick closes it, or there is
nothing but blanks in one of its interpolations. It is never found to be no template.
-/

namespace Requote

namespace Target

variable {size start stop : Nat} {closed : Group → List Target → Body → Prop}
  {ts l rest : List Target} {b : Body} {link : Link}

/-! ### Whole literals -/

/-- What follows a body in its literal: groups and bodies in turn, up to a body that ends the
literal or is cut off, or up to a group that ends with the text. -/
inductive Continues (size : Nat) : Body → List Target → Prop where
  | last {b : Body} (hb : b.isLast = true) : Continues size b []
  | cut {b : Body} {g : Group} {inside : List Target} (hb : b.isLast = false)
      (hsize : g.span.stop = size) : Continues size b [.group g inside]
  | resumed {b b' : Body} {g : Group} {inside ts : List Target} (hb : b.isLast = false)
      (hb' : b'.isFirst = false) (h : Continues size b' ts) :
      Continues size b (.group g inside :: .body b' :: ts)

/-- Whether the end of the text cuts a literal off: its last body is not closed, or it ends in a
group that ends with the text. -/
def CutOff (size : Nat) (ts : List Target) : Prop :=
  (∃ b, ts.getLast? = some (.body b) ∧ b.delimiters.closing? = none) ∨
    ∃ g inside, ts.getLast? = some (.group g inside) ∧ g.span.stop = size

/-- Whether nothing of the literal that a target belongs to can be missing behind it. -/
def Stops (size : Nat) : Target → Prop
  | body b    => b.isLast = true
  | group g _ => g.span.stop = size

lemma Chain.stops (h : Chain size closed start ts stop link) (hlink : link ≠ .opened) :
    ∀ a ∈ ts.getLast?, Stops size a := by
  intro a ha
  have hends := h.ends a ha
  cases a <;> cases link <;> simp_all [Ends, Stops]

/-- To the right of a body, its literal goes on up to the body that ends it. -/
lemma continues_takeThrough (b : Body) (ts : List Target)
    (hchain : (.body b :: ts).IsChain Adjacent)
    (hstops : ∀ a ∈ (.body b :: ts).getLast?, Stops size a) :
    Continues size b (if b.isLast then [] else Place.takeThrough Place.isLast ts) := by
  match ts with
  | [] =>
    have hlast : b.isLast = true := hstops _ rfl
    rw [if_pos hlast]
    exact .last hlast
  | .body b' :: ts =>
    obtain ⟨hlast, -⟩ := (List.isChain_cons_cons.mp hchain).1
    rw [if_pos hlast]
    exact .last hlast
  | [.group g inside] =>
    obtain ⟨hlast, -⟩ := (List.isChain_cons_cons.mp hchain).1
    have hsize : g.span.stop = size := hstops _ rfl
    simpa [hlast, Place.takeThrough, Place.isLast, body?] using Continues.cut hlast hsize
  | .group g inside :: .group g' inside' :: ts =>
    exact absurd (List.isChain_cons_cons.mp hchain.tail).1 id
  | .group g inside :: .body b' :: ts =>
    obtain ⟨hlast, -⟩ := (List.isChain_cons_cons.mp hchain).1
    obtain ⟨hfirst, -⟩ := (List.isChain_cons_cons.mp hchain.tail).1
    have hrest := continues_takeThrough b' ts hchain.tail.tail (by simpa using hstops)
    have htake : Place.takeThrough Place.isLast (.group g inside :: .body b' :: ts)
        = .group g inside :: .body b'
          :: (if b'.isLast then [] else Place.takeThrough Place.isLast ts) := by
      cases hb' : b'.isLast <;> simp [Place.takeThrough, Place.isLast, body?, hb']
    rw [if_neg (by simp [hlast]), htake]
    exact .resumed hlast hfirst hrest

/-- To the left of a body, given from right to left, its literal goes on up to the body that opens
it. -/
lemma exists_continues (b : Body) (l rest : List Target)
    (hchain : (.body b :: l).IsChain fun a a' => Adjacent a' a)
    (hfirst : ∀ a ∈ (.body b :: l).getLast?, Place.isFirst a = true) (h : Continues size b rest) :
    ∃ head tail,
      (if b.isFirst then [] else Place.takeThrough Place.isFirst l).reverse ++ .body b :: rest
        = .body head :: tail ∧ head.isFirst = true ∧ Continues size head tail := by
  match l with
  | [] =>
    have hb : b.isFirst = true := hfirst _ rfl
    exact ⟨b, rest, by simp [hb], hb, h⟩
  | .body b' :: l =>
    obtain ⟨-, hb⟩ := (List.isChain_cons_cons.mp hchain).1
    exact ⟨b, rest, by simp [hb], hb, h⟩
  | [.group g inside] => exact absurd (hfirst _ rfl) (by simp [Place.isFirst, body?])
  | .group g inside :: .group g' inside' :: l =>
    exact absurd (List.isChain_cons_cons.mp hchain.tail).1 id
  | .group g inside :: .body b' :: l =>
    obtain ⟨hb, -⟩ := (List.isChain_cons_cons.mp hchain).1
    obtain ⟨hb', -⟩ := (List.isChain_cons_cons.mp hchain.tail).1
    obtain ⟨head, tail, heq, hhead, htail⟩ :=
      exists_continues b' l (.group g inside :: .body b :: rest)
      hchain.tail.tail (by simpa using hfirst) (.resumed hb' hb h)
    refine ⟨head, tail, ?_, hhead, htail⟩
    rw [← heq]
    cases hfirst' : b'.isFirst <;> simp [hb, Place.takeThrough, Place.isFirst, body?, hfirst']

end Target

namespace Place

/-- What walking to both sides of a body finds is a whole literal. -/
lemma exists_continues {source : Text} {path : List Nat} {p : Place}
    (hpath : Target.inside? (Document.read source).targets path = some p.targets) :
    ∃ head tail, p.literal = .body head :: tail ∧ head.isFirst = true ∧
      Target.Continues source.size head tail := by
  obtain ⟨start, stop, link, hchain, hlink⟩ := Document.exists_chain_of_inside? hpath
  have hadjacent := hchain.isChain
  have hstops := hchain.stops hlink
  have hfirst := hchain.head?_isFirst
  rw [targets] at hadjacent hstops hfirst
  have hright : Target.Continues source.size p.body
      (if p.body.isLast then [] else takeThrough isLast p.after) := by
    apply Target.continues_takeThrough p.body p.after hadjacent.right_of_append
    rwa [List.getLast?_append_of_ne_nil _ (List.cons_ne_nil _ _)] at hstops
  have hreverse : Target.body p.body :: p.before.reverse
      = (p.before ++ [Target.body p.body]).reverse := by
    simp
  have hleft : (Target.body p.body :: p.before.reverse).IsChain fun a a' => a'.Adjacent a := by
    rw [List.append_cons] at hadjacent
    rw [hreverse, List.isChain_reverse]
    exact hadjacent.left_of_append
  have hopens : ∀ a ∈ (Target.body p.body :: p.before.reverse).getLast?, isFirst a = true := by
    rw [hreverse, List.getLast?_reverse]
    intro a ha
    apply hfirst a
    cases hbefore : p.before <;> simpa [hbefore] using ha
  obtain ⟨head, tail, heq, hhead, htail⟩ :=
    Target.exists_continues p.body p.before.reverse _ hleft hopens hright
  refine ⟨head, tail, ?_, hhead, htail⟩
  rw [← heq, literal]
  split <;> simp

end Place

namespace Target

/-! ### Checking a whole literal -/

lemma kind_of_isFirst_eq_false {b : Body} (hb : b.isFirst = false) : b.kind = .template := by
  obtain ⟨_ | ⟨o, c⟩, t, s⟩ := b
  · simp [Body.isFirst, Delimiters.isFirst] at hb
  · rfl

lemma isClosed_singleton_iff (h : b.kind = .template) (hb : b.isLast = true) :
    Command.isClosed [.body b] = true ↔ b.delimiters.closing? ≠ none := by
  obtain ⟨_ | ⟨o, _ | _ | _⟩, t, s⟩ := b <;>
    simp_all [Command.isClosed, Body.kind, Delimiters.kind, Body.isLast, Delimiters.isLast,
      Delimiters.closing?]

/-- A literal is closed unless the end of the text cuts it off. -/
lemma Continues.isClosed_iff (h : Continues size b ts) (hb : b.kind = .template) :
    Command.isClosed (.body b :: ts) = true ↔ ¬CutOff size (.body b :: ts) := by
  induction h with
  | @last b hlast => simp [isClosed_singleton_iff hb hlast, CutOff]
  | @cut b g inside _ hsize => simp [Command.isClosed, CutOff, hsize]
  | @resumed b b' g inside ts _ hb' _ ih =>
    simpa [Command.isClosed, CutOff] using ih (kind_of_isFirst_eq_false hb')

lemma Continues.length_mod_two (h : Continues size b ts)
    (hclosed : Command.isClosed (.body b :: ts) = true) : ts.length % 2 = 0 := by
  induction h with
  | last => rfl
  | cut => simp [Command.isClosed] at hclosed
  | resumed _ _ _ ih =>
    have := ih (by simpa [Command.isClosed] using hclosed)
    simp only [List.length_cons]
    omega

lemma Continues.isPiece (h : Continues size b ts) (hb : b.kind = .template)
    (hclosed : Command.isClosed (.body b :: ts) = true) :
    Concatenation.isPiece b b.isFirst ts.isEmpty = true := by
  cases h with
  | last hlast =>
    have hterminated := (isClosed_singleton_iff hb hlast).mp hclosed
    simp [Concatenation.isPiece, hb, Kind.isTemplate, hlast, Body.isTerminated,
      Delimiters.isTerminated, Option.isSome_iff_ne_none.mpr hterminated]
  | cut => simp [Command.isClosed] at hclosed
  | resumed hlast =>
    obtain ⟨o, hd⟩ := delimiters_of_isLast_eq_false hlast
    simp [Concatenation.isPiece, hb, Kind.isTemplate, hlast, Body.isTerminated,
      Delimiters.isTerminated, hd, Delimiters.closing?]

end Target

/-! ### Blank interpolations -/

/-- Whether there is nothing but blanks between the two ends of an interpolation. -/
def Group.IsBlank (source : Text) (g : Group) : Prop :=
  ∃ w, source.slice? g.span.start g.span.stop = some w ∧ ∀ c ∈ w, Text.isBlank c = true

namespace Reader

variable {r r' : Reader} {t v : Text} {zs : List Token} {x : Token}

lemma Reads.text_ne_nil (h : Reads r t zs r' v) : ∀ x ∈ zs, x.text ≠ [] := by
  induction h with
  | nil => simp
  | cons hx _ ih => exact List.forall_mem_cons.mpr ⟨(Token.next?_eq_some hx).2, ih⟩

/-- A token of blanks is made of blanks, and every other token starts with something else. -/
lemma Reads.isBlank_iff (h : Reads r t (x :: zs) r' v) :
    x.isBlank = true ↔ ∀ c ∈ x.text, Text.isBlank c = true := by
  cases h with
  | cons hx _ =>
    constructor
    · intro hblank
      match x, hblank with
      | .blank w, _ => exact (Token.next?_eq_blank hx).1
    · intro hblank
      obtain ⟨happ, hne⟩ := Token.next?_eq_some hx
      obtain ⟨c, w, hw⟩ := List.exists_cons_of_ne_nil hne
      by_contra hnot
      rw [← happ, hw, List.cons_append] at hx
      have hc := Token.isBlank_of_next? hx (eq_false_of_ne_true hnot)
      rw [hblank c (by simp [hw])] at hc
      exact Bool.false_ne_true hc.symm

/-- A row of tokens spells nothing but blanks exactly if all its tokens are blank. -/
lemma Reads.forall_isBlank_iff (h : Reads r t zs r' v) :
    (∀ x ∈ zs, x.isBlank = true) ↔ ∀ c ∈ Token.textOf zs, Text.isBlank c = true := by
  induction h with
  | nil => simp
  | @cons r t u x xs r' v hx h ih =>
    have hfirst := (Reads.cons hx h).isBlank_iff
    simp only [Token.textOf_cons, List.forall_mem_cons, List.forall_mem_append, ih, hfirst]

end Reader

/-- An interpolation keeps nothing but blanks exactly if all its tokens are blank. -/
lemma Frame.Tracks.isBlankGroup_iff {f : Frame} {start stop : Nat} {zs : List Token} {g : Group}
    {inside : List Target} (h : f.Tracks start stop zs)
    (hstop : stop = start + (Token.textOf zs).size)
    (hblanks : ∀ w w' zs', zs ≠ .blank w :: .blank w' :: zs') (htexts : ∀ x ∈ zs, x.text ≠ [])
    (hg : f.finish stop = .group g inside) :
    Target.isBlankGroup g inside = true ↔ ∀ x ∈ zs, x.isBlank = true := by
  have hgroup : (⟨f.lowPriority, f.leading.getD ⟨f.start, f.start⟩, f.trailing.getD ⟨stop, stop⟩,
      ⟨f.start, stop⟩⟩ : Group) = g ∧ f.inside = inside := by
    simpa [Frame.finish] using hg
  obtain ⟨rfl, rfl⟩ := hgroup
  simp only [Target.isBlankGroup, Bool.and_eq_true, List.isEmpty_iff, decide_eq_true_eq, h.start_eq]
  constructor
  · rintro ⟨-, hle⟩
    -- what the leading blanks leave of the row is empty
    obtain ⟨lead, rest, rfl, hleading, hlead, -⟩ := h.exists_lead hblanks
    obtain rfl : rest = [] := by
      by_contra hrest
      obtain ⟨y, rest, rfl⟩ := List.exists_cons_of_ne_nil hrest
      have := Text.size_pos (htexts y (by simp))
      rw [hleading, hstop, Token.textOf_append, Text.size_append, Token.textOf_cons,
        Text.size_append] at hle
      omega
    rcases hlead with rfl | ⟨w, rfl⟩
    · simp
    · simp [Token.isBlank]
  · intro hall
    refine ⟨h.inside hall, ?_⟩
    by_contra hle
    obtain ⟨x, hx, hnot⟩ := h.exists_not_isBlank hstop hblanks fun _ => hle
    rw [hall x hx] at hnot
    exact Bool.false_ne_true hnot.symm

namespace Document

variable {source : Text} {path : List Nat} {ts inside pre literal post : List Target} {i : Nat}
  {g : Group} {b : Body}

/-- The check for blank interpolations is right about the text. -/
lemma isBlankGroup_iff (hts : Target.inside? (read source).targets path = some ts)
    (hg : ts[i]? = some (.group g inside)) (hb : ts[i + 1]? = some (.body b)) :
    Target.isBlankGroup g inside = true ↔ g.IsBlank source := by
  obtain ⟨ys, r₀, u₀, zs, r, u, f, fs, hgroup⟩ := exists_readsGroup hts hg hb
  have hrow := hgroup.row.reads
  have hstart : r₀.offset = (Token.textOf ys).size := by simpa using hgroup.before.offset_eq
  have hsource : source = Token.textOf ys ++ (Token.textOf zs ++ u) := by
    rw [hrow.text_append, hgroup.before.text_append]
  have hslice : source.slice? g.span.start g.span.stop = some (Token.textOf zs) := by
    rw [hgroup.span_stop, hrow.offset_eq, ← hgroup.start, hstart, hsource]
    exact Text.slice?_append _ _ _
  rw [hgroup.tracks.isBlankGroup_iff hrow.offset_eq (fun _ _ _ => hrow.ne_blank_blank)
      hrow.text_ne_nil hgroup.finish, hrow.forall_isBlank_iff, Group.IsBlank, hslice]
  simp

/-- In a literal that is not cut off a body stands behind each group. -/
lemma isBlankGroup_iff_of_mem {size : Nat} {head : Body} {tail : List Target}
    (hts : Target.inside? (read source).targets path = some (pre ++ (.body head :: tail ++ post)))
    (h : Target.Continues size head tail) (hcut : ¬Target.CutOff size (.body head :: tail))
    (hg : .group g inside ∈ tail) :
    Target.isBlankGroup g inside = true ↔ g.IsBlank source := by
  induction h generalizing pre with
  | last => simp at hg
  | cut _ hsize => exact absurd hcut (by simp [Target.CutOff, hsize])
  | @resumed b b' g' inside' ts _ _ _ ih =>
    rcases List.mem_cons.mp hg with heq | hg
    · obtain ⟨rfl, rfl⟩ := Target.group.inj heq
      refine isBlankGroup_iff (i := pre.length + 1) (b := b') hts (by simp) ?_
      rw [List.cons_append, Nat.add_assoc, List.getElem?_append_right (Nat.le_add_right _ _),
        Nat.add_sub_cancel_left]
      rfl
    · have hts' : Target.inside? (read source).targets path
          = some ((pre ++ [.body b, .group g' inside']) ++ (.body b' :: ts ++ post)) := by
        simpa using hts
      have hcut' : ¬Target.CutOff size (.body b' :: ts) := by simpa [Target.CutOff] using hcut
      exact ih hts' hcut' (by simpa using hg)

end Document

namespace Concatenation

open Target (Continues isBlankGroup)

variable {source : Text} {size : Nat} {b : Body} {ts : List Target} {g : Group}

/-! ### Checking a whole literal -/

/-- The first blank group of a list. -/
def FirstBlank (source : Text) (ts : List Target) (g : Group) : Prop :=
  ∃ before inside after, ts = before ++ .group g inside :: after ∧ g.IsBlank source ∧
    ∀ g' inside', .group g' inside' ∈ before → ¬g'.IsBlank source

lemma FirstBlank.append_left {before : List Target} (h : FirstBlank source ts g)
    (hbefore : ∀ g' inside', .group g' inside' ∈ before → ¬g'.IsBlank source) :
    FirstBlank source (before ++ ts) g := by
  obtain ⟨before', inside, after, rfl, hg, hbefore'⟩ := h
  refine ⟨before ++ before', inside, after, by simp, hg, ?_⟩
  intro g' inside' hg'
  rcases List.mem_append.mp hg' with hg' | hg'
  · exact hbefore g' inside' hg'
  · exact hbefore' g' inside' hg'

lemma FirstBlank.exists_mem (h : FirstBlank source (.body b :: ts) g) :
    ∃ inside, .group g inside ∈ ts ∧ g.IsBlank source := by
  obtain ⟨before, inside, after, heq, hg, -⟩ := h
  have hmem : .group g inside ∈ Target.body b :: ts := by simp [heq]
  exact ⟨inside, by simpa using hmem, hg⟩

lemma FirstBlank.eq {g' : Group} (h : FirstBlank source ts g) (h' : FirstBlank source ts g') :
    g = g' := by
  obtain ⟨before, inside, after, rfl, hg, hbefore⟩ := h
  obtain ⟨before', inside', after', heq, hg', hbefore'⟩ := h'
  -- if one of them stood further to the right, the other would be a blank group in front of it
  rcases List.append_eq_append_iff.mp heq with ⟨m, rfl, hm⟩ | ⟨m, rfl, hm⟩
  · match m with
    | [] => exact (Target.group.inj (List.cons.inj hm).1).1
    | a :: m =>
      obtain ⟨rfl, -⟩ := List.cons.inj hm
      exact absurd hg (hbefore' g inside (by simp))
  · match m with
    | [] => exact (Target.group.inj (List.cons.inj hm).1).1.symm
    | a :: m =>
      obtain ⟨rfl, -⟩ := List.cons.inj hm
      exact absurd hg' (hbefore g' inside' (by simp))

/-- Of the reasons to refuse a closed literal only a blank group is left. -/
lemma readTail_of_continues (h : Continues size b ts) (hb : b.kind = .template)
    (hclosed : Command.isClosed (.body b :: ts) = true)
    (hblank : ∀ g inside, .group g inside ∈ ts →
      (isBlankGroup g inside = true ↔ g.IsBlank source)) :
    (∃ g, FirstBlank source ts g ∧ readTail ts = .error (.emptyInterpolation g.span.start)) ∨
      (∀ g inside, .group g inside ∈ ts → ¬g.IsBlank source) ∧ ∃ tail, readTail ts = .ok tail := by
  induction h with
  | last => exact .inr ⟨by simp, [], rfl⟩
  | cut => simp [Command.isClosed] at hclosed
  | @resumed b b' g inside ts _ hb' h ih =>
    have hkind := Target.kind_of_isFirst_eq_false hb'
    have hclosed' : Command.isClosed (.body b' :: ts) = true := by
      simpa [Command.isClosed] using hclosed
    have hpiece := h.isPiece hkind hclosed'
    have hg := hblank g inside List.mem_cons_self
    by_cases hgroup : g.IsBlank source
    · refine .inl ⟨g, ⟨[], inside, _, rfl, hgroup, by simp⟩, ?_⟩
      simp [readTail, hg.mpr hgroup, throw, throwThe, MonadExceptOf.throw, bind, Except.bind]
    · have hnot : isBlankGroup g inside = false := eq_false_of_ne_true fun h => hgroup (hg.mp h)
      rw [hb'] at hpiece
      have hread :
          readTail (.group g inside :: .body b' :: ts) = (readTail ts).map ((g, b') :: ·) := by
        cases htail : readTail ts <;>
          simp [readTail, hnot, hpiece, htail, bind, Except.bind, pure, Except.pure, Except.map]
      have hfront : ∀ g' inside', .group g' inside' ∈ [Target.group g inside, .body b'] →
          ¬g'.IsBlank source := by
        rintro g' inside' hg'
        simp only [List.mem_cons, Target.group.injEq, reduceCtorEq, List.not_mem_nil,
          or_false] at hg'
        rwa [hg'.1]
      rcases ih hkind hclosed' (fun g' inside' hg' => hblank g' inside' (by simp [hg'])) with
        ⟨g', hfirst, hread'⟩ | ⟨hnone, tail, hread'⟩
      · refine .inl ⟨g', hfirst.append_left hfront, ?_⟩
        rw [hread, hread']
        rfl
      · refine .inr ⟨?_, (g, b') :: tail, ?_⟩
        · intro g' inside' hg'
          rcases List.mem_append.mp (show _ ∈ [_, _] ++ ts from hg') with hg' | hg'
          · exact hfront g' inside' hg'
          · exact hnone g' inside' hg'
        · rw [hread, hread']
          rfl

lemma readFragments_of_continues (h : Continues size b ts) (hfirst : b.isFirst = true)
    (hb : b.kind = .template) (hclosed : Command.isClosed (.body b :: ts) = true)
    (hblank : ∀ g inside, .group g inside ∈ ts →
      (isBlankGroup g inside = true ↔ g.IsBlank source)) :
    (∃ g, FirstBlank source (.body b :: ts) g ∧
        readFragments (.body b :: ts) = .error (.emptyInterpolation g.span.start)) ∨
      (∀ g inside, .group g inside ∈ ts → ¬g.IsBlank source) ∧
        ∃ fragments, readFragments (.body b :: ts) = .ok fragments := by
  have hpiece := h.isPiece hb hclosed
  have hlength := h.length_mod_two hclosed
  have hread : readFragments (.body b :: ts) = (readTail ts).map (⟨b, ·⟩) := by
    rw [hfirst] at hpiece
    cases htail : readTail ts <;>
      simp [readFragments, hpiece, htail, Nat.add_mod, hlength, bind, Except.bind, pure,
        Except.pure, Except.map]
  rcases readTail_of_continues h hb hclosed hblank with ⟨g, hg, htail⟩ | ⟨hnone, tail, htail⟩
  · have hhead : ∀ g' inside', .group g' inside' ∈ [Target.body b] → ¬g'.IsBlank source := by simp
    refine .inl ⟨g, hg.append_left hhead, ?_⟩
    rw [hread, htail]
    rfl
  · refine .inr ⟨hnone, ⟨b, tail⟩, ?_⟩
    rw [hread, htail]
    rfl

lemma Alternates.filterMap_body? {tail : List (Group × Body)} (h : Alternates ts b tail) :
    ts.filterMap Target.body? = b :: tail.map Prod.snd := by
  induction h with
  | single => rfl
  | cons _ _ ih => simpa [Target.body?, List.filterMap_cons] using ih

end Concatenation

namespace Command

open Concatenation (FirstBlank Covers)
open Target (Continues CutOff)

variable {style : QuoteStyle} {source : Text} {offset : Nat} {place : Place} {head : Body}
  {tail : List Target}

/-! ### The outcome -/

lemma kind_head_of_literal {path : List Nat}
    (hpath : Target.inside? (Document.read source).targets path = some place.targets)
    (hkind : place.body.kind = .template) (hliteral : place.literal = .body head :: tail)
    (htail : Continues source.size head tail) : head.kind = .template := by
  cases htail with
  | last =>
    obtain ⟨rfl, -⟩ := Place.isFirst_of_literal hpath hliteral
    exact hkind
  | cut hlast | resumed hlast =>
    obtain ⟨o, hd⟩ := Target.delimiters_of_isLast_eq_false hlast
    rw [Body.kind, hd]
    rfl

/-- The command on a template, after the string under the cursor is found. -/
lemma run_toNormal_eq (style : QuoteStyle)
    (hfind : Place.find? offset (Document.read source).targets = some place)
    (hkind : place.body.kind = .template) (hliteral : place.literal = .body head :: tail) :
    ∃ q, Command.toNormal.run style source offset
      = if isClosed (.body head :: tail) then
          if tail = [] then .ok [replaceBody head (.normal q)]
          else
            match Concatenation.readFragments (.body head :: tail) with
            | .ok fragments => .ok (Concatenation.editsFrom q none fragments.head fragments.tail)
            | .error flaw => .error (.declined (flaw.decline source))
        else declineAt source .unterminated head.span.start := by
  obtain ⟨q, hq⟩ : ∃ q, style.resolve (.normal (Document.read source).commonQuote) = .normal q := by
    cases style <;> exact ⟨_, rfl⟩
  refine ⟨q, ?_⟩
  simp only [run, placeAt, hfind, hq, runToNormal, hkind, hliteral, bind, Except.bind]
  split
  · cases tail with
    | nil => rfl
    | cons a tail =>
      simp only [Concatenation.edits, bind, Except.bind, reduceCtorEq, if_false, pure, Except.pure]
      cases Concatenation.readFragments (.body head :: a :: tail) <;> rfl
  · rfl

/-- What comes of flattening a literal: it is cut off, or it has a blank group, or there are
edits. -/
inductive Flattens (source : Text) (head : Body) (tail : List Target) :
    Except Failure (List Edit) → Prop where
  | cutOff (hcut : CutOff source.size (.body head :: tail)) :
      Flattens source head tail (declineAt source .unterminated head.span.start)
  | blank {g : Group} (hcut : ¬CutOff source.size (.body head :: tail))
      (hg : FirstBlank source (.body head :: tail) g) :
      Flattens source head tail
        (.error (.declined ((Flaw.emptyInterpolation g.span.start).decline source)))
  | flat {edits : List Edit} (hcut : ¬CutOff source.size (.body head :: tail))
      (hnone : ∀ g inside, .group g inside ∈ tail → ¬g.IsBlank source) :
      Flattens source head tail (.ok edits)

lemma flattens_run_toNormal (style : QuoteStyle)
    (hfind : Place.find? offset (Document.read source).targets = some place)
    (hkind : place.body.kind = .template) (hliteral : place.literal = .body head :: tail)
    (hfirst : head.isFirst = true) (htail : Continues source.size head tail) :
    Flattens source head tail (Command.toNormal.run style source offset) := by
  obtain ⟨path, hpath⟩ := Place.exists_path_of_find? hfind
  obtain ⟨pre, post, htargets⟩ := place.exists_targets_eq
  have hhead := kind_head_of_literal hpath hkind hliteral htail
  have hclosed := htail.isClosed_iff hhead
  obtain ⟨q, hrun⟩ := run_toNormal_eq style hfind hkind hliteral
  rw [hrun]
  by_cases hcut : CutOff source.size (.body head :: tail)
  · rw [if_neg (fun h => hclosed.mp h hcut)]
    exact .cutOff hcut
  · rw [if_pos (hclosed.mpr hcut)]
    rw [htargets, hliteral, ← List.append_assoc, List.append_assoc] at hpath
    have hblank : ∀ g inside, .group g inside ∈ tail →
        (Target.isBlankGroup g inside = true ↔ g.IsBlank source) :=
      fun g inside hg => Document.isBlankGroup_iff_of_mem hpath htail hcut hg
    rcases Concatenation.readFragments_of_continues htail hfirst hhead (hclosed.mpr hcut)
        hblank with
      ⟨g, hg, hread⟩ | ⟨hnone, fragments, hread⟩
    · obtain ⟨inside, hmem, -⟩ := hg.exists_mem
      rw [if_neg (List.ne_nil_of_mem hmem), hread]
      exact .blank hcut hg
    · rw [hread]
      split
      · exact .flat hcut hnone
      · exact .flat hcut hnone

namespace Flattens

variable {result : Except Failure (List Edit)}

lemma eq_unterminated_iff (h : Flattens source head tail result) :
    result = .error (.declined (.located source .unterminated (source.position head.span.start))) ↔
      CutOff source.size (.body head :: tail) := by
  cases h with
  | cutOff hcut => exact iff_of_true rfl hcut
  | blank hcut hg => exact iff_of_false (by simp [Flaw.decline, Decline.located]) hcut
  | flat hcut hnone => exact iff_of_false (by simp) hcut

/-- The offset of a place tells the blank groups apart. -/
lemma eq_emptyInterpolation_iff (h : Flattens source head tail result) (start : Nat) :
    result = .error (.declined
        { reason := .emptyInterpolation, location := some (source.position start) }) ↔
      ¬CutOff source.size (.body head :: tail) ∧
        ∃ g, FirstBlank source (.body head :: tail) g ∧ g.span.start = start := by
  cases h with
  | cutOff hcut =>
    exact iff_of_false (by simp [declineAt, Decline.located]) fun h => h.1 hcut
  | @blank g hcut hg =>
    constructor
    · intro h
      have hposition : source.position g.span.start = source.position start := by
        simpa [Flaw.decline] using h
      exact ⟨hcut, g, hg, by simpa using congrArg Position.offset hposition⟩
    · rintro ⟨-, g', hg', rfl⟩
      rw [hg.eq hg']
      rfl
  | flat hcut hnone =>
    apply iff_of_false (by simp)
    rintro ⟨-, g, hg, -⟩
    obtain ⟨inside, hmem, hblank⟩ := hg.exists_mem
    exact hnone g inside hmem hblank

lemma exists_eq_ok_iff (h : Flattens source head tail result) :
    (∃ edits, result = .ok edits) ↔ ¬CutOff source.size (.body head :: tail) ∧
      ∀ g inside, .group g inside ∈ tail → ¬g.IsBlank source := by
  cases h with
  | cutOff hcut => exact iff_of_false (by simp [declineAt]) fun h => h.1 hcut
  | blank hcut hg =>
    obtain ⟨inside, hmem, hblank⟩ := hg.exists_mem
    exact iff_of_false (by simp) fun h => h.2 _ inside hmem hblank
  | flat hcut hnone => exact iff_of_true ⟨_, rfl⟩ ⟨hcut, hnone⟩

lemma reason_of_error (h : Flattens source head tail result) {failure : Failure}
    (hfailure : result = .error failure) :
    ∃ d, failure = .declined d ∧ (d.reason = .unterminated ∨ d.reason = .emptyInterpolation) := by
  cases h with
  | cutOff hcut => exact ⟨_, (Except.error.inj hfailure).symm, .inl rfl⟩
  | blank hcut hg => exact ⟨_, (Except.error.inj hfailure).symm, .inr rfl⟩
  | flat hcut hnone => cases hfailure

lemma cutOff_of_reason (h : Flattens source head tail result) {d : Decline}
    (hresult : result = .error (.declined d)) (hreason : d.reason = .unterminated) :
    CutOff source.size (.body head :: tail) := by
  cases h with
  | cutOff hcut => exact hcut
  | blank hcut hg =>
    obtain rfl := Failure.declined.inj (Except.error.inj hresult)
    simp [Flaw.decline] at hreason
  | flat hcut hnone => cases hresult

end Flattens

/-- The edits that flatten a template are those of its bodies, in order. -/
lemma covers_of_run_toNormal {edits : List Edit}
    (hfind : Place.find? offset (Document.read source).targets = some place)
    (h : Command.toNormal.run style source offset = .ok edits) :
    edits.Pairwise (fun a b => a.span.stop ≤ b.span.start) ∧
      List.Forall₂ Covers edits (place.literal.filterMap Target.body?) := by
  obtain ⟨place', q, head, tail, before, rest, after, hflattens⟩ := exists_flattensLiteral h
  obtain rfl : place = place' := Option.some.inj (hfind.symm.trans hflattens.find)
  rw [hflattens.alternates.filterMap_body?]
  exact ⟨hflattens.splices.ordered.1, hflattens.covers⟩

/-- What comes of a template under the cursor, whose literal is a body and what follows it. -/
structure TemplateOutcome (style : QuoteStyle) (source : Text) (offset : Nat) (place : Place)
    (head : Body) (tail : List Target) : Prop where
  /-- The literal is a stretch of the list around the body. -/
  around : ∃ pre front back post, place.before = pre ++ front ∧ place.after = back ++ post ∧
    front ++ .body place.body :: back = .body head :: tail
  /-- It is a whole literal. -/
  isFirst : head.isFirst = true
  continues : Continues source.size head tail
  /-- The command declines with the start of the literal exactly if the literal is cut off. -/
  unterminated : Command.toNormal.run style source offset
      = .error (.declined (.located source .unterminated (source.position head.span.start))) ↔
    CutOff source.size (.body head :: tail)
  /-- Otherwise it declines with the start of a group exactly if this is the first blank one. -/
  emptyInterpolation : ∀ start, Command.toNormal.run style source offset
      = .error (.declined
        { reason := .emptyInterpolation, location := some (source.position start) }) ↔
    ¬CutOff source.size (.body head :: tail) ∧
      ∃ g, FirstBlank source (.body head :: tail) g ∧ g.span.start = start
  /-- Otherwise it succeeds. -/
  succeeds : (∃ edits, Command.toNormal.run style source offset = .ok edits) ↔
    ¬CutOff source.size (.body head :: tail) ∧
      ∀ g inside, .group g inside ∈ tail → ¬g.IsBlank source
  /-- Its edits are those of the bodies of the literal, in order. -/
  covers : ∀ edits, Command.toNormal.run style source offset = .ok edits →
    edits.Pairwise (fun a b => a.span.stop ≤ b.span.start) ∧
      List.Forall₂ Covers edits ((Target.body head :: tail).filterMap Target.body?)
  /-- There is no other failure. -/
  declines : ∀ failure, Command.toNormal.run style source offset = .error failure →
    ∃ d, failure = .declined d ∧ (d.reason = .unterminated ∨ d.reason = .emptyInterpolation)

/-- Around a body of a template stands one whole literal. The command declines if the literal is cut
off, else if it has a blank group, and else gives one edit for each body of the literal. -/
theorem run_toNormal_of_template (style : QuoteStyle)
    (hfind : Place.find? offset (Document.read source).targets = some place)
    (hkind : place.body.kind = .template) :
    ∃ head tail, TemplateOutcome style source offset place head tail := by
  obtain ⟨path, hpath⟩ := Place.exists_path_of_find? hfind
  obtain ⟨head, tail, hliteral, hfirst, htail⟩ := Place.exists_continues hpath
  obtain ⟨pre, front, back, post, hbefore, hafter, heq⟩ := place.exists_literal_eq
  have hflattens := flattens_run_toNormal style hfind hkind hliteral hfirst htail
  exact ⟨head, tail, {
    around := ⟨pre, front, back, post, hbefore, hafter, heq.symm.trans hliteral⟩
    isFirst := hfirst
    continues := htail
    unterminated := hflattens.eq_unterminated_iff
    emptyInterpolation := hflattens.eq_emptyInterpolation_iff
    succeeds := hflattens.exists_eq_ok_iff
    covers := fun edits h => hliteral ▸ covers_of_run_toNormal hfind h
    declines := fun failure => hflattens.reason_of_error }⟩

set_option maxRecDepth 2000 in
/-- A cursor on the middle of a template whose second interpolation is blank. -/
theorem run_toNormal_of_template_blank :
    Place.find? 5 (Document.read "`$\x7bb\x7d$\x7b\x7d`".toList).targets
        = some ⟨[.body ⟨.template .backtick (some .interpolation), [], ⟨0, 3⟩⟩,
            .group ⟨false, ⟨3, 3⟩, ⟨4, 4⟩, ⟨3, 4⟩⟩ []],
          ⟨.template .brace (some .interpolation), [], ⟨4, 7⟩⟩,
          [.group ⟨false, ⟨7, 7⟩, ⟨7, 7⟩, ⟨7, 7⟩⟩ [],
            .body ⟨.template .brace (some .backtick), [], ⟨7, 9⟩⟩]⟩ ∧
      Command.toNormal.run .infer "`$\x7bb\x7d$\x7b\x7d`".toList 5
        = .error (.declined { reason := .emptyInterpolation, location := some ⟨7, 1, 8⟩ }) ∧
      ∃ place head tail, place.body.kind = .template ∧
        TemplateOutcome .infer "`$\x7bb\x7d$\x7b\x7d`".toList 5 place head tail := by
  have hrun : Command.toNormal.run .infer "`$\x7bb\x7d$\x7b\x7d`".toList 5
      = .error (.declined { reason := .emptyInterpolation, location := some ⟨7, 1, 8⟩ }) := by
    cbv
  have hfind : Place.find? 5 (Document.read "`$\x7bb\x7d$\x7b\x7d`".toList).targets
      = some ⟨[.body ⟨.template .backtick (some .interpolation), [], ⟨0, 3⟩⟩,
          .group ⟨false, ⟨3, 3⟩, ⟨4, 4⟩, ⟨3, 4⟩⟩ []],
        ⟨.template .brace (some .interpolation), [], ⟨4, 7⟩⟩,
        [.group ⟨false, ⟨7, 7⟩, ⟨7, 7⟩, ⟨7, 7⟩⟩ [],
          .body ⟨.template .brace (some .backtick), [], ⟨7, 9⟩⟩]⟩ := by
    cbv
  obtain ⟨head, tail, h⟩ := run_toNormal_of_template .infer hfind rfl
  exact ⟨hfind, hrun, _, head, tail, rfl, h⟩

end Command

end Requote
