import Requote.Proofs.Backwards

/-!
# Edits that overlap

Applying edits keeps one bound, the place up to which the text is dealt with. Edits may overlap, lie
in one another, cover the same span or end in front of where they start: as they come in the order
in which they start, a byte behind the bound is covered by an edit so far only if an edit still to
come covers it. So every edit puts its text in once, and every byte that no edit covers is kept
once, in the order of the text.
-/

namespace Requote

/-- The bytes of the UTF-8 form of a text. -/
def Text.bytes (t : Text) : List UInt8 :=
  t.toBytes.data.toList

namespace Text

@[simp]
lemma bytes_append (s t : Text) : (s ++ t).bytes = s.bytes ++ t.bytes := by
  simp [bytes, toBytes]

lemma length_bytes (t : Text) : t.bytes.length = t.size := by
  induction t with
  | nil => simp [bytes, toBytes]
  | cons c t ih =>
    rw [← List.singleton_append, bytes_append, List.length_append, ih]
    simp [bytes, toBytes, List.utf8Encode_singleton]

end Text

namespace Edit

variable {source t kept old last : Text} {edits es : List Edit} {pieces : List (Text × Edit)}
  {e : Edit} {offset n : Nat} {xs : List UInt8}

/-! ### The order of the text, ties left as they are -/

/-- Whether edits are put in order by where they start and end, those of one span among themselves
in the order in which they were given. -/
structure Orders (edits sorted : List Edit) : Prop where
  perm : sorted.Perm edits
  pairwise : sorted.Pairwise fun a b => notAfter a b = true
  stable : ∀ s : Span, sorted.filter (·.span = s) = edits.filter (·.span = s)

lemma orders_mergeSort (edits : List Edit) : Orders edits (edits.mergeSort notAfter) where
  perm := List.mergeSort_perm edits notAfter
  pairwise := pairwise_mergeSort_notAfter edits
  stable s := by
    have hpairwise : (edits.filter (·.span = s)).Pairwise fun a b => notAfter a b = true := by
      rw [List.pairwise_filter]
      refine List.pairwise_of_forall fun a b ha hb => ?_
      rw [decide_eq_true_eq] at ha hb
      rw [notAfter_iff, ha, hb]
      exact .inr ⟨rfl, Nat.le_refl _⟩
    have hsublist :=
      List.sublist_mergeSort notAfter_trans notAfter_total hpairwise List.filter_sublist
    have hfilter := hsublist.filter (·.span = s)
    rw [List.filter_filter] at hfilter
    simp only [Bool.and_self] at hfilter
    refine (hfilter.eq_of_length ?_).symm
    exact ((List.mergeSort_perm edits notAfter).filter _).length_eq.symm

/-! ### Bytes that no edit covers -/

/-- Whether an edit covers the byte at a position. -/
def covers (e : Edit) (position : Nat) : Bool :=
  e.span.start ≤ position && position < e.span.stop

lemma covers_iff {position : Nat} :
    e.covers position = true ↔ e.span.start ≤ position ∧ position < e.span.stop := by
  simp [covers]

/-- The bytes that no edit covers, of those that stand from a position on. -/
def uncovered (edits : List Edit) (position : Nat) (bytes : List UInt8) : List UInt8 :=
  ((bytes.zipIdx position).filter fun b => !edits.any fun e => e.covers b.2).map Prod.fst

lemma uncovered_append (edits : List Edit) (n : Nat) (xs ys : List UInt8) :
    uncovered edits n (xs ++ ys) = uncovered edits n xs ++ uncovered edits (n + xs.length) ys := by
  simp [uncovered, List.zipIdx_append]

lemma uncovered_eq_self (h : ∀ p, n ≤ p → p < n + xs.length → edits.any (·.covers p) = false) :
    uncovered edits n xs = xs := by
  have hall : ∀ b ∈ xs.zipIdx n, (!edits.any fun e => e.covers b.2) = true := by
    rintro ⟨x, p⟩ hb
    obtain ⟨hle, hlt, -⟩ := List.mem_zipIdx hb
    rw [h p hle hlt]
    rfl
  rw [uncovered, List.filter_eq_self.mpr hall, List.zipIdx_map_fst]

lemma uncovered_eq_nil (h : ∀ p, n ≤ p → p < n + xs.length → edits.any (·.covers p) = true) :
    uncovered edits n xs = [] := by
  have hnone : ∀ b ∈ xs.zipIdx n, ¬(!edits.any fun e => e.covers b.2) = true := by
    rintro ⟨x, p⟩ hb
    obtain ⟨hle, hlt, -⟩ := List.mem_zipIdx hb
    rw [h p hle hlt]
    simp
  rw [uncovered, List.filter_eq_nil_iff.mpr hnone, List.map_nil]

/-- Bytes that are covered are left out, wherever what follows them is cut off. -/
lemma uncovered_take (h : ∀ p, n ≤ p → p < n + xs.length → edits.any (·.covers p) = true)
    (ys : List UInt8) (k : Nat) : uncovered edits n ((xs ++ ys).take k)
      = uncovered edits (n + xs.length) (ys.take (k - xs.length)) := by
  rw [List.take_append, uncovered_append]
  rcases Nat.le_total xs.length k with hk | hk
  · rw [List.take_of_length_le hk, uncovered_eq_nil h, List.nil_append]
  · have hcut : uncovered edits n (xs.take k) = [] := by
      apply uncovered_eq_nil
      intro p hle hlt
      rw [List.length_take] at hlt
      exact h p hle (by omega)
    rw [hcut, Nat.sub_eq_zero_of_le hk]
    rfl

/-! ### One pass over the text -/

/-- One pass over a text, which starts at an offset: what is kept in front of each edit, then what
the edit takes away, and at the end what is kept behind the last one. An edit that starts in front
of the offset keeps nothing, and one that ends in front of it takes nothing away. -/
inductive Passes : Nat → Text → List (Text × Edit) → Text → Prop where
  | nil (offset : Nat) (rest : Text) : Passes offset rest [] rest
  | cons {offset : Nat} {kept old rest last : Text} {e : Edit} {pieces : List (Text × Edit)}
      (hkept : offset + kept.size = max e.span.start offset)
      (hold : offset + kept.size + old.size = max e.span.stop (offset + kept.size))
      (h : Passes (offset + kept.size + old.size) rest pieces last) :
      Passes offset (kept ++ (old ++ rest)) ((kept, e) :: pieces) last

lemma Passes.splice? (h : Passes offset t pieces last) : splice? offset t (pieces.map Prod.snd)
    = some (pieces.flatMap (fun p => p.1 ++ p.2.text) ++ last) := by
  induction h with
  | nil => rfl
  | @cons offset kept old rest last e pieces hkept hold h ih =>
    have hstart : max e.span.start offset - offset = kept.size := by omega
    have hbound : max e.span.stop (max e.span.start offset) = offset + kept.size + old.size := by
      omega
    have hstop : offset + kept.size + old.size - max e.span.start offset = old.size := by omega
    simp [Edit.splice?, hstart, hstop, Text.cut?_append, hbound, ih]

lemma isBoundary_max {m n : Nat} (hm : source.isBoundary m = true)
    (hn : source.isBoundary n = true) :
    source.isBoundary (max m n) = true := by
  rcases Nat.le_total m n with h | h
  · rwa [Nat.max_eq_right h]
  · rwa [Nat.max_eq_left h]

/-- Any edits whose ends are places of the text make a pass. -/
lemma exists_passes (before : Text) (h : ∀ e ∈ es, (before ++ t).isBoundary e.span.start = true ∧
    (before ++ t).isBoundary e.span.stop = true) :
    ∃ pieces last, Passes before.size t pieces last ∧ pieces.map Prod.snd = es := by
  induction es generalizing before t with
  | nil => exact ⟨[], t, .nil _ _, rfl⟩
  | cons e es ih =>
    obtain ⟨hstart, hstop⟩ := h e List.mem_cons_self
    have hstart := isBoundary_max hstart (Text.isBoundary_append before t)
    obtain ⟨kept, old, rest, rfl, hkept, hold⟩ := Text.exists_append_append hstart
      (isBoundary_max hstop hstart) (Nat.le_max_right _ _) (Nat.le_max_right _ _)
    simp only [← List.append_assoc] at h
    obtain ⟨pieces, last, hpasses, hpieces⟩ := ih _ fun e' he' => h e' (List.mem_cons_of_mem _ he')
    simp only [Text.size_append] at hpasses
    exact ⟨_, last, .cons hkept (by omega) hpasses, by rw [List.map_cons, hpieces]⟩

/-! ### What a pass keeps -/

/-- Whether all that edits cover from a bound on is covered by those still to come. -/
def Ahead (edits : List Edit) (bound : Nat) (es : List Edit) : Prop :=
  ∀ position, bound ≤ position → edits.any (·.covers position) = es.any (·.covers position)

/-- The edit that comes next covers nothing in front of where it starts, and all that it takes away.
What it covers ends at the new bound. -/
lemma Ahead.step (h : Ahead edits offset (e :: es))
    (hsorted : (e :: es).Pairwise fun a b => a.span.start ≤ b.span.start)
    (hkept : offset + kept.size = max e.span.start offset)
    (hold : offset + kept.size + old.size = max e.span.stop (offset + kept.size)) :
    (∀ p, offset ≤ p → p < offset + kept.size → edits.any (·.covers p) = false) ∧
      (∀ p, offset + kept.size ≤ p → p < offset + kept.size + old.size →
        edits.any (·.covers p) = true) ∧
      Ahead edits (offset + kept.size + old.size) es := by
  refine ⟨?_, ?_, ?_⟩
  · intro p hle hlt
    rw [h p hle, List.any_eq_false]
    intro e' he'
    rw [covers_iff]
    rcases List.mem_cons.mp he' with rfl | he'
    · omega
    · have := List.rel_of_pairwise_cons hsorted he'
      omega
  · intro p hle hlt
    rw [h p (by omega), List.any_cons, Bool.or_eq_true, covers_iff]
    omega
  · intro p hle
    have he : e.covers p = false := by
      rw [Bool.eq_false_iff, Ne, covers_iff]
      omega
    rw [h p (by omega), List.any_cons, he, Bool.false_or]

/-- What is kept is what no edit covers, each byte once. -/
lemma Passes.bytes_kept (h : Passes offset t pieces last)
    (hahead : Ahead edits offset (pieces.map Prod.snd))
    (hsorted : (pieces.map Prod.snd).Pairwise fun a b => a.span.start ≤ b.span.start) :
    Text.bytes (pieces.flatMap Prod.fst ++ last) = uncovered edits offset t.bytes := by
  induction h with
  | nil offset rest =>
    rw [uncovered_eq_self fun p hle _ => hahead p hle]
    rfl
  | @cons offset kept old rest last e pieces hkept hold h ih =>
    obtain ⟨hnone, hall, hahead⟩ := hahead.step hsorted hkept hold
    rw [← Text.length_bytes kept] at hnone
    rw [← Text.length_bytes old] at hall
    rw [List.flatMap_cons, List.append_assoc, Text.bytes_append, ih hahead hsorted.of_cons,
      Text.bytes_append, Text.bytes_append, uncovered_append, uncovered_append,
      uncovered_eq_self hnone, Text.length_bytes, uncovered_eq_nil hall, Text.length_bytes,
      List.nil_append]

/-- What is kept in front of an edit is what no edit covers of the bytes in front of where it
starts. -/
lemma Passes.bytes_front (h : Passes offset t pieces last)
    (hahead : Ahead edits offset (pieces.map Prod.snd))
    (hsorted : (pieces.map Prod.snd).Pairwise fun a b => a.span.start ≤ b.span.start)
    {front back : List (Text × Edit)} {p : Text × Edit} (hp : pieces = front ++ p :: back) :
    Text.bytes (front.flatMap Prod.fst ++ p.1)
      = uncovered edits offset (t.bytes.take (p.2.span.start - offset)) := by
  induction h generalizing front with
  | nil => simp at hp
  | @cons offset kept old rest last e pieces hkept hold h ih =>
    obtain ⟨hnone, hall, hahead⟩ := hahead.step hsorted hkept hold
    rw [← Text.length_bytes kept] at hnone
    rw [Text.bytes_append kept, Text.bytes_append old]
    cases front with
    | nil =>
      obtain ⟨rfl, rfl⟩ := List.cons.inj hp
      have hlength : kept.bytes.length = e.span.start - offset := by
        rw [Text.length_bytes]
        omega
      rw [List.take_left' hlength, uncovered_eq_self hnone]
      rfl
    | cons q front =>
      obtain ⟨rfl, rfl⟩ := List.cons.inj hp
      have hle : e.span.start ≤ p.2.span.start := List.rel_of_pairwise_cons hsorted (by simp)
      have hlength : kept.bytes.length ≤ p.2.span.start - offset := by
        rw [Text.length_bytes]
        omega
      rw [← Text.length_bytes old] at hall
      rw [List.flatMap_cons, List.append_assoc, Text.bytes_append, ih hahead hsorted.of_cons rfl,
        List.take_append, List.take_of_length_le hlength, uncovered_append, uncovered_eq_self hnone,
        Text.length_bytes, uncovered_take hall, Text.length_bytes, Nat.sub_sub, Nat.sub_sub,
        Nat.add_assoc]

/-- Edits whose ends are places of the text can be applied, whether they overlap or not. The text of
each comes in once, in the order of the spans, behind what is kept of the bytes in front of its
span; and the bytes that are kept are those that no span covers, each once and in order. -/
theorem applyAll?_interleaves (h : ∀ e ∈ edits, source.isBoundary e.span.start = true ∧
    source.isBoundary e.span.stop = true) :
    ∃ (pieces : List (Text × Edit)) (last out : Text), Orders edits (pieces.map Prod.snd) ∧
      applyAll? source edits = some out ∧ out = pieces.flatMap (fun p => p.1 ++ p.2.text) ++ last ∧
      Text.bytes (pieces.flatMap Prod.fst ++ last) = uncovered edits 0 source.bytes ∧
      ∀ front p back, pieces = front ++ p :: back → Text.bytes (front.flatMap Prod.fst ++ p.1)
        = uncovered edits 0 (source.bytes.take p.2.span.start) := by
  have horders := orders_mergeSort edits
  obtain ⟨pieces, last, hpasses, hpieces⟩ : ∃ pieces last, Passes 0 source pieces last ∧
      pieces.map Prod.snd = edits.mergeSort notAfter :=
    exists_passes [] fun e he => h e (horders.perm.subset he)
  rw [← hpieces] at horders
  have hsorted : (pieces.map Prod.snd).Pairwise fun a b => a.span.start ≤ b.span.start := by
    refine horders.pairwise.imp fun hab => ?_
    rw [notAfter_iff] at hab
    omega
  have hahead : Ahead edits 0 (pieces.map Prod.snd) := fun _ _ => horders.perm.any_eq.symm
  refine ⟨pieces, last, _, horders, ?_, rfl, hpasses.bytes_kept hahead hsorted, ?_⟩
  · rw [applyAll?, ← hpieces]
    exact hpasses.splice?
  · intro front p back hp
    exact hpasses.bytes_front hahead hsorted hp

/-- Two edits of one span, one that reaches into it, and one that ends in front of where it
starts. -/
theorem applyAll?_interleaves_overlap :
    let source : Text := "aébcd".toList
    let edits : List Edit :=
      [⟨⟨3, 5⟩, "x".toList⟩, ⟨⟨5, 1⟩, "w".toList⟩, ⟨⟨0, 4⟩, "y".toList⟩, ⟨⟨3, 5⟩, "z".toList⟩]
    (∀ e ∈ edits, source.isBoundary e.span.start = true ∧ source.isBoundary e.span.stop = true) ∧
      ∃ (pieces : List (Text × Edit)) (last out : Text), Orders edits (pieces.map Prod.snd) ∧
        applyAll? source edits = some out ∧
        out = pieces.flatMap (fun p => p.1 ++ p.2.text) ++ last ∧
        Text.bytes (pieces.flatMap Prod.fst ++ last) = uncovered edits 0 source.bytes ∧
        ∀ front p back, pieces = front ++ p :: back → Text.bytes (front.flatMap Prod.fst ++ p.1)
          = uncovered edits 0 (source.bytes.take p.2.span.start) := by
  intro source edits
  have h : ∀ e ∈ edits, source.isBoundary e.span.start = true ∧
      source.isBoundary e.span.stop = true := by
    decide
  exact ⟨h, applyAll?_interleaves h⟩

end Edit

end Requote
