import Requote.Proofs.Lines
import Requote.Proofs.Splicing

/-!
# Edits from the last to the first

Edits that do not overlap can also be made one at a time. The last one in the text comes first, so
that the places of those still to be made stay where they are. This gives the same text as applying
them all in one pass from left to right, and the order in which the edits are given does not matter,
unless two of them replace the same span.
-/

namespace Requote

/-- A text that follows another one is cut at two places of both together. -/
lemma Text.exists_append_append {before t : Text} {m n : Nat}
    (hm : (before ++ t).isBoundary m = true) (hn : (before ++ t).isBoundary n = true)
    (hle : before.size ≤ m) (hmn : m ≤ n) :
    ∃ kept old rest : Text, t = kept ++ (old ++ rest) ∧ before.size + kept.size = m ∧
      before.size + kept.size + old.size = n := by
  obtain ⟨u, v, hu, rfl⟩ := exists_append_of_isBoundary hm
  obtain ⟨u', rest, hu', rfl⟩ := exists_append_of_isBoundary hn
  obtain ⟨kept, rfl, rfl⟩ := append_eq_append_of_size_le hu hle
  obtain ⟨old, rfl, rfl⟩ := append_eq_append_of_size_le (hu.symm.trans hu') hmn
  exact ⟨kept, old, rest, rfl, (size_append _ _).symm, by simp only [size_append]⟩

namespace Edit

variable {source before t out : Text} {edits es : List Edit} {e a b : Edit} {offset : Nat}

/-! ### The order of edits -/

/-- The edits from the last one in the text to the first. -/
def backwards (edits : List Edit) : List Edit :=
  edits.mergeSort fun a b => notAfter b a

lemma notAfter_iff : notAfter a b = true ↔
    a.span.start < b.span.start ∨ a.span.start = b.span.start ∧ a.span.stop ≤ b.span.stop := by
  simp [notAfter]

lemma notAfter_trans (a b c : Edit) (hab : notAfter a b = true) (hbc : notAfter b c = true) :
    notAfter a c = true := by
  rw [notAfter_iff] at *
  omega

lemma notAfter_total (a b : Edit) : (notAfter a b || notAfter b a) = true := by
  rw [Bool.or_eq_true, notAfter_iff, notAfter_iff]
  omega

lemma pairwise_mergeSort_notAfter (edits : List Edit) :
    (edits.mergeSort notAfter).Pairwise fun a b => notAfter a b = true :=
  List.pairwise_mergeSort notAfter_trans notAfter_total edits

lemma span_eq_of_notAfter (hab : notAfter a b = true) (hba : notAfter b a = true) :
    a.span = b.span := by
  rw [notAfter_iff] at hab hba
  cases ha : a.span
  cases hb : b.span
  rw [ha, hb] at hab hba
  simp only [Span.mk.injEq]
  simp only at hab hba
  omega

lemma pairwise_backwards (edits : List Edit) :
    (backwards edits).Pairwise fun a b => notAfter b a = true := by
  refine List.pairwise_mergeSort ?_ ?_ edits
  · intro a b c hab hbc
    exact notAfter_trans c b a hbc hab
  · intro a b
    exact notAfter_total b a

/-- There is only one order for edits of different spans. -/
lemma eq_of_perm_of_pairwise (hspans : (es.map span).Nodup) (hperm : edits.Perm es)
    (hedits : edits.Pairwise fun a b => notAfter a b = true)
    (hes : es.Pairwise fun a b => notAfter a b = true) : edits = es := by
  refine hperm.eq_of_pairwise (fun a b ha hb hab hba => ?_) hedits hes
  exact List.inj_on_of_nodup_map hspans (hperm.subset ha) hb (span_eq_of_notAfter hab hba)

/-! ### One edit at a time -/

/-- Whether an edit replaces a stretch of a text. -/
structure Fits (source : Text) (e : Edit) : Prop where
  start_le_stop : e.span.start ≤ e.span.stop
  isBoundary_start : source.isBoundary e.span.start = true
  isBoundary_stop : source.isBoundary e.span.stop = true

instance (source : Text) (e : Edit) : Decidable (e.Fits source) :=
  decidable_of_iff (e.span.start ≤ e.span.stop ∧ source.isBoundary e.span.start = true ∧
    source.isBoundary e.span.stop = true) ⟨fun h => ⟨h.1, h.2.1, h.2.2⟩, fun h => ⟨h.1, h.2, h.3⟩⟩

/-- Whether one of two edits ends where the other one starts or in front of that. -/
def Apart (a b : Edit) : Prop :=
  a.span.stop ≤ b.span.start ∨ b.span.stop ≤ a.span.start

instance (a b : Edit) : Decidable (a.Apart b) :=
  inferInstanceAs (Decidable (_ ∨ _))

/-- Replaces the span of one edit. -/
def replace? (source : Text) (e : Edit) : Option Text :=
  if e.span.start ≤ e.span.stop then do
    let (before, rest) ← source.cut? e.span.start
    let (_, after) ← rest.cut? (e.span.stop - e.span.start)
    return before ++ (e.text ++ after)
  else
    none

/-- Replaces one span after the other, each in the text that the ones before it have left. -/
def replaceEach? (source : Text) (edits : List Edit) : Option Text :=
  edits.foldlM replace? source

lemma replace?_append {old : Text} (hstart : e.span.start = before.size)
    (hstop : e.span.stop = e.span.start + old.size) (after : Text) :
    replace? (before ++ (old ++ after)) e = some (before ++ (e.text ++ after)) := by
  rw [replace?, if_pos (by omega), hstop, Nat.add_sub_cancel_left, hstart]
  simp [Text.cut?_append]

/-- In the order of the text, one of two edits that are apart ends where the other one starts. -/
lemma stop_le_start_of_apart (ha : a.Fits source) (hb : b.Fits source) (hapart : a.Apart b)
    (hle : notAfter a b = true) : a.span.stop ≤ b.span.start := by
  have := ha.start_le_stop
  have := hb.start_le_stop
  rw [notAfter_iff] at hle
  rcases hapart with h | h
  · exact h
  · omega

/-- Edits that stand in order behind a place splice what follows it. -/
lemma exists_splices (before : Text) (hfits : ∀ e ∈ es, e.Fits (before ++ t))
    (hle : ∀ e ∈ es, before.size ≤ e.span.start)
    (hpair : es.Pairwise fun a b => a.span.stop ≤ b.span.start) :
    ∃ out, Splices before.size t es out := by
  induction es generalizing before t with
  | nil => exact ⟨t, .nil _ _⟩
  | cons e es ih =>
    obtain ⟨hbehind, hpair⟩ := List.pairwise_cons.mp hpair
    obtain ⟨hlt, hboundary, hboundary'⟩ := hfits e List.mem_cons_self
    obtain ⟨kept, old, rest, rfl, hstart, hstop⟩ := Text.exists_append_append hboundary hboundary'
      (hle e List.mem_cons_self) hlt
    have hsize : Text.size (before ++ kept ++ old) = e.span.stop := by
      rw [Text.size_append, Text.size_append, hstop]
    simp only [← List.append_assoc] at hfits
    rw [← hsize] at hbehind
    obtain ⟨out, hsplices⟩ :=
      ih _ (fun e' he' => hfits e' (List.mem_cons_of_mem _ he')) hbehind hpair
    rw [hsize] at hsplices
    exact ⟨_, .cons hstart.symm (by omega) hsplices⟩

/-- Edits that splice can be made from the last to the first, behind any text. -/
lemma Splices.replaceEach? (h : Splices offset t es out) (before : Text)
    (hbefore : before.size = offset) :
    replaceEach? (before ++ t) es.reverse = some (before ++ out) := by
  induction h generalizing before with
  | nil => rfl
  | @cons offset kept old rest out e es hstart hstop h ih =>
    have hrest : Edit.replaceEach? (before ++ (kept ++ (old ++ rest))) es.reverse
        = some (before ++ (kept ++ (old ++ out))) := by
      have hsize : Text.size (before ++ kept ++ old) = e.span.stop := by
        simp only [Text.size_append]
        omega
      simpa only [List.append_assoc] using ih _ hsize
    have hlast : replace? (before ++ (kept ++ (old ++ out))) e
        = some (before ++ (kept ++ (e.text ++ out))) := by
      have hsize : e.span.start = Text.size (before ++ kept) := by
        rw [Text.size_append]
        omega
      simpa only [List.append_assoc] using replace?_append hsize hstop out
    rw [Edit.replaceEach?, List.reverse_cons, List.foldlM_append, ← Edit.replaceEach?, hrest,
      Option.bind_eq_bind, Option.bind_some, List.foldlM_cons, hlast]
    rfl

/-- Edits that are apart and replace different spans give one text, in whatever order they are
given: the text that comes about when the spans are replaced one at a time, from the last to the
first. -/
theorem applyAll?_eq_replaceEach?_backwards (hfits : ∀ e ∈ edits, e.Fits source)
    (hapart : edits.Pairwise Apart) (hspans : (edits.map span).Nodup) :
    ∃ out, (∀ es, es.Perm edits → applyAll? source es = some out) ∧
      replaceEach? source (backwards edits) = some out := by
  have hperm := List.mergeSort_perm edits notAfter
  have hsorted := pairwise_mergeSort_notAfter edits
  have hpair : (edits.mergeSort notAfter).Pairwise fun a b => a.span.stop ≤ b.span.start := by
    have hapart := hapart.perm hperm.symm fun h => h.symm
    refine (hsorted.and hapart).imp_of_mem ?_
    intro a b ha hb hab
    exact stop_le_start_of_apart (hfits a (hperm.subset ha)) (hfits b (hperm.subset hb)) hab.2 hab.1
  obtain ⟨out, hsplices⟩ : ∃ out, Splices 0 source (edits.mergeSort notAfter) out := by
    refine exists_splices [] (fun e he => ?_) (fun e _ => Nat.zero_le _) hpair
    exact hfits e (hperm.subset he)
  refine ⟨out, ?_, ?_⟩
  · intro es hes
    have heq : es.mergeSort notAfter = edits.mergeSort notAfter :=
      eq_of_perm_of_pairwise ((hperm.map span).nodup_iff.mpr hspans)
        ((List.mergeSort_perm es notAfter).trans (hes.trans hperm.symm))
        (pairwise_mergeSort_notAfter es) hsorted
    rw [applyAll?, heq]
    exact hsplices.splice?
  · have heq : (backwards edits).reverse = edits.mergeSort notAfter := by
      refine eq_of_perm_of_pairwise ((hperm.map span).nodup_iff.mpr hspans) ?_
        (List.pairwise_reverse.mpr (pairwise_backwards edits)) hsorted
      exact (List.reverse_perm _).trans ((List.mergeSort_perm edits _).trans hperm.symm)
    rw [← List.reverse_reverse (backwards edits), heq]
    exact hsplices.replaceEach? [] rfl

/-- An insertion in front of one replacement and behind another one. -/
theorem applyAll?_eq_replaceEach?_backwards_insertion :
    let edits : List Edit := [⟨⟨3, 4⟩, "x".toList⟩, ⟨⟨1, 3⟩, []⟩, ⟨⟨3, 3⟩, "yz".toList⟩]
    (∀ e ∈ edits, e.Fits "aéc".toList) ∧ edits.Pairwise Apart ∧ (edits.map span).Nodup ∧
      ∃ out, (∀ es, es.Perm edits → applyAll? "aéc".toList es = some out) ∧
        replaceEach? "aéc".toList (backwards edits) = some out := by
  intro edits
  have hfits : ∀ e ∈ edits, e.Fits "aéc".toList := by decide
  have hapart : edits.Pairwise Apart := by decide
  have hspans : (edits.map span).Nodup := by decide
  exact ⟨hfits, hapart, hspans, applyAll?_eq_replaceEach?_backwards hfits hapart hspans⟩

end Edit

end Requote
