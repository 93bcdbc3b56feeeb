import Mathlib
import Requote.Edit

/-!
# Cutting and splicing

A text that is given as a row of pieces can be cut exactly where the pieces meet. So edits that
replace some of the pieces, in order, can be applied, and each of them puts its text in the place of
its piece.
-/

namespace Requote

namespace Text

/-- The text between two places is cut out exactly. -/
lemma slice?_append (a m z : Text) : (a ++ (m ++ z)).slice? a.size (a.size + m.size) = some m := by
  have hsub : a.size + m.size - a.size = m.size := by omega
  simp [slice?, cut?_append, hsub]

/-- Of two splits of a text, the one further to the left leaves more. -/
lemma append_eq_append_of_size_le {a b c d : Text} (h : a ++ b = c ++ d) (hle : a.size ≤ c.size) :
    ∃ m, c = a ++ m ∧ b = m ++ d := by
  rcases List.append_eq_append_iff.mp h with ⟨m, hc, hb⟩ | ⟨m, ha, hd⟩
  · exact ⟨m, hc, hb⟩
  · match m with
    | [] => exact ⟨[], by simpa using ha.symm, by simpa using hd.symm⟩
    | e :: m =>
      have := e.utf8Size_pos
      rw [ha, size_append, size_cons] at hle
      omega

/-- Two splits of a text at the same place are the same. -/
lemma append_inj_of_size_eq {a b c d : Text} (h : a ++ b = c ++ d) (hsize : a.size = c.size) :
    a = c ∧ b = d := by
  obtain ⟨m, rfl, rfl⟩ := append_eq_append_of_size_le h (Nat.le_of_eq hsize)
  match m with
  | [] => simp
  | e :: m =>
    have := e.utf8Size_pos
    rw [size_append, size_cons] at hsize
    omega

end Text

namespace Edit

variable {offset : Nat} {t out : Text} {es : List Edit}

/-- Edits that replace pieces of a text, which starts at an offset, from left to right. The last
text is what comes out. -/
inductive Splices : Nat → Text → List Edit → Text → Prop where
  | nil (offset : Nat) (t : Text) : Splices offset t [] t
  | cons {offset : Nat} {kept old rest out : Text} {e : Edit} {es : List Edit}
      (hstart : e.span.start = offset + kept.size) (hstop : e.span.stop = e.span.start + old.size)
      (h : Splices e.span.stop rest es out) :
      Splices offset (kept ++ (old ++ rest)) (e :: es) (kept ++ (e.text ++ out))

lemma Splices.splice? (h : Splices offset t es out) : splice? offset t es = some out := by
  induction h with
  | nil => rfl
  | @cons offset kept old rest out e es hstart hstop h ih =>
    have hmax : max e.span.start offset = e.span.start := by omega
    have hmax' : max e.span.stop e.span.start = e.span.stop := by omega
    have hkept : e.span.start - offset = kept.size := by omega
    have hold : e.span.stop - e.span.start = old.size := by omega
    simp [Edit.splice?, hmax, hmax', hkept, hold, Text.cut?_append, ih]

/-- The edits stand in order behind the offset and do not overlap. -/
lemma Splices.ordered (h : Splices offset t es out) :
    es.Pairwise (fun a b => a.span.stop ≤ b.span.start) ∧
      ∀ e ∈ es, offset ≤ e.span.start ∧ e.span.start ≤ e.span.stop := by
  induction h with
  | nil => simp
  | @cons offset kept old rest out e es hstart hstop h ih =>
    obtain ⟨hpair, hle⟩ := ih
    refine ⟨List.pairwise_cons.mpr ⟨fun e' he' => (hle e' he').1, hpair⟩, ?_⟩
    intro e' he'
    rcases List.mem_cons.mp he' with rfl | he'
    · omega
    · have := hle e' he'
      omega

/-- Edits that splice are applied in the order they have. -/
lemma Splices.applyAll? (h : Splices 0 t es out) : applyAll? t es = some out := by
  obtain ⟨hpair, hle⟩ := h.ordered
  have hsorted : es.Pairwise fun a b => notAfter a b = true := by
    refine hpair.imp_of_mem ?_
    intro a b ha hb hab
    have := hle a ha
    have := hle b hb
    simp only [notAfter, Bool.or_eq_true, Bool.and_eq_true, decide_eq_true_eq, beq_iff_eq]
    omega
  rw [Edit.applyAll?, List.mergeSort_of_pairwise hsorted]
  exact h.splice?

end Edit

end Requote
