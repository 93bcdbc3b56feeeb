import Requote.Proofs.Literals

/-!
# Toggling again and again

Swapping the quotes of a literal takes one backslash away and puts another one in. An escaped quote
of the other kind is the only thing that does not come back: it has a backslash that it does not
need, and loses it for good. So the third literal is the first one again, and the second one is the
literal of the start unless there was such a backslash in it.
-/

namespace Requote

namespace Escape

variable {q : Quote} {a : Atom} {as : List Atom} {s : Text} {c : Char}

/-! ### Swapping the quotes of an atom twice -/

/-- An atom without the backslash in front of a character. -/
def bared (c : Char) : Atom → Atom
  | .escape d => if d = c then .plain d else .escape d
  | a         => a

/-- Swapping the quotes and swapping them back takes the backslash away that the other quote does
not need. -/
lemma swapped_swapped (h : a.Fits q.char) :
    swapped q.other (swapped q a) = bared q.other.char a := by
  have hne := q.char_ne_other
  cases a <;> grind [swapped, bared, Atom.Fits, Quote.other_other]

lemma swapped_bared (a : Atom) : swapped q (bared q.other.char a) = swapped q a := by
  have hne := q.char_ne_other
  cases a <;> grind [swapped, bared]

lemma map_bared_eq_self : as.map (bared c) = as ↔ .escape c ∉ as := by
  induction as with
  | nil => simp
  | cons a as ih => cases a <;> grind [bared]

/-! ### Swapping the quotes of a body -/

/-- A body whose quotes are swapped has the swapped atoms. -/
lemma convert_other (q : Quote) (s : Text) :
    convert (.normal q) (.normal q.other) s = Atom.spell ((Atom.read s).map (swapped q)) := by
  have hne : q ≠ q.other := by cases q <;> decide
  rw [convert, if_neg hne, swapQuotes_eq_spell]

lemma read_convert_other (h : ∀ a ∈ Atom.read s, a.Fits q.char) :
    Atom.read (convert (.normal q) (.normal q.other) s) = (Atom.read s).map (swapped q) := by
  rw [convert_other, Atom.read_spell (fits_map_swapped h)]

lemma read_convert_twice (h : ∀ a ∈ Atom.read s, a.Fits q.char) :
    Atom.read (convert (.normal q.other) (.normal q) (convert (.normal q) (.normal q.other) s))
      = (Atom.read s).map (bared q.other.char) := by
  have hread := read_convert_other h
  have hadmits := (Kind.admits_normal_iff.mpr h).convert (k := .normal q.other) (.inr rfl)
  have hback := read_convert_other (Kind.admits_normal_iff.mp hadmits)
  rw [Quote.other_other] at hback
  rw [hback, hread, List.map_map]
  exact List.map_congr_left fun a ha => swapped_swapped (h a ha)

/-- Swapping three times is swapping once. -/
lemma convert_thrice (h : ∀ a ∈ Atom.read s, a.Fits q.char) :
    convert (.normal q) (.normal q.other)
        (convert (.normal q.other) (.normal q) (convert (.normal q) (.normal q.other) s))
      = convert (.normal q) (.normal q.other) s := by
  rw [convert_other, read_convert_twice h, List.map_map, convert_other]
  congr 1
  exact List.map_congr_left fun a _ => swapped_bared a

/-- Swapping twice changes nothing exactly if the other quote is nowhere escaped. -/
lemma convert_twice_eq_self_iff (h : ∀ a ∈ Atom.read s, a.Fits q.char) :
    convert (.normal q.other) (.normal q) (convert (.normal q) (.normal q.other) s) = s ↔
      .escape q.other.char ∉ Atom.read s := by
  have hread := read_convert_twice h
  rw [← map_bared_eq_self, ← hread]
  constructor
  · intro heq
    rw [heq]
  · intro heq
    rw [← Atom.spell_read (convert _ _ _), heq, Atom.spell_read]

end Escape

namespace Command

variable {source : Text} {b : Body} {q : Quote}

/-- Toggling a quoted literal three times gives what toggling it once does. Toggling it twice gives
the text of the start exactly if the other quote is nowhere escaped in the literal. -/
theorem toggle_toggle (style : QuoteStyle) (hb : b ∈ Target.bodiesOf (Document.read source).targets)
    (hkind : b.kind = .normal q) (hterminated : b.isTerminated = true) :
    ∃ once twice, Command.toggle.convert style source (b.span.start + 1) = .ok once ∧
      Command.toggle.convert style once (b.span.start + 1) = .ok twice ∧
      Command.toggle.convert style twice (b.span.start + 1) = .ok once ∧
      (twice = source ↔ .escape q.other.char ∉ Atom.read b.text) := by
  obtain ⟨before, after, rfl, hbody, hholds⟩ :=
    Document.exists_holds (k := .normal q) hb (delimiters_of_kind hkind hterminated)
  have hstart : b.span.start = before.size := by rw [hbody, Kind.bodyAt]
  rw [hstart]
  have hfits := hholds.fits
  have hadmits := Kind.admits_normal_iff.mpr hfits
  have honce := hadmits.convert (k := .normal q.other) (.inr rfl)
  have htwice := honce.convert (k := .normal q) (.inr (by rw [Quote.other_other]))
  have hfirst := convert_of_holds style hholds (.toggle q)
  have hsecond := convert_of_holds style (hholds.replace honce) (.toggle q.other)
  have hthird := convert_of_holds style (hholds.replace htwice) (.toggle q)
  rw [Quote.other_other] at hsecond
  rw [Escape.convert_thrice hfits] at hthird
  refine ⟨_, _, hfirst, hsecond, hthird, ?_⟩
  rw [← Escape.convert_twice_eq_self_iff hfits]
  simp [Kind.wrap_normal]

/-- A literal in an interpolation, with a backslash that it does not need. -/
theorem toggle_toggle_escaped :
    Target.bodiesOf (Document.read "`$\x7b'\\\"'\x7d`".toList).targets
        = [⟨.template .backtick (some .interpolation), [], ⟨0, 3⟩⟩,
          ⟨.quoted .single true, "\\\"".toList, ⟨3, 7⟩⟩,
          ⟨.template .brace (some .backtick), [], ⟨7, 9⟩⟩] ∧
      ∃ once twice, Command.toggle.convert .infer "`$\x7b'\\\"'\x7d`".toList 4 = .ok once ∧
        Command.toggle.convert .infer once 4 = .ok twice ∧
        Command.toggle.convert .infer twice 4 = .ok once ∧
        (twice = "`$\x7b'\\\"'\x7d`".toList ↔
          .escape Quote.single.other.char ∉ Atom.read "\\\"".toList) := by
  have hbodies : Target.bodiesOf (Document.read "`$\x7b'\\\"'\x7d`".toList).targets
      = [⟨.template .backtick (some .interpolation), [], ⟨0, 3⟩⟩,
        ⟨.quoted .single true, "\\\"".toList, ⟨3, 7⟩⟩,
        ⟨.template .brace (some .backtick), [], ⟨7, 9⟩⟩] := by
    cbv
  have hb : (⟨.quoted .single true, "\\\"".toList, ⟨3, 7⟩⟩ : Body)
      ∈ Target.bodiesOf (Document.read "`$\x7b'\\\"'\x7d`".toList).targets := by
    rw [hbodies]
    exact List.mem_cons_of_mem _ List.mem_cons_self
  exact ⟨hbodies, toggle_toggle .infer hb rfl rfl⟩

end Command

end Requote
