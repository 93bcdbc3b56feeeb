import Requote.Proofs.Toggles
import Requote.Proofs.Values

/-!
# Swapping the quotes keeps the value

Between the two quotes only the backslashes in front of quotes change. What any other escape means
is left open here, so that a body keeps its value only if it keeps these escapes as they are
written.

The swap can be made along the characters, a backslash together with the one character behind it, or
along the atoms of the body. The two part for a moment behind an escaped carriage return with its
line feed, which is one atom: the line feed is no quote, and they meet again behind it.
-/

namespace Requote

/-- What a backslash in front of a character denotes, if only a line terminator and a quote give it
a meaning. -/
def Denoted.ofQuoted? (c : Char) : Option Denoted :=
  if Text.isTerminator c then
    none
  else if c ∈ ['\'', '"'] then
    some (char c)
  else
    some (escape c)

/-- What a unit of a value denotes once the escapes in it are looked into. -/
def Denoted.resolve : Denoted → List Denoted
  | char c   => [char c]
  | escape c => (ofEscape? c).toList

/-- The value of a quoted body up to the meaning of its escapes. -/
def quotedValue : Text → List Denoted
  | []                        => []
  | '\\' :: '\r' :: '\n' :: t => quotedValue t
  | '\\' :: c :: t            => (Denoted.ofQuoted? c).toList ++ quotedValue t
  | c :: t                    => .char c :: quotedValue t

/-! ### Atoms and values -/

namespace Atom

variable {q : Quote} {a : Atom}

/-- What an atom of a quoted body denotes up to the meaning of its escape. -/
def quoted : Atom → List Denoted
  | plain c          => [.char c]
  | escape c         => (Denoted.ofQuoted? c).toList
  | escapeReturnFeed => []
  | dangling         => [.char '\\']

lemma quotedValue_eq_flatMap (t : Text) : quotedValue t = (read t).flatMap quoted := by
  induction t using read_induction with
  | nil | dangling => rfl
  | returnFeed t ih =>
    rw [quotedValue, ih]
    rfl
  | escape c t hc ih =>
    rw [quotedValue, ih, read_escape hc]
    · rfl
    · rintro t' rfl rfl
      exact hc rfl rfl
  | plain c t hc ih =>
    rw [quotedValue, ih, read_plain hc]
    · rfl
    · intro t' h
      exact absurd h hc
    · intro c' t' h
      exact absurd h hc

lemma denoted_eq_flatMap_resolve (a : Atom) : a.denoted = a.quoted.flatMap Denoted.resolve := by
  cases a with
  | plain c | escapeReturnFeed | dangling => rfl
  | escape c =>
    by_cases hend : Text.isTerminator c = true
    · simp [denoted, quoted, Denoted.ofEscape?, Denoted.ofQuoted?, hend]
    · by_cases hquote : c ∈ ['\'', '"']
      · obtain rfl | rfl : c = '\'' ∨ c = '"' := by simpa using hquote
        all_goals rfl
      · simp [denoted, quoted, Denoted.ofQuoted?, Denoted.resolve, hend, hquote]

end Atom

/-- The value of a body is what its value up to the escapes resolves to. -/
lemma Kind.value_eq_flatMap_resolve (q : Quote) (t : Text) :
    (Kind.normal q).value t = (quotedValue t).flatMap Denoted.resolve := by
  rw [Atom.value_normal, Atom.quotedValue_eq_flatMap, List.flatMap_assoc]
  exact List.flatMap_congr fun a _ => a.denoted_eq_flatMap_resolve

namespace Escape

variable {q : Quote} {t body rest : Text}

/-! ### Along the characters -/

/-- The quotes of a body swapped along its characters: a backslash belongs to the one character
behind it, whichever that is. -/
def swapPairs (source target : Quote) : Text → Text
  | []             => []
  | '\\' :: c :: t =>
    (if c = source.char then [c] else ['\\', c]) ++ swapPairs source target t
  | c :: t         =>
    (if c = target.char then ['\\', c] else [c]) ++ swapPairs source target t

lemma swapPairs_plain {c : Char} (p q : Quote) (hc : c ≠ '\\') (t : Text) :
    swapPairs p q (c :: t) = (if c = q.char then ['\\', c] else [c]) ++ swapPairs p q t := by
  rw [swapPairs]
  intro c' t' h
  exact absurd h hc

/-- Swapping along the characters is swapping along the atoms. -/
lemma swapQuotes_eq_swapPairs (p q : Quote) (t : Text) : swapQuotes p q t = swapPairs p q t := by
  have hslash : q.char ≠ '\\' := q.char_ne (by decide)
  have hfeed : q.char ≠ '\n' := q.char_ne (by decide)
  have hreturn : p.char ≠ '\r' := p.char_ne (by decide)
  unfold swapQuotes
  induction t using Atom.read_induction with
  | nil => rfl
  | returnFeed t ih =>
    -- the line feed is by itself here, and it is no quote
    rw [swapPairs, if_neg hreturn.symm, swapPairs_plain p q (by decide), if_neg hfeed.symm, ← ih]
    rfl
  | escape c t hc ih =>
    rw [swapPairs, ← ih, Atom.read_escape hc]
    rfl
  | dangling =>
    rw [swapPairs, if_neg hslash.symm]
    · rfl
    · intro c' t' _ h
      cases h
  | plain c t hc ih =>
    rw [swapPairs_plain p q hc, ← ih, Atom.read_plain hc]
    rfl

/-! ### Atom by atom -/

/-- An atom of a body in `q` and the atom that stands for it in the other quote. -/
inductive Swaps (q : Quote) : Atom → Atom → Prop where
  /-- An escaped quote is bare now. -/
  | bare : Swaps q (.escape q.char) (.plain q.char)
  /-- The other quote is escaped now. -/
  | escape : Swaps q (.plain q.other.char) (.escape q.other.char)
  /-- Any other atom is as it was. -/
  | same {a : Atom} : a ≠ .escape q.char → a ≠ .plain q.other.char → Swaps q a a

lemma swaps_swapped (q : Quote) (a : Atom) : Swaps q a (swapped q a) := by
  cases a with
  | plain c =>
    by_cases hc : c = q.other.char
    · subst hc
      simpa [swapped] using Swaps.escape
    · simpa [swapped, hc] using Swaps.same (q := q) (a := .plain c) (by simp) (by simp [hc])
  | escape c =>
    by_cases hc : c = q.char
    · subst hc
      simpa [swapped] using Swaps.bare
    · simpa [swapped, hc] using Swaps.same (q := q) (a := .escape c) (by simp [hc]) (by simp)
  | escapeReturnFeed | dangling => exact .same (by simp) (by simp)

/-- An escaped quote denotes the bare one. -/
lemma quoted_escape_quote (q : Quote) : (Atom.escape q.char).quoted = [.char q.char] := by
  cases q <;> rfl

lemma Swaps.quoted_eq {a b : Atom} (h : Swaps q a b) : b.quoted = a.quoted := by
  cases h with
  | bare => exact (quoted_escape_quote q).symm
  | escape => exact quoted_escape_quote q.other
  | same => rfl

/-- Swapping the quotes of a body keeps its value up to the escapes. -/
lemma quotedValue_swapQuotes (h : ∀ a ∈ Atom.read body, a.Fits q.char) :
    quotedValue (swapQuotes q q.other body) = quotedValue body := by
  rw [Atom.quotedValue_eq_flatMap, Atom.quotedValue_eq_flatMap, read_swapQuotes h, List.flatMap_map]
  exact List.flatMap_congr fun a _ => (swaps_swapped q a).quoted_eq

/-- Whatever the escapes mean that are left open, swapping the quotes keeps it. -/
theorem value_swapQuotes (h : Token.readQuoted q.char t = ⟨body, true, rest⟩) :
    (Kind.normal q.other).value (swapQuotes q q.other body) = (Kind.normal q).value body := by
  rw [Kind.value_eq_flatMap_resolve, quotedValue_swapQuotes (Atom.fits_of_readQuoted h),
    ← Kind.value_eq_flatMap_resolve]

/-- A quoted body with its quotes swapped, along the characters or along the atoms, keeps its value.
It has as many atoms as before, and only escaped quotes and bare other quotes among them change. -/
theorem swaps_swapQuotes (h : Token.readQuoted q.char t = ⟨body, true, rest⟩) :
    swapQuotes q q.other body = swapPairs q q.other body ∧
      quotedValue (swapQuotes q q.other body) = quotedValue body ∧
      List.Forall₂ (Swaps q) (Atom.read body) (Atom.read (swapQuotes q q.other body)) := by
  have hfits := Atom.fits_of_readQuoted h
  refine ⟨swapQuotes_eq_swapPairs q q.other body, quotedValue_swapQuotes hfits, ?_⟩
  rw [read_swapQuotes hfits, List.forall₂_map_right_iff, List.forall₂_same]
  intro a _
  exact swaps_swapped q a

/-- Quotes of both kinds behind one, two and three backslashes, and a line continuation between
them. -/
theorem swaps_swapQuotes_continuation :
    Token.readQuoted '\'' "\\'\"\\\\\"\\\r\n\\\\\\'\\n'".toList
        = ⟨"\\'\"\\\\\"\\\r\n\\\\\\'\\n".toList, true, []⟩ ∧
      swapQuotes .single .double "\\'\"\\\\\"\\\r\n\\\\\\'\\n".toList
        = swapPairs .single .double "\\'\"\\\\\"\\\r\n\\\\\\'\\n".toList ∧
      quotedValue (swapQuotes .single .double "\\'\"\\\\\"\\\r\n\\\\\\'\\n".toList)
        = quotedValue "\\'\"\\\\\"\\\r\n\\\\\\'\\n".toList ∧
      List.Forall₂ (Swaps .single) (Atom.read "\\'\"\\\\\"\\\r\n\\\\\\'\\n".toList)
        (Atom.read (swapQuotes .single .double "\\'\"\\\\\"\\\r\n\\\\\\'\\n".toList)) := by
  have h : Token.readQuoted '\'' "\\'\"\\\\\"\\\r\n\\\\\\'\\n'".toList
      = ⟨"\\'\"\\\\\"\\\r\n\\\\\\'\\n".toList, true, []⟩ := by
    cbv
  exact ⟨h, swaps_swapQuotes (q := .single) h⟩

end Escape

end Requote
