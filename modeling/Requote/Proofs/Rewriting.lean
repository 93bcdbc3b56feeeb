import Requote.Proofs.Bodies

/-!
# What a body is rewritten to

A conversion puts atoms in the place of one or two atoms of a body. Swapping the quotes changes each
atom by itself. Between a quoted body and one of a template there is a relation for each direction,
with a case for everything that the conversion does. The atoms that are written can stand in a
literal of the new kind: what would end it too early is escaped, and no two neighbours in the new
body run together into something that would. So the new body, between the delimiters of its kind, is
read back as it was written.
-/

namespace Requote

namespace Escape

variable {q : Quote} {s : Text}

/-! ### Swapped quotes -/

/-- An atom of a body that changes from one quote to the other. -/
def swapped (q : Quote) : Atom → Atom
  | .escape c => if c = q.char then .plain c else .escape c
  | .plain c  => if c = q.other.char then .escape c else .plain c
  | a         => a

lemma swapAtom_eq_text (q : Quote) (a : Atom) :
    swapAtom q.char q.other.char a = (swapped q a).text := by
  cases a <;> simp only [swapAtom, swapped] <;> split <;> rfl

lemma swapQuotes_eq_spell (q : Quote) (s : Text) :
    swapQuotes q q.other s = Atom.spell ((Atom.read s).map (swapped q)) := by
  rw [swapQuotes, Atom.spell, List.flatMap_map]
  exact List.flatMap_congr fun a _ => swapAtom_eq_text q a

lemma fits_swapped {a : Atom} (h : a.Fits q.char) : (swapped q a).Fits q.other.char := by
  cases a with
  | plain c =>
    obtain ⟨hc, -, hterminator⟩ := h
    by_cases hother : c = q.other.char
    · simp [swapped, hother, Atom.Fits]
    · simpa [swapped, hother, Atom.Fits] using ⟨hc, hterminator⟩
  | escape c =>
    by_cases hquote : c = q.char
    · simpa [swapped, hquote, Atom.Fits] using
        ⟨q.char_ne (by decide), q.char_ne_other, q.not_isTerminator_char⟩
    · simp [swapped, hquote, Atom.Fits]
  | escapeReturnFeed => trivial
  | dangling => exact h

lemma fits_map_swapped {as : List Atom} (h : ∀ a ∈ as, a.Fits q.char) :
    ∀ b ∈ as.map (swapped q), b.Fits q.other.char := by
  intro b hb
  obtain ⟨a, ha, rfl⟩ := List.mem_map.mp hb
  exact fits_swapped (h a ha)

/-- A body whose quotes are swapped has the swapped atoms. -/
lemma read_swapQuotes (h : ∀ a ∈ Atom.read s, a.Fits q.char) :
    Atom.read (swapQuotes q q.other s) = (Atom.read s).map (swapped q) := by
  rw [swapQuotes_eq_spell, Atom.read_spell (fits_map_swapped h)]

/-- A body whose quotes are swapped ends at the other quote. -/
lemma readQuoted_swapQuotes (h : ∀ a ∈ Atom.read s, a.Fits q.char) (rest : Text) :
    Token.readQuoted q.other.char (swapQuotes q q.other s ++ q.other.char :: rest)
      = ⟨swapQuotes q q.other s, true, rest⟩ := by
  rw [swapQuotes_eq_spell]
  exact Atom.readQuoted_spell (fits_map_swapped h) rest

/-! ### From a quoted body to a template body -/

/-- The atoms of a quoted body and those that are written for them in a template. -/
inductive IntoTemplate : List Atom → List Atom → Prop where
  | nil : IntoTemplate [] []
  /-- An escaped line feed in front of a line continuation is a line break. -/
  | lineBreak {a : Atom} {newline : Text} {as bs : List Atom} (ha : continuation? a = some newline)
      (h : IntoTemplate as bs) : IntoTemplate (.escape 'n' :: a :: as) (newline.map .plain ++ bs)
  /-- The start of an interpolation gains a backslash. -/
  | interpolation {as bs : List Atom} (h : IntoTemplate as bs) :
      IntoTemplate (.plain '$' :: .plain '{' :: as) (.escape '$' :: .plain '{' :: bs)
  /-- So does a backtick. -/
  | tick {as bs : List Atom} (h : IntoTemplate as bs) :
      IntoTemplate (.plain '\x60' :: as) (.escape '\x60' :: bs)
  /-- A quote loses it. -/
  | quote (p : Quote) {as bs : List Atom} (h : IntoTemplate as bs) :
      IntoTemplate (.escape p.char :: as) (.plain p.char :: bs)
  /-- Everything else stays. -/
  | keep {a : Atom} {as bs : List Atom} (htick : a ≠ .plain '\x60')
      (hopens : ∀ b ∈ as.head?, ¬a.Opens b) (h : IntoTemplate as bs) :
      IntoTemplate (a :: as) (a :: bs)

lemma eq_of_continuation?_eq_some {a : Atom} {newline : Text} (h : continuation? a = some newline) :
    newline = ['\r', '\n'] ∨ newline = ['\n'] ∨ newline = ['\r'] := by
  revert h
  fun_cases continuation? a <;> simp_all

lemma exists_intoTemplate (as : List Atom) :
    ∃ bs, IntoTemplate as bs ∧ templateOfAtoms as = Atom.spell bs := by
  fun_induction templateOfAtoms as with
  | case1 => exact ⟨[], .nil, rfl⟩
  | case2 a as newline ha ih =>
    obtain ⟨bs, hbs, hwritten⟩ := ih
    refine ⟨_, .lineBreak ha hbs, ?_⟩
    rw [hwritten, Atom.spell_append, Atom.spell_map_plain]
  | case3 a as _ ih =>
    obtain ⟨bs, hbs, hwritten⟩ := ih
    exact ⟨_, .keep (by simp) (fun _ _ => id) hbs, by simp [hwritten, Atom.text]⟩
  | case4 as ih =>
    obtain ⟨bs, hbs, hwritten⟩ := ih
    exact ⟨_, .interpolation hbs, by simp [hwritten, Atom.text]⟩
  | case5 as ih =>
    obtain ⟨bs, hbs, hwritten⟩ := ih
    exact ⟨_, .tick hbs, by simp [hwritten, Atom.text]⟩
  | case6 as ih =>
    obtain ⟨bs, hbs, hwritten⟩ := ih
    exact ⟨_, .quote .single hbs, by simp [hwritten, Atom.text, Quote.char]⟩
  | case7 as ih =>
    obtain ⟨bs, hbs, hwritten⟩ := ih
    exact ⟨_, .quote .double hbs, by simp [hwritten, Atom.text, Quote.char]⟩
  | case8 a as _ hdollar htick _ _ ih =>
    obtain ⟨bs, hbs, hwritten⟩ := ih
    refine ⟨_, .keep htick ?_ hbs, by simp [hwritten]⟩
    intro b hb hopens
    obtain ⟨rfl, rfl⟩ := Atom.opens_iff.mp hopens
    obtain ⟨as', rfl⟩ := List.head?_eq_some_iff.mp hb
    exact hdollar as' rfl rfl

namespace IntoTemplate

variable {b : Atom} {as bs : List Atom}

/-- What comes first was first before, unless the conversion has written it. -/
lemma head?_eq (h : IntoTemplate as bs) (hb : bs.head? = some b) :
    as.head? = some b ∨ b ∈ [.plain '\r', .plain '\n', .escape '$', .escape '\x60'] ∨
      ∃ p : Quote, b = .plain p.char := by
  cases h with
  | nil => simp at hb
  | lineBreak ha h =>
    rcases eq_of_continuation?_eq_some ha with rfl | rfl | rfl <;>
      · obtain rfl : _ = b := by simpa using hb
        simp
  | interpolation h | tick h =>
    obtain rfl : _ = b := by simpa using hb
    simp
  | quote p h =>
    obtain rfl : _ = b := by simpa using hb
    exact .inr (.inr ⟨p, rfl⟩)
  | keep htick hopens h => exact .inl hb

/-- A brace is never written by the conversion. -/
lemma head?_brace (h : IntoTemplate as bs) (hb : b = .plain '{' ∨ b = .escape '{')
    (hhead : bs.head? = some b) : as.head? = some b := by
  rcases h.head?_eq hhead with hkept | hmem | ⟨p, rfl⟩
  · exact hkept
  · rcases hb with rfl | rfl <;> simp at hmem
  · have hbrace : p.char ≠ '{' := p.char_ne (by decide)
    simp [hbrace] at hb

lemma fitsTemplate (h : IntoTemplate as bs) (has : ∀ a ∈ as, a.Fits q.char) :
    ∀ b ∈ bs, b.FitsTemplate := by
  induction h with
  | nil => simp
  | lineBreak ha h ih =>
    have hbs := ih fun a ha => has a (by simp [ha])
    rcases eq_of_continuation?_eq_some ha with rfl | rfl | rfl <;>
      simpa [Atom.FitsTemplate] using hbs
  | interpolation h ih =>
    have hbs := ih fun a ha => has a (by simp [ha])
    simpa [Atom.FitsTemplate] using hbs
  | tick h ih =>
    have hbs := ih fun a ha => has a (by simp [ha])
    simpa [Atom.FitsTemplate] using hbs
  | quote p h ih =>
    have hbs := ih fun a ha => has a (by simp [ha])
    exact List.forall_mem_cons.mpr ⟨⟨p.char_ne (by decide), p.char_ne (by decide)⟩, hbs⟩
  | @keep a as bs htick hopens h ih =>
    obtain ⟨ha, has⟩ := List.forall_mem_cons.mp has
    refine List.forall_mem_cons.mpr ⟨?_, ih has⟩
    cases a with
    | plain c => exact ⟨ha.1, fun hc => htick (congrArg _ hc)⟩
    | escape c | escapeReturnFeed => trivial
    | dangling => exact ha

/-- No two neighbours start an interpolation: a dollar sign in front of a brace has stayed only if
the brace was not behind it before. -/
lemma isChain (h : IntoTemplate as bs) : bs.IsChain fun a b => ¬a.Opens b := by
  induction h with
  | nil => exact .nil
  | lineBreak ha h ih =>
    rcases eq_of_continuation?_eq_some ha with rfl | rfl | rfl <;>
      simpa [List.isChain_cons, Atom.opens_iff] using ih
  | interpolation h ih | tick h ih => simpa [List.isChain_cons, Atom.opens_iff] using ih
  | quote p h ih =>
    have hdollar : p.char ≠ '$' := p.char_ne (by decide)
    simpa [List.isChain_cons, Atom.opens_iff, hdollar] using ih
  | keep htick hopens h ih =>
    refine List.isChain_cons.mpr ⟨?_, ih⟩
    intro b hb hab
    obtain ⟨-, rfl⟩ := Atom.opens_iff.mp hab
    exact hopens _ (h.head?_brace (.inl rfl) hb) hab

end IntoTemplate

/-- A quoted body rewritten for a template ends at the backtick. -/
lemma readTemplate_templateOfNormal (h : ∀ a ∈ Atom.read s, a.Fits q.char) (rest : Text) :
    Token.readTemplate (templateOfNormal s ++ '\x60' :: rest)
      = ⟨templateOfNormal s, some .backtick, rest⟩ := by
  obtain ⟨bs, hbs, hwritten⟩ := exists_intoTemplate (Atom.read s)
  rw [templateOfNormal, hwritten]
  exact Atom.readTemplate_spell (hbs.fitsTemplate h) hbs.isChain .backtick rest

/-! ### From a template body to a quoted body -/

/-- The start of an interpolation in a template body, with one backslash or two. -/
inductive EscapesStart : Atom → Atom → Prop where
  | both   : EscapesStart (.escape '$') (.escape '{')
  | dollar : EscapesStart (.escape '$') (.plain '{')
  | brace  : EscapesStart (.plain '$') (.escape '{')

/-- The atoms of a template body and those that are written for them between two quotes. -/
inductive IntoQuoted (q : Quote) : List Atom → List Atom → Prop where
  | nil : IntoQuoted q [] []
  /-- A backtick loses its backslash. -/
  | tick {as bs : List Atom} (h : IntoQuoted q as bs) :
      IntoQuoted q (.escape '\x60' :: as) (.plain '\x60' :: bs)
  /-- So does the start of an interpolation. -/
  | interpolation {a b : Atom} {as bs : List Atom} (hab : EscapesStart a b)
      (h : IntoQuoted q as bs) :
      IntoQuoted q (a :: b :: as) (.plain '$' :: .plain '{' :: bs)
  /-- A line break is an escaped line feed in front of a line continuation. -/
  | lineBreak {a : Atom} {newline : Text} {as bs : List Atom} (ha : continuation? a = some newline)
      (hfeed : a = .escape '\r' → as.head? ≠ some (.plain '\n')) (h : IntoQuoted q as bs) :
      IntoQuoted q (newline.map .plain ++ as) (.escape 'n' :: a :: bs)
  /-- The quote gains a backslash. -/
  | quote {as bs : List Atom} (h : IntoQuoted q as bs) :
      IntoQuoted q (.plain q.char :: as) (.escape q.char :: bs)
  /-- Everything else stays. -/
  | keep {a : Atom} {as bs : List Atom} (ha : ∀ c, a = .plain c → c ≠ q.char ∧ c ≠ '\r' ∧ c ≠ '\n')
      (h : IntoQuoted q as bs) : IntoQuoted q (a :: as) (a :: bs)

lemma exists_intoQuoted (q : Quote) (as : List Atom) :
    ∃ bs, IntoQuoted q as bs ∧ normalOfAtoms q.char as = Atom.spell bs := by
  fun_induction normalOfAtoms q.char as with
  | case1 => exact ⟨[], .nil, rfl⟩
  | case2 as ih =>
    obtain ⟨bs, hbs, hwritten⟩ := ih
    exact ⟨_, .tick hbs, by simp [hwritten, Atom.text]⟩
  | case3 as ih =>
    obtain ⟨bs, hbs, hwritten⟩ := ih
    exact ⟨_, .interpolation .both hbs, by simp [hwritten, Atom.text]⟩
  | case4 as ih =>
    obtain ⟨bs, hbs, hwritten⟩ := ih
    exact ⟨_, .interpolation .dollar hbs, by simp [hwritten, Atom.text]⟩
  | case5 as ih =>
    obtain ⟨bs, hbs, hwritten⟩ := ih
    exact ⟨_, .interpolation .brace hbs, by simp [hwritten, Atom.text]⟩
  | case6 as ih =>
    obtain ⟨bs, hbs, hwritten⟩ := ih
    exact ⟨_, .lineBreak (a := .escapeReturnFeed) rfl (by simp) hbs, by simp [hwritten, Atom.text]⟩
  | case7 as hfeed ih =>
    obtain ⟨bs, hbs, hwritten⟩ := ih
    refine ⟨_, .lineBreak (a := .escape '\r') rfl (fun _ hhead => ?_) hbs,
      by simp [hwritten, Atom.text]⟩
    obtain ⟨as', rfl⟩ := List.head?_eq_some_iff.mp hhead
    exact hfeed as' rfl
  | case8 as ih =>
    obtain ⟨bs, hbs, hwritten⟩ := ih
    exact ⟨_, .lineBreak (a := .escape '\n') rfl (by simp) hbs, by simp [hwritten, Atom.text]⟩
  | case9 as _ _ _ _ ih =>
    obtain ⟨bs, hbs, hwritten⟩ := ih
    exact ⟨_, .quote hbs, by simp [hwritten, Atom.text]⟩
  | case10 c as _ _ hreturn hfeed hc ih =>
    obtain ⟨bs, hbs, hwritten⟩ := ih
    refine ⟨_, .keep ?_ hbs, by simp [hwritten, Atom.text]⟩
    rintro d ⟨⟩
    exact ⟨hc, hreturn, hfeed⟩
  | case11 a as _ _ _ _ _ _ _ hplain ih =>
    obtain ⟨bs, hbs, hwritten⟩ := ih
    exact ⟨_, .keep (fun c hc => absurd hc (hplain c)) hbs, by simp [hwritten]⟩

/-- The line separator and the paragraph separator, which end a quoted literal and which a template
may hold as they are. -/
def isSeparator (c : Char) : Bool :=
  c == '\u2028' || c == '\u2029'

/-- Whether an atom of a template can be written in a quoted body. -/
def Quotable : Atom → Prop
  | .plain c  => c ≠ '\\' ∧ isSeparator c = false
  | .dangling => False
  | _         => True

lemma not_isTerminator_of_not_isSeparator {c : Char} (hsep : isSeparator c = false)
    (hreturn : c ≠ '\r') (hfeed : c ≠ '\n') : Text.isTerminator c = false := by
  simp_all [isSeparator, Text.isTerminator]

namespace IntoQuoted

variable {b : Atom} {as bs : List Atom}

/-- What comes first was first before, unless the conversion has written it. -/
lemma head?_eq (h : IntoQuoted q as bs) (hb : bs.head? = some b) :
    as.head? = some b ∨ b ∈ [.plain '\x60', .plain '$', .escape 'n', .escape q.char] := by
  cases h with
  | nil => simp at hb
  | tick h | interpolation hab h | lineBreak ha hfeed h | quote h =>
    obtain rfl : _ = b := by simpa using hb
    simp
  | keep ha h => exact .inl hb

/-- No line feed is written, and none stays. -/
lemma head?_ne_feed (h : IntoQuoted q as bs) : bs.head? ≠ some (.plain '\n') := by
  cases h with
  | nil | tick h | interpolation hab h | lineBreak ha hfeed h | quote h => simp
  | keep ha h =>
    intro hb
    exact (ha '\n' (by simpa using hb)).2.2 rfl

lemma eq_nil (h : IntoQuoted q as bs) (has : as = []) : bs = [] := by
  cases h with
  | nil => rfl
  | lineBreak ha hfeed h =>
    rcases eq_of_continuation?_eq_some ha with rfl | rfl | rfl <;> simp at has
  | tick h | interpolation hab h | quote h | keep ha h => simp at has

/-- What is written can stand in a row, since no line feed in it is bare. -/
lemma isChain (h : IntoQuoted q as bs) (has : as.IsChain fun a _ => a ≠ .dangling) :
    bs.IsChain Atom.Precedes := by
  have hcons : ∀ {a : Atom} {as bs : List Atom}, IntoQuoted q as bs → a ≠ .dangling →
      bs.IsChain Atom.Precedes → (a :: bs).IsChain Atom.Precedes := by
    intro a as bs h ha hbs
    refine List.isChain_cons.mpr ⟨fun b hb => Atom.precedes_iff.mpr ⟨ha, ?_⟩, hbs⟩
    rintro ⟨-, rfl⟩
    exact h.head?_ne_feed hb
  induction h with
  | nil => exact .nil
  | tick h ih | quote h ih => exact hcons h (by simp) (ih has.tail)
  | interpolation hab h ih =>
    exact List.isChain_cons_cons.mpr ⟨trivial, hcons h (by simp) (ih has.tail.tail)⟩
  | lineBreak ha hfeed h ih =>
    have hbs := ih has.right_of_append
    refine List.isChain_cons_cons.mpr ⟨by simp [Atom.precedes_iff], hcons h ?_ hbs⟩
    rintro rfl
    simp [continuation?] at ha
  | @keep a as bs ha h ih =>
    by_cases hdangling : a = .dangling
    · -- nothing follows a backslash that escapes nothing
      subst hdangling
      cases as with
      | nil =>
        obtain rfl := h.eq_nil rfl
        exact .singleton _
      | cons b as => exact absurd rfl (List.isChain_cons_cons.mp has).1
    · exact hcons h hdangling (ih has.tail)

lemma not_mem_backslash (h : IntoQuoted q as bs) (has : .plain '\\' ∉ as) : .plain '\\' ∉ bs := by
  induction h with
  | nil => simp
  | tick h ih | quote h ih => simpa using ih fun hmem => has (by simp [hmem])
  | interpolation hab h ih => simpa using ih fun hmem => has (by simp [hmem])
  | lineBreak ha hfeed h ih =>
    have hbs := ih fun hmem => has (by simp [hmem])
    revert ha
    fun_cases continuation? <;> simp [hbs]
  | keep ha h ih =>
    exact List.not_mem_cons_of_ne_of_not_mem (List.ne_of_not_mem_cons has)
      (ih (List.not_mem_of_not_mem_cons has))

/-- What is written between two quotes is read back atom by atom. -/
lemma read_spell (h : IntoQuoted q as bs) (hdangling : as.IsChain fun a _ => a ≠ .dangling)
    (hslash : .plain '\\' ∉ as) : Atom.read (Atom.spell bs) = bs :=
  Atom.read_spell_of_isChain (h.isChain hdangling) (h.not_mem_backslash hslash)

lemma fits (h : IntoQuoted q as bs) (has : ∀ a ∈ as, Quotable a) : ∀ b ∈ bs, b.Fits q.char := by
  have htick : q.char ≠ '\x60' := q.char_ne (by decide)
  have hopen : q.char ≠ '$' ∧ q.char ≠ '{' := ⟨q.char_ne (by decide), q.char_ne (by decide)⟩
  induction h with
  | nil => simp
  | tick h ih =>
    have hbs := ih fun a ha => has a (by simp [ha])
    simpa [Atom.Fits, Text.isTerminator, htick.symm] using hbs
  | interpolation hab h ih =>
    have hbs := ih fun a ha => has a (by simp [ha])
    simpa [Atom.Fits, Text.isTerminator, hopen.1.symm, hopen.2.symm] using hbs
  | @lineBreak a as bs newline ha hfeed h ih =>
    have hbs := ih fun a ha => has a (by simp [ha])
    refine List.forall_mem_cons.mpr ⟨trivial, List.forall_mem_cons.mpr ⟨?_, hbs⟩⟩
    revert ha
    fun_cases continuation? a <;> simp [Atom.Fits]
  | quote h ih => exact List.forall_mem_cons.mpr ⟨trivial, ih fun a ha => has a (by simp [ha])⟩
  | @keep a as bs ha h ih =>
    obtain ⟨hquotable, has⟩ := List.forall_mem_cons.mp has
    refine List.forall_mem_cons.mpr ⟨?_, ih has⟩
    cases a with
    | plain c =>
      obtain ⟨hquote, hreturn, hfeed⟩ := ha c rfl
      exact ⟨hquotable.1, hquote, not_isTerminator_of_not_isSeparator hquotable.2 hreturn hfeed⟩
    | escape c | escapeReturnFeed => trivial
    | dangling => exact hquotable

end IntoQuoted

/-- Nothing that is written between two quotes starts with a line feed. -/
lemma head?_normalOfAtoms (q : Quote) (as : List Atom) :
    (normalOfAtoms q.char as).head? ≠ some '\n' := by
  obtain ⟨bs, hbs, hwritten⟩ := exists_intoQuoted q as
  rw [hwritten]
  exact fun hhead => hbs.head?_ne_feed (Atom.head?_spell (by decide) hhead)

/-- A template body rewritten for a quoted literal ends at the quote, unless it holds a bare
separator. A body of a template has no backslash without something to escape. -/
lemma readQuoted_normalOfTemplate {t body rest : Text} {cl : Closing}
    (h : Token.readTemplate t = ⟨body, some cl, rest⟩)
    (hsep : ∀ c, .plain c ∈ Atom.read body → isSeparator c = false) (rest' : Text) :
    Token.readQuoted q.char (normalOfTemplate q body ++ q.char :: rest')
      = ⟨normalOfTemplate q body, true, rest'⟩ := by
  obtain ⟨bs, hbs, hwritten⟩ := exists_intoQuoted q (Atom.read body)
  rw [normalOfTemplate, hwritten]
  apply Atom.readQuoted_spell (hbs.fits ?_)
  intro a ha
  cases a with
  | plain c => exact ⟨Atom.ne_backslash_of_plain_mem_read ha, hsep c ha⟩
  | escape c | escapeReturnFeed => trivial
  | dangling => exact absurd ha (Atom.dangling_not_mem_of_readTemplate h)

end Escape

end Requote
