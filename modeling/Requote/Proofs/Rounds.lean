import Requote.Proofs.Literals
import Requote.Proofs.Values

/-!
# To a template and back

Turning a quoted literal into a template and back takes backslashes away that neither needs, writes
the start of an interpolation without one, and joins an escaped carriage return with an escaped line
feed that comes to stand right behind it. What is left can be turned over and over again and stays
the same.
-/

namespace Requote

namespace Escape

variable {q : Quote} {as l : List Atom} {c : Char} {t : Text} {a : Atom}

/-! ### The way there -/

lemma templateOfAtoms_escape (hsingle : c ≠ '\'') (hdouble : c ≠ '"')
    (hn : c = 'n' → ∀ a ∈ as.head?, continuation? a = none) :
    templateOfAtoms (.escape c :: as) = '\\' :: c :: templateOfAtoms as := by
  by_cases hc : c = 'n'
  · subst hc
    cases as with
    | nil => rfl
    | cons a as => simp [templateOfAtoms, hn rfl a rfl]
  · rw [templateOfAtoms] <;> simp_all [Atom.text]

lemma templateOfAtoms_plain (htick : c ≠ '\x60')
    (hdollar : c = '$' → as.head? ≠ some (.plain '{')) :
    templateOfAtoms (.plain c :: as) = c :: templateOfAtoms as := by
  rw [templateOfAtoms]
  · rfl
  · simp
  · rintro as' heq rfl
    exact hdollar (Atom.plain.inj heq) rfl
  · simpa using htick
  · simp
  · simp

lemma templateOfAtoms_quote (p : Quote) (as : List Atom) :
    templateOfAtoms (.escape p.char :: as) = p.char :: templateOfAtoms as := by
  cases p <;> rfl

/-- A brace of a template comes from one of the quoted body. -/
lemma head?_read_templateOfAtoms (h : ∀ a ∈ as, a.Fits q.char)
    (ha : a = .plain '{' ∨ a = .escape '{')
    (hhead : (Atom.read (templateOfAtoms as)).head? = some a) : as.head? = some a := by
  obtain ⟨bs, hbs, hwritten⟩ := exists_intoTemplate as
  rw [hwritten] at hhead
  apply hbs.head?_brace ha
  apply Atom.head?_of_head?_read_spell (hbs.fitsTemplate h) _ hhead
  rintro rfl
  simp at ha

/-! ### The way back -/

lemma normalOfAtoms_escape (htick : c ≠ '\x60')
    (hescape : c = '$' → l.head? ≠ some (.escape '{'))
    (hplain : c = '$' → l.head? ≠ some (.plain '{')) :
    normalOfAtoms q.char (.escape c :: l) = '\\' :: c :: normalOfAtoms q.char l := by
  rw [normalOfAtoms]
  · rfl
  · simpa using htick
  · rintro l' heq rfl
    exact hescape (Atom.escape.inj heq) rfl
  · rintro l' heq rfl
    exact hplain (Atom.escape.inj heq) rfl
  all_goals simp

lemma normalOfAtoms_plain (hreturn : c ≠ '\r') (hfeed : c ≠ '\n')
    (hdollar : c = '$' → l.head? ≠ some (.escape '{')) :
    normalOfAtoms q.char (.plain c :: l)
      = (if c = q.char then ['\\', c] else [c]) ++ normalOfAtoms q.char l := by
  rw [normalOfAtoms]
  · split <;> rfl
  · rintro l' rfl rfl
    exact hdollar rfl rfl
  · rintro l' - hc
    exact hreturn hc
  · exact hreturn
  · exact hfeed

/-- A line break becomes an escaped line feed in front of the line continuation that it is with a
backslash. -/
lemma normalOfTemplate_continuation {newline : Text} (h : continuation? a = some newline) :
    normalOfTemplate q (newline ++ t) = '\\' :: 'n' :: normalOfTemplate q (a.text ++ t) := by
  revert h
  fun_cases continuation? a with
  | case1 =>
    rintro ⟨⟩
    simp [normalOfTemplate, Atom.text, Atom.read_plain, Atom.read, normalOfAtoms]
  | case2 =>
    rintro ⟨⟩
    simp [normalOfTemplate, Atom.text, Atom.read_plain, Atom.read_escape, normalOfAtoms]
  | case3 =>
    rintro ⟨⟩
    by_cases hfeed : t.head? = some '\n'
    · obtain ⟨t, rfl⟩ := List.head?_eq_some_iff.mp hfeed
      simp [normalOfTemplate, Atom.text, Atom.read_plain, Atom.read, normalOfAtoms]
    · have hread : (Atom.read t).head? ≠ some (.plain '\n') := by
        intro hhead
        have htext := Atom.head?_read t _ hhead
        exact hfeed htext.symm
      simp only [normalOfTemplate, Atom.text, List.cons_append, List.nil_append]
      rw [Atom.read_plain (by decide), Atom.read_escape fun _ => hfeed,
        normalOfAtoms_escape (by decide) (by simp) (by simp), normalOfAtoms]
      · rfl
      · rintro l heq
        simp [heq] at hread
  | case4 => simp

lemma normalOfTemplate_plain (hslash : c ≠ '\\') (hreturn : c ≠ '\r') (hfeed : c ≠ '\n')
    (hdollar : c = '$' → (Atom.read t).head? ≠ some (.escape '{')) :
    normalOfTemplate q (c :: t)
      = (if c = q.char then ['\\', c] else [c]) ++ normalOfTemplate q t := by
  rw [normalOfTemplate, Atom.read_plain hslash, normalOfAtoms_plain hreturn hfeed hdollar,
    normalOfTemplate]

lemma normalOfTemplate_quote (p q : Quote) (t : Text) :
    normalOfTemplate q (p.char :: t)
      = (if p.char = q.char then ['\\', p.char] else [p.char]) ++ normalOfTemplate q t := by
  have hdollar : p.char ≠ '$' := p.char_ne (by decide)
  exact normalOfTemplate_plain (p.char_ne (by decide)) (p.char_ne (by decide))
    (p.char_ne (by decide)) fun hc => absurd hc hdollar

lemma normalOfTemplate_tick (t : Text) :
    normalOfTemplate q ('\\' :: '\x60' :: t) = '\x60' :: normalOfTemplate q t := by
  rw [normalOfTemplate, Atom.read_escape (by simp), normalOfAtoms, normalOfTemplate]

/-- An escaped start of an interpolation stays as it is in a template. -/
lemma templateOfAtoms_start {b : Atom} (h : EscapesStart a b) (as : List Atom) :
    templateOfAtoms (a :: b :: as) = a.text ++ (b.text ++ templateOfAtoms as) := by
  cases h with
  | both =>
    rw [templateOfAtoms_escape (by decide) (by decide) (by simp),
      templateOfAtoms_escape (by decide) (by decide) (by simp)]
    rfl
  | dollar =>
    rw [templateOfAtoms_escape (by decide) (by decide) (by simp),
      templateOfAtoms_plain (by decide) (by simp)]
    rfl
  | brace =>
    rw [templateOfAtoms_plain (by decide) (by simp),
      templateOfAtoms_escape (by decide) (by decide) (by simp)]
    rfl

/-- It becomes bare in a quoted body. -/
lemma normalOfTemplate_start {b : Atom} (h : EscapesStart a b) (t : Text) :
    normalOfTemplate q (a.text ++ (b.text ++ t)) = '$' :: '{' :: normalOfTemplate q t := by
  cases h with
  | both =>
    simp only [Atom.text, List.cons_append, List.nil_append, normalOfTemplate]
    rw [Atom.read_escape (by simp), Atom.read_escape (by simp)]
    rfl
  | dollar =>
    simp only [Atom.text, List.cons_append, List.nil_append, normalOfTemplate]
    rw [Atom.read_escape (by simp), Atom.read_plain (by decide)]
    rfl
  | brace =>
    simp only [Atom.text, List.cons_append, List.nil_append, normalOfTemplate]
    rw [Atom.read_plain (by decide), Atom.read_escape (by simp)]
    rfl

/-! ### There and back -/

/-- The atoms of a quoted body that was turned into a template and back. -/
def settle (q : Quote) : List Atom → List Atom
  | [] => []
  | .escape '\r' :: .escape 'n' :: .escape '\n' :: as => .escapeReturnFeed :: settle q as
  | .escape '$' :: .escape '{' :: as => .plain '$' :: .plain '{' :: settle q as
  | .escape '$' :: .plain '{' :: as  => .plain '$' :: .plain '{' :: settle q as
  | .plain '$' :: .escape '{' :: as  => .plain '$' :: .plain '{' :: settle q as
  | .escape c :: as =>
    (if c = '\x60' ∨ c = q.other.char then .plain c else .escape c) :: settle q as
  | a :: as => a :: settle q as

/-- Whether the escape of a character has nothing to do with what follows: it starts no
interpolation, and takes no line feed away. -/
structure StandsAlone (c : Char) (as : List Atom) : Prop where
  feed        : c = '\r' → ¬[.escape 'n', .escape '\n'] <+: as
  escapeBrace : c = '$' → as.head? ≠ some (.escape '{')
  plainBrace  : c = '$' → as.head? ≠ some (.plain '{')

lemma standsAlone_of_ne (hfeed : ∀ as', as = .escape 'n' :: .escape '\n' :: as' → c = '\r' → False)
    (hescape : ∀ as', as = .escape '{' :: as' → c = '$' → False)
    (hplain : ∀ as', as = .plain '{' :: as' → c = '$' → False) : StandsAlone c as where
  feed := by
    rintro hc ⟨as', rfl⟩
    exact hfeed as' rfl hc
  escapeBrace := by
    rintro hc hhead
    obtain ⟨as', rfl⟩ := List.head?_eq_some_iff.mp hhead
    exact hescape as' rfl hc
  plainBrace := by
    rintro hc hhead
    obtain ⟨as', rfl⟩ := List.head?_eq_some_iff.mp hhead
    exact hplain as' rfl hc

/-- An escape that neither quote nor backtick nor the start of an interpolation takes part in comes
back as it was. -/
lemma normalOfTemplate_escape (h : ∀ a ∈ as, a.Fits q.char)
    (hsingle : c ≠ '\'') (hdouble : c ≠ '"') (htick : c ≠ '\x60') (halone : StandsAlone c as) :
    normalOfTemplate q (templateOfAtoms (.escape c :: as))
      = '\\' :: c :: normalOfTemplate q (templateOfAtoms as) := by
  by_cases hbreak : c = 'n' ∧ ∃ a ∈ as.head?, continuation? a ≠ none
  · obtain ⟨rfl, a, hhead, ha⟩ := hbreak
    obtain ⟨as, rfl⟩ := List.head?_eq_some_iff.mp hhead
    obtain ⟨newline, ha⟩ := Option.ne_none_iff_exists'.mp ha
    have htemplate : templateOfAtoms (.escape 'n' :: a :: as) = newline ++ templateOfAtoms as := by
      simp [templateOfAtoms, ha]
    rw [htemplate, normalOfTemplate_continuation ha, templateOfAtoms_continuation ha]
  · have hn : c = 'n' → ∀ a ∈ as.head?, continuation? a = none := by
      intro hc a ha
      by_contra hne
      exact hbreak ⟨hc, a, ha, hne⟩
    have hfeed : c = '\r' → (templateOfAtoms as).head? ≠ some '\n' := fun hc hhead =>
      halone.feed hc ((head?_templateOfAtoms_eq_feed h).mp hhead)
    rw [templateOfAtoms_escape hsingle hdouble hn, normalOfTemplate, Atom.read_escape hfeed,
      normalOfAtoms_escape htick, normalOfTemplate]
    · exact fun hc hhead => halone.escapeBrace hc (head?_read_templateOfAtoms h (.inr rfl) hhead)
    · exact fun hc hhead => halone.plainBrace hc (head?_read_templateOfAtoms h (.inl rfl) hhead)

/-- A quote or a backtick comes back without a backslash that it does not need. -/
lemma normalOfTemplate_escapeAtom (h : ∀ a ∈ as, a.Fits q.char) (halone : StandsAlone c as) :
    normalOfTemplate q (templateOfAtoms (.escape c :: as))
      = (if c = '\x60' ∨ c = q.other.char then Atom.plain c else .escape c).text
        ++ normalOfTemplate q (templateOfAtoms as) := by
  have hne := q.char_ne_other
  have htick : q.char ≠ '\x60' := q.char_ne (by decide)
  by_cases hother : c = q.other.char
  · rw [hother, templateOfAtoms_quote, normalOfTemplate_quote, if_neg hne.symm, if_pos (.inr rfl)]
    rfl
  · by_cases hown : c = q.char
    · rw [hown, templateOfAtoms_quote, normalOfTemplate_quote, if_pos rfl,
        if_neg (not_or.mpr ⟨htick, hne⟩)]
      rfl
    · have hquotes : c ≠ '\'' ∧ c ≠ '"' := by cases q <;> simp_all [Quote.char, Quote.other]
      by_cases hc : c = '\x60'
      · rw [templateOfAtoms_escape hquotes.1 hquotes.2 (by simp [hc]), hc, normalOfTemplate_tick,
          if_pos (.inl rfl)]
        rfl
      · rw [if_neg (not_or.mpr ⟨hc, hother⟩),
          normalOfTemplate_escape h hquotes.1 hquotes.2 hc halone]
        rfl

/-- A character comes back as it was, unless the start of an interpolation is made of it. -/
lemma normalOfTemplate_plainAtom (h : ∀ a ∈ as, a.Fits q.char)
    (hslash : c ≠ '\\') (hquote : c ≠ q.char) (hend : Text.isTerminator c = false)
    (hdollar : c = '$' → as.head? ≠ some (.escape '{')) :
    normalOfTemplate q (templateOfAtoms (.plain c :: as))
      = c :: normalOfTemplate q (templateOfAtoms as) := by
  by_cases htick : c = '\x60'
  · subst htick
    rw [templateOfAtoms]
    exact normalOfTemplate_tick _
  · by_cases hopen : c = '$' ∧ as.head? = some (.plain '{')
    · obtain ⟨rfl, hhead⟩ := hopen
      obtain ⟨as, rfl⟩ := List.head?_eq_some_iff.mp hhead
      obtain ⟨-, hbrace, -⟩ := h _ List.mem_cons_self
      rw [templateOfAtoms, templateOfAtoms_plain (by decide) (by simp),
        normalOfTemplate_plain (by decide) (by decide) (by decide) (by simp), if_neg hbrace]
      exact normalOfTemplate_start .dollar (templateOfAtoms as)
    · have hreturn : c ≠ '\r' := by
        rintro rfl
        simp [Text.isTerminator] at hend
      have hfeed : c ≠ '\n' := by
        rintro rfl
        simp [Text.isTerminator] at hend
      rw [templateOfAtoms_plain htick fun hc hhead => hopen ⟨hc, hhead⟩,
        normalOfTemplate_plain hslash hreturn hfeed, if_neg hquote]
      · rfl
      · exact fun hc hhead => hdollar hc (head?_read_templateOfAtoms h (.inr rfl) hhead)

lemma normalOfTemplate_templateOfAtoms (h : ∀ a ∈ as, a.Fits q.char) :
    normalOfTemplate q (templateOfAtoms as) = Atom.spell (settle q as) := by
  fun_induction settle q as with
  | case1 => rfl
  | case2 as ih =>
    have has := ih fun a ha => h a (by simp [ha])
    have htemplate : templateOfAtoms (.escape '\r' :: .escape 'n' :: .escape '\n' :: as)
        = '\\' :: '\r' :: '\n' :: templateOfAtoms as := by
      simp [templateOfAtoms, continuation?, Atom.text]
    rw [htemplate, Atom.spell_cons, ← has]
    simp [normalOfTemplate, Atom.read, normalOfAtoms, Atom.text]
  | case3 as ih =>
    rw [templateOfAtoms_start .both, normalOfTemplate_start .both,
      ih fun a ha => h a (by simp [ha])]
    rfl
  | case4 as ih =>
    rw [templateOfAtoms_start .dollar, normalOfTemplate_start .dollar,
      ih fun a ha => h a (by simp [ha])]
    rfl
  | case5 as ih =>
    rw [templateOfAtoms_start .brace, normalOfTemplate_start .brace,
      ih fun a ha => h a (by simp [ha])]
    rfl
  | case6 c as hrun hescape hplain ih =>
    have hfits : ∀ a ∈ as, a.Fits q.char := fun a ha => h a (by simp [ha])
    rw [Atom.spell_cons, ← ih hfits]
    exact normalOfTemplate_escapeAtom hfits (standsAlone_of_ne hrun hescape hplain)
  | case7 a as hrun hescape hplain hplain' hnot ih =>
    have hfits : ∀ a ∈ as, a.Fits q.char := fun a ha => h a (by simp [ha])
    have has := ih hfits
    rw [Atom.spell_cons, ← has]
    have ha := h a List.mem_cons_self
    cases a with
    | plain c =>
      obtain ⟨hslash, hquote, hend⟩ := ha
      have hdollar : c = '$' → as.head? ≠ some (.escape '{') := by
        rintro rfl hhead
        obtain ⟨as', rfl⟩ := List.head?_eq_some_iff.mp hhead
        exact hplain' as' rfl rfl
      exact normalOfTemplate_plainAtom hfits hslash hquote hend hdollar
    | escape c => exact absurd rfl (hnot c)
    | escapeReturnFeed =>
      simp [templateOfAtoms, normalOfTemplate, Atom.read, normalOfAtoms, Atom.text]
    | dangling => exact absurd ha id

/-! ### What is left does not change any more -/

lemma fits_settle (h : ∀ a ∈ as, a.Fits q.char) : ∀ a ∈ settle q as, a.Fits q.char := by
  have hdollar : (Atom.plain '$').Fits q.char := by
    cases q <;> simp [Atom.Fits, Quote.char, Text.isTerminator]
  have hbrace : (Atom.plain '{').Fits q.char := by
    cases q <;> simp [Atom.Fits, Quote.char, Text.isTerminator]
  have hbare : ∀ c, c = '\x60' ∨ c = q.other.char → (Atom.plain c).Fits q.char := by
    rintro c (rfl | rfl) <;> cases q <;>
      simp [Atom.Fits, Quote.char, Quote.other, Text.isTerminator]
  fun_induction settle q as with
  | case1 => simp
  | case2 as ih =>
    have has := ih fun a ha => h a (by simp [ha])
    exact List.forall_mem_cons.mpr ⟨trivial, has⟩
  | case3 as ih | case4 as ih | case5 as ih =>
    have has := ih fun a ha => h a (by simp [ha])
    exact List.forall_mem_cons.mpr ⟨hdollar, List.forall_mem_cons.mpr ⟨hbrace, has⟩⟩
  | case6 c as _ _ _ ih =>
    have has := ih fun a ha => h a (by simp [ha])
    refine List.forall_mem_cons.mpr ⟨?_, has⟩
    split
    · exact hbare c ‹_›
    · trivial
  | case7 a as _ _ _ _ _ ih =>
    obtain ⟨ha, has⟩ := List.forall_mem_cons.mp h
    exact List.forall_mem_cons.mpr ⟨ha, ih has⟩

/-- What comes first was first before, unless it is what an escape turns into that nobody needs. -/
lemma head?_settle (h : (settle q as).head? = some a) : as.head? = some a ∨ a = .escapeReturnFeed ∨
    ∃ c, a = .plain c ∧ (c = '$' ∨ c = '\x60' ∨ c = q.other.char) := by
  revert h
  fun_cases settle q as with
  | case1 => simp
  | case2 | case3 | case4 | case5 =>
    rintro ⟨⟩
    simp
  | case6 c as =>
    split
    · rename_i hc
      rintro ⟨⟩
      exact .inr (.inr ⟨c, rfl, .inr hc⟩)
    · exact .inl
  | case7 a as => exact .inl

lemma head?_settle_escape (h : (settle q as).head? = some (.escape c)) :
    as.head? = some (.escape c) := by
  simpa using head?_settle h

lemma head?_settle_brace (h : (settle q as).head? = some (.plain '{')) :
    as.head? = some (.plain '{') := by
  rcases head?_settle h with h | h | ⟨c, hc, hother⟩
  · exact h
  · simp at h
  · obtain rfl := Atom.plain.inj hc
    cases q <;> simp [Quote.other, Quote.char] at hother

lemma settle_plain (hdollar : c = '$' → as.head? ≠ some (.escape '{')) :
    settle q (.plain c :: as) = .plain c :: settle q as := by
  rw [settle]
  · simp
  · simp
  · simp
  · rintro as' heq rfl
    exact hdollar (Atom.plain.inj heq) rfl
  · simp

lemma settle_escape (htick : c ≠ '\x60') (hother : c ≠ q.other.char) (halone : StandsAlone c as) :
    settle q (.escape c :: as) = .escape c :: settle q as := by
  rw [settle, if_neg (not_or.mpr ⟨htick, hother⟩)]
  · rintro as' rfl rfl
    exact halone.feed rfl (List.prefix_append _ as')
  · rintro as' rfl rfl
    exact halone.escapeBrace rfl rfl
  · rintro as' rfl rfl
    exact halone.plainBrace rfl rfl

/-- An escaped line feed in front of an escaped line break was one before. -/
lemma prefix_settle (h : [.escape 'n', .escape '\n'] <+: settle q as) :
    [.escape 'n', .escape '\n'] <+: as := by
  have hhead : (settle q as).head? = some (.escape 'n') := by
    obtain ⟨l, hl⟩ := h
    simp [← hl]
  obtain ⟨as, rfl⟩ := List.head?_eq_some_iff.mp (head?_settle_escape hhead)
  have hother : 'n' ≠ q.other.char := by cases q <;> decide
  rw [settle_escape (by decide) hother ⟨by simp, by simp, by simp⟩] at h
  have hnext : (settle q as).head? = some (.escape '\n') := by
    obtain ⟨l, hl⟩ := (List.cons_prefix_cons.mp h).2
    simp [← hl]
  obtain ⟨as, rfl⟩ := List.head?_eq_some_iff.mp (head?_settle_escape hnext)
  exact ⟨as, rfl⟩

lemma StandsAlone.settle (h : StandsAlone c as) : StandsAlone c (settle q as) where
  feed hc hprefix := h.feed hc (prefix_settle hprefix)
  escapeBrace hc hhead := h.escapeBrace hc (head?_settle_escape hhead)
  plainBrace hc hhead := h.plainBrace hc (head?_settle_brace hhead)

lemma settle_settle (q : Quote) (as : List Atom) : settle q (settle q as) = settle q as := by
  fun_induction settle q as with
  | case1 => rfl
  | case2 as ih => simp [settle, ih]
  | case3 as ih | case4 as ih | case5 as ih =>
    rw [settle_plain (by simp), settle_plain (by simp), ih]
  | case6 c as hrun hescape hplain ih =>
    split
    · rename_i hc
      rw [settle_plain, ih]
      rcases hc with rfl | rfl <;> cases q <;> simp [Quote.char, Quote.other]
    · rename_i hc
      obtain ⟨hctick, hcother⟩ := not_or.mp hc
      rw [settle_escape hctick hcother (standsAlone_of_ne hrun hescape hplain).settle, ih]
  | case7 a as hrun hescape hplain hplain' hnot ih =>
    cases a with
    | plain c =>
      rw [settle_plain, ih]
      rintro rfl h
      obtain ⟨as', rfl⟩ := List.head?_eq_some_iff.mp (head?_settle_escape h)
      exact hplain' as' rfl rfl
    | escape c => exact absurd rfl (hnot c)
    | escapeReturnFeed | dangling => simp [settle, ih]

/-- A quoted body that was turned into a template and back. -/
lemma convert_round {s : Text} (h : ∀ a ∈ Atom.read s, a.Fits q.char) :
    convert .template (.normal q) (convert (.normal q) .template s)
      = Atom.spell (settle q (Atom.read s)) :=
  normalOfTemplate_templateOfAtoms h

/-- A quoted body that was turned into a template and back can stand between the quotes again. -/
lemma admits_convert_round {s : Text} (h : ∀ a ∈ Atom.read s, a.Fits q.char) :
    (Kind.normal q).Admits (convert .template (.normal q) (convert (.normal q) .template s)) := by
  have hsettle := fits_settle h
  rw [Kind.admits_normal_iff, convert_round h, Atom.read_spell hsettle]
  exact hsettle

/-- Turning a quoted body into a template and back a second time changes nothing. -/
lemma convert_round_round {s : Text} (h : ∀ a ∈ Atom.read s, a.Fits q.char) :
    convert .template (.normal q) (convert (.normal q) .template
        (convert .template (.normal q) (convert (.normal q) .template s)))
      = convert .template (.normal q) (convert (.normal q) .template s) := by
  rw [convert_round (Kind.admits_normal_iff.mp (admits_convert_round h)), convert_round h,
    Atom.read_spell (fits_settle h), settle_settle]

end Escape

namespace QuoteStyle

/-- The style that always takes the same quote. -/
def ofQuote : Quote → QuoteStyle
  | .single => .single
  | .double => .double

@[simp]
lemma resolve_ofQuote (q : Quote) (suggested : Kind) :
    (ofQuote q).resolve suggested = .normal q := by
  cases q <;> rfl

end QuoteStyle

namespace Command

variable {source : Text} {b : Body} {q : Quote}

/-- The source text after a literal at a cursor was turned into a template and back. -/
def round (style : QuoteStyle) (q : Quote) (source : Text) (offset : Nat) :
    Except Failure Text := do
  let template ← toTemplate.convert style source offset
  toNormal.convert (.ofQuote q) template offset

/-- A quoted literal of any document can be turned into a template and back. Only the literal
changes, it is still one with the same quotes, and doing the same once more changes nothing. -/
theorem round_round (style : QuoteStyle) (hb : b ∈ Target.bodiesOf (Document.read source).targets)
    (hkind : b.kind = .normal q) (hterminated : b.isTerminated = true) :
    ∃ (before after template body result : Text) (place : Place),
      source = before ++ ((Kind.normal q).wrap b.text ++ after) ∧
      b.span = ⟨before.size, before.size + ((Kind.normal q).wrap b.text).size⟩ ∧
      Command.toTemplate.convert style source (b.span.start + 1) = .ok template ∧
      Command.toNormal.convert (.ofQuote q) template (b.span.start + 1) = .ok result ∧
      result = before ++ ((Kind.normal q).wrap body ++ after) ∧
      Place.find? (b.span.start + 1) (Document.read result).targets = some place ∧
      place.body.delimiters = .quoted q true ∧
      round style q result (b.span.start + 1) = .ok result := by
  obtain ⟨before, after, rfl, hbody, hholds⟩ :=
    Document.exists_holds (k := .normal q) hb (delimiters_of_kind hkind hterminated)
  have hspan : b.span = ⟨before.size, before.size + ((Kind.normal q).wrap b.text).size⟩ := by
    rw [hbody, Kind.bodyAt]
  have hstart : b.span.start = before.size := by rw [hspan]
  rw [hstart]
  have hfits := hholds.fits
  have hback : ∀ suggested, (QuoteStyle.ofQuote q).resolve suggested = .normal q :=
    QuoteStyle.resolve_ofQuote q
  -- the literal of the start, its template, the literal that comes back, and the template of that
  have hthere := Kind.admits_normal_iff.mpr hfits
  have hadmits := Escape.admits_convert_round hfits
  have hresult := hholds.replace hadmits
  have hfirst := convert_of_holds style hholds (.toTemplate q)
  have hsecond :=
    convert_of_holds (.ofQuote q) (hholds.replace (hthere.convert (.inl rfl))) (.toNormal hback)
  have hthird := convert_of_holds style hresult (.toTemplate q)
  have hfourth :=
    convert_of_holds (.ofQuote q) (hholds.replace (hadmits.convert (.inl rfl))) (.toNormal hback)
  rw [Escape.convert_round_round hfits] at hfourth
  obtain ⟨place, hfind, hplace⟩ := hresult.find?
  refine ⟨before, after, _, _, _, place, rfl, hspan, hfirst, hsecond, rfl, hfind, ?_, ?_⟩
  · rw [hplace]
    rfl
  · rw [round, hthird]
    exact hfourth

/-- A literal in a call, with two backslashes that do not come back. -/
theorem round_round_call :
    Target.bodiesOf (Document.read "f('\\\"$\\\x7b')".toList).targets
        = [⟨.quoted .single true, "\\\"$\\\x7b".toList, ⟨2, 9⟩⟩] ∧
      ∃ (before after template body result : Text) (place : Place),
        "f('\\\"$\\\x7b')".toList
            = before ++ ((Kind.normal .single).wrap "\\\"$\\\x7b".toList ++ after) ∧
        (⟨2, 9⟩ : Span)
            = ⟨before.size, before.size + ((Kind.normal .single).wrap "\\\"$\\\x7b".toList).size⟩ ∧
        Command.toTemplate.convert .infer "f('\\\"$\\\x7b')".toList 3 = .ok template ∧
        Command.toNormal.convert (.ofQuote .single) template 3 = .ok result ∧
        result = before ++ ((Kind.normal .single).wrap body ++ after) ∧
        Place.find? 3 (Document.read result).targets = some place ∧
        place.body.delimiters = .quoted .single true ∧
        round .infer .single result 3 = .ok result := by
  have hbodies : Target.bodiesOf (Document.read "f('\\\"$\\\x7b')".toList).targets
      = [⟨.quoted .single true, "\\\"$\\\x7b".toList, ⟨2, 9⟩⟩] := by
    cbv
  have hb : (⟨.quoted .single true, "\\\"$\\\x7b".toList, ⟨2, 9⟩⟩ : Body)
      ∈ Target.bodiesOf (Document.read "f('\\\"$\\\x7b')".toList).targets := by
    rw [hbodies]
    exact List.mem_cons_self
  exact ⟨hbodies, round_round .infer hb rfl rfl⟩

end Command

end Requote
