import Requote.Proofs.Rounds

/-!
# From a template and back

Turning a template body into a quoted one and back takes away the backslash of a quote, gives every
start of an interpolation one and the same escape, and makes a line break of an escaped line feed in
front of a line continuation. A body in which none of these stands comes back as it was, and no
other one does: what came back first as something else cannot be made up for by what follows.
-/

namespace Requote

/-! ### What is altered -/

namespace Atom

/-- Whether two neighbours in a template body come back as something else: a dollar sign and an
escaped brace, or an escaped line feed and a line continuation. -/
def Alters : Atom → Atom → Prop
  | plain '$',  escape '{'       => True
  | escape '$', escape '{'       => True
  | escape 'n', escapeReturnFeed => True
  | escape 'n', escape '\n'      => True
  | escape 'n', escape '\r'      => True
  | _,          _                => False

end Atom

namespace Escape

variable {q : Quote} {as : List Atom} {a b : Atom} {c : Char} {t : Text}

/-! ### What is written for a quoted literal -/

/-- Only a bare opening brace is written as one. -/
lemma head?_normalOfAtoms_brace (h : (normalOfAtoms q.char as).head? = some '{') :
    as.head? = some (.plain '{') := by
  obtain ⟨bs, hbs, hwritten⟩ := exists_intoQuoted q as
  rw [hwritten] at h
  simpa using hbs.head?_eq (Atom.head?_spell (by decide) h)

/-- Only a line continuation is written as one. -/
lemma continuation?_head?_normalOfAtoms (h : ∀ a ∈ as, a.FitsTemplate)
    (has : ∀ a ∈ as.head?, continuation? a = none) :
    ∀ a ∈ (Atom.read (normalOfAtoms q.char as)).head?, continuation? a = none := by
  obtain ⟨bs, hbs, hwritten⟩ := exists_intoQuoted q as
  have hdangling : as.IsChain fun a _ => a ≠ .dangling := by
    apply (List.pairwise_of_forall_mem_list fun a ha _ _ => ?_).isChain
    rintro rfl
    exact h _ ha
  rw [hwritten, hbs.read_spell hdangling fun hmem => (h _ hmem).1 rfl]
  intro b hb
  rcases hbs.head?_eq hb with hkept | hmem
  · exact has b hkept
  · have hreturn : q.char ≠ '\r' := q.char_ne (by decide)
    have hfeed : q.char ≠ '\n' := q.char_ne (by decide)
    simp only [List.mem_cons, List.not_mem_nil, or_false] at hmem
    rcases hmem with rfl | rfl | rfl | rfl <;> simp [continuation?, hreturn, hfeed]

/-! ### What is written for a template again -/

/-- A character that is no part of the start of an interpolation is written as it is. -/
lemma templateOfNormal_plain (hslash : c ≠ '\\') (htick : c ≠ '\x60')
    (hdollar : c = '$' → t.head? ≠ some '{') :
    templateOfNormal (c :: t) = c :: templateOfNormal t := by
  rw [templateOfNormal, Atom.read_plain hslash, templateOfAtoms_plain htick, templateOfNormal]
  intro hc hhead
  exact hdollar hc (Atom.head?_read t _ hhead).symm

lemma templateOfNormal_tick (t : Text) :
    templateOfNormal ('\x60' :: t) = '\\' :: '\x60' :: templateOfNormal t := by
  rw [templateOfNormal, Atom.read_plain (by decide), templateOfAtoms, templateOfNormal]
  rfl

lemma templateOfNormal_interpolation (t : Text) :
    templateOfNormal ('$' :: '{' :: t) = '\\' :: '$' :: '{' :: templateOfNormal t := by
  rw [templateOfNormal, Atom.read_plain (by decide), Atom.read_plain (by decide), templateOfAtoms,
    templateOfNormal]
  rfl

lemma templateOfNormal_quote (p : Quote) (t : Text) :
    templateOfNormal ('\\' :: p.char :: t) = p.char :: templateOfNormal t := by
  have hreturn : p.char ≠ '\r' := p.char_ne (by decide)
  rw [templateOfNormal, Atom.read_escape fun hc => absurd hc hreturn, templateOfAtoms_quote,
    templateOfNormal]

/-- Any other escape is written as it is. -/
lemma templateOfNormal_escape (hquote : ∀ p : Quote, c ≠ p.char)
    (hreturn : c = '\r' → t.head? ≠ some '\n')
    (hn : c = 'n' → ∀ a ∈ (Atom.read t).head?, continuation? a = none) :
    templateOfNormal ('\\' :: c :: t) = '\\' :: c :: templateOfNormal t := by
  rw [templateOfNormal, Atom.read_escape hreturn,
    templateOfAtoms_escape (hquote .single) (hquote .double) hn, templateOfNormal]

/-- An escaped line feed in front of a line continuation is written as a line break. -/
lemma templateOfNormal_continuation {newline : Text} (ha : continuation? a = some newline)
    (hfeed : t.head? ≠ some '\n') :
    templateOfNormal ('\\' :: 'n' :: (a.text ++ t)) = newline ++ templateOfNormal t := by
  have hread : Atom.read (a.text ++ t) = a :: Atom.read t := by
    revert ha
    fun_cases continuation? a with
    | case1 => simp [Atom.text, Atom.read]
    | case2 | case3 => simp [Atom.text, Atom.read_escape, hfeed]
    | case4 => simp
  rw [templateOfNormal, Atom.read_escape (by simp), hread, templateOfAtoms, ha, templateOfNormal]

/-! ### There and back -/

/-- The text of a template body that was turned into a quoted one and back. -/
def returned (q : Quote) (as : List Atom) : Text :=
  templateOfNormal (normalOfAtoms q.char as)

lemma returned_feed (q : Quote) (as : List Atom) :
    returned q (.plain '\n' :: as) = '\n' :: returned q as := by
  have hfeed := head?_normalOfAtoms q as
  exact templateOfNormal_continuation (a := .escape '\n') rfl hfeed

/-- A quote comes back without a backslash. -/
lemma returned_quote (p q : Quote) (as : List Atom) :
    returned q (.escape p.char :: as) = p.char :: returned q as := by
  have htick : p.char ≠ '\x60' := p.char_ne (by decide)
  have hdollar : p.char ≠ '$' := p.char_ne (by decide)
  rw [returned, normalOfAtoms_escape htick (fun hc => absurd hc hdollar)
    (fun hc => absurd hc hdollar), templateOfNormal_quote, returned]

/-- An escape of anything but a quote comes back as it was, unless what follows is altered with
it. -/
lemma returned_escape (h : ∀ a ∈ as, a.FitsTemplate) (hquote : ∀ p : Quote, c ≠ p.char)
    (halters : ∀ b ∈ as.head?, ¬(Atom.escape c).Alters b) :
    returned q (.escape c :: as) = '\\' :: c :: returned q as := by
  by_cases htick : c = '\x60'
  · subst htick
    rw [returned, normalOfAtoms, templateOfNormal_tick, returned]
  by_cases hopen : c = '$' ∧ as.head? = some (.plain '{')
  · obtain ⟨rfl, hhead⟩ := hopen
    obtain ⟨as, rfl⟩ := List.head?_eq_some_iff.mp hhead
    have hbrace : '{' ≠ q.char := by cases q <;> decide
    rw [returned, normalOfAtoms, List.cons_append, List.singleton_append,
      templateOfNormal_interpolation, returned,
      normalOfAtoms_plain (by decide) (by decide) (by simp), if_neg hbrace, List.singleton_append,
      templateOfNormal_plain (by decide) (by decide) (by simp)]
  · have hescape : c = '$' → as.head? ≠ some (.escape '{') := by
      rintro rfl hhead
      exact halters _ hhead trivial
    have hplain : c = '$' → as.head? ≠ some (.plain '{') := fun hc hhead => hopen ⟨hc, hhead⟩
    have hn : c = 'n' → ∀ b ∈ as.head?, continuation? b = none := by
      rintro rfl b hb
      have hb := halters b hb
      revert hb
      fun_cases continuation? b <;> simp [Atom.Alters]
    rw [returned, normalOfAtoms_escape htick hescape hplain, templateOfNormal_escape hquote,
      returned]
    · exact fun _ => head?_normalOfAtoms q as
    · exact fun hc => continuation?_head?_normalOfAtoms h (hn hc)

/-- A bare character comes back as it was, unless what follows is altered with it. -/
lemma returned_plain (hc : (Atom.plain c).FitsTemplate)
    (hopens : ∀ b ∈ as.head?, ¬(Atom.plain c).Opens b)
    (halters : ∀ b ∈ as.head?, ¬(Atom.plain c).Alters b) :
    returned q (.plain c :: as) = c :: returned q as := by
  have hfeed := head?_normalOfAtoms q as
  by_cases hlf : c = '\n'
  · subst hlf
    exact returned_feed q as
  by_cases hcr : c = '\r'
  · subst hcr
    by_cases hhead : as.head? = some (.plain '\n')
    · -- the two characters of one line break
      obtain ⟨as, rfl⟩ := List.head?_eq_some_iff.mp hhead
      rw [returned_feed]
      exact templateOfNormal_continuation (a := .escapeReturnFeed) rfl (head?_normalOfAtoms q as)
    · rw [returned, normalOfAtoms]
      · exact templateOfNormal_continuation (a := .escape '\r') rfl hfeed
      · rintro as' rfl
        exact hhead rfl
  · have hescape : c = '$' → as.head? ≠ some (.escape '{') := by
      rintro rfl hhead
      exact halters _ hhead trivial
    rw [returned, normalOfAtoms_plain hcr hlf hescape]
    split
    · rename_i hquote
      subst hquote
      exact templateOfNormal_quote q _
    · rw [List.singleton_append, templateOfNormal_plain hc.1 hc.2, returned]
      rintro rfl hhead
      exact hopens _ (head?_normalOfAtoms_brace hhead) trivial

/-- An escaped line feed in front of a line continuation comes back as a line break. -/
lemma returned_continuation {newline : Text} (hb : continuation? b = some newline) :
    returned q (.escape 'n' :: b :: as) = newline ++ returned q as := by
  have hwritten : normalOfAtoms q.char (.escape 'n' :: b :: as)
      = '\\' :: 'n' :: (b.text ++ normalOfAtoms q.char as) := by
    rw [normalOfAtoms_escape (by decide) (by simp) (by simp)]
    revert hb
    fun_cases continuation? b <;> simp [normalOfAtoms]
  rw [returned, hwritten]
  exact templateOfNormal_continuation hb (head?_normalOfAtoms q as)

/-- Two neighbours that are altered come back as another text, whatever follows them. -/
lemma returned_ne_of_alters (h : a.Alters b) :
    returned q (a :: b :: as) ≠ Atom.spell (a :: b :: as) := by
  revert h
  simp only [Atom.Alters]
  split
  · simp [returned, normalOfAtoms, templateOfNormal_interpolation, Atom.text]
  · simp [returned, normalOfAtoms, templateOfNormal_interpolation, Atom.text]
  · simp [returned_continuation (b := .escapeReturnFeed) rfl, Atom.text]
  · simp [returned_continuation (b := .escape '\n') rfl, Atom.text]
  · simp [returned_continuation (b := .escape '\r') rfl, Atom.text]
  · exact False.elim

/-- An atom that is neither an escaped quote nor altered together with the next one comes back as it
was. -/
lemma returned_cons (h : ∀ b ∈ a :: as, b.FitsTemplate) (hopens : ∀ b ∈ as.head?, ¬a.Opens b)
    (hquote : ∀ p : Quote, a ≠ .escape p.char) (halters : ∀ b ∈ as.head?, ¬a.Alters b) :
    returned q (a :: as) = a.text ++ returned q as := by
  obtain ⟨ha, has⟩ := List.forall_mem_cons.mp h
  cases a with
  | plain c => exact returned_plain ha hopens halters
  | escape c =>
    apply returned_escape has _ halters
    rintro p rfl
    exact hquote p rfl
  | escapeReturnFeed =>
    simp [returned, normalOfAtoms, Atom.text, templateOfNormal, Atom.read, templateOfAtoms]
  | dangling => exact absurd ha id

lemma returned_eq_spell_iff (h : ∀ a ∈ as, a.FitsTemplate)
    (hopens : as.IsChain fun a b => ¬a.Opens b) :
    returned q as = Atom.spell as ↔
      (∀ p : Quote, .escape p.char ∉ as) ∧ as.IsChain fun a b => ¬a.Alters b := by
  induction as with
  | nil => simp [returned, normalOfAtoms, templateOfNormal, Atom.read, templateOfAtoms]
  | cons a as ih =>
    obtain ⟨hhead, hopens⟩ := List.isChain_cons.mp hopens
    have ih := ih (fun b hb => h b (List.mem_cons_of_mem a hb)) hopens
    by_cases hquote : ∃ p : Quote, a = .escape p.char
    · obtain ⟨p, rfl⟩ := hquote
      have hslash : p.char ≠ '\\' := p.char_ne (by decide)
      refine iff_of_false ?_ fun hkept => hkept.1 p List.mem_cons_self
      rw [returned_quote, Atom.spell_cons]
      intro heq
      exact hslash (List.cons.inj heq).1
    by_cases halters : ∃ b ∈ as.head?, a.Alters b
    · obtain ⟨b, hb, halters⟩ := halters
      obtain ⟨as, rfl⟩ := List.head?_eq_some_iff.mp hb
      refine iff_of_false (returned_ne_of_alters halters) fun hkept => ?_
      exact (List.isChain_cons_cons.mp hkept.2).1 halters
    · have hquote : ∀ p : Quote, a ≠ .escape p.char := fun p ha => hquote ⟨p, ha⟩
      have halters : ∀ b ∈ as.head?, ¬a.Alters b := fun b hb hab => halters ⟨b, hb, hab⟩
      rw [returned_cons h hhead hquote halters, Atom.spell_cons, List.append_cancel_left_eq, ih,
        List.isChain_cons]
      constructor
      · rintro ⟨hquotes, hchain⟩
        refine ⟨fun p hp => ?_, halters, hchain⟩
        rcases List.mem_cons.mp hp with heq | hp
        · exact hquote p heq.symm
        · exact hquotes p hp
      · rintro ⟨hquotes, -, hchain⟩
        exact ⟨fun p hp => hquotes p (List.mem_cons_of_mem a hp), hchain⟩

/-- A template body comes back from a quoted literal as it was written exactly if it has no escaped
quote and no two neighbours that are altered: no dollar sign in front of an escaped brace, and no
escaped line feed in front of a line continuation. -/
theorem templateOfNormal_normalOfTemplate_eq_iff {body rest : Text} {cl : Closing}
    (h : Token.readTemplate t = ⟨body, some cl, rest⟩) (q : Quote) :
    templateOfNormal (normalOfTemplate q body) = body ↔
      (∀ p : Quote, .escape p.char ∉ Atom.read body) ∧
        (Atom.read body).IsChain fun a b => ¬a.Alters b := by
  obtain ⟨hfits, hopens⟩ := Atom.fitsTemplate_of_readTemplate h
  have hreturned := returned_eq_spell_iff (q := q) hfits hopens
  rwa [Atom.spell_read] at hreturned

/-- A line break, a backtick and the start of an interpolation come back in a body where a quote
does not. -/
theorem templateOfNormal_normalOfTemplate_eq_iff_quote :
    Token.readTemplate "\r\\`$\\'\\$\x7b\x60".toList
        = ⟨"\r\\`$\\'\\$\x7b".toList, some .backtick, []⟩ ∧
      (templateOfNormal (normalOfTemplate .double "\r\\`$\\'\\$\x7b".toList)
          = "\r\\`$\\'\\$\x7b".toList ↔
        (∀ p : Quote, .escape p.char ∉ Atom.read "\r\\`$\\'\\$\x7b".toList) ∧
          (Atom.read "\r\\`$\\'\\$\x7b".toList).IsChain fun a b => ¬a.Alters b) := by
  have h : Token.readTemplate "\r\\`$\\'\\$\x7b\x60".toList
      = ⟨"\r\\`$\\'\\$\x7b".toList, some .backtick, []⟩ := by
    cbv
  exact ⟨h, templateOfNormal_normalOfTemplate_eq_iff h .double⟩

end Escape

end Requote
