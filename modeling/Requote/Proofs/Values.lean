import Requote.Proofs.Neighbours
import Requote.Proofs.Rewriting

/-!
# The value of a body

A body is written in a source text; its value is the string that it stands for. The value is read
off the characters of the body from left to right. What an escape means is looked into only as far
as the conversions between the kinds of literal touch it.

Converting a template body to a quoted one keeps its value. Converting a quoted body to a template
one does so unless two line endings that were apart run together: a carriage return and a line feed
behind it are one line break of a template. Such a pair comes about where an escaped carriage return
stands in front of a line feed that loses its escape, and nowhere else.
-/

namespace Requote

/-! ### Values -/

/-- A unit of the value of a body. -/
inductive Denoted where
  /-- A character. -/
  | char (c : Char)
  /-- A backslash and a character, whose meaning is left open. -/
  | escape (c : Char)
deriving DecidableEq, Repr

/-- What a backslash in front of a character denotes. A line continuation denotes nothing. -/
def Denoted.ofEscape? (c : Char) : Option Denoted :=
  if Text.isTerminator c then
    none
  else if c = 'n' then
    some (char '\n')
  else if c ∈ ['\'', '"', '\x60', '$', '{'] then
    some (char c)
  else
    some (escape c)

/-- The value of a body in a literal of some kind. A line break of a template is one line feed,
however it is written. -/
def Kind.value (k : Kind) : Text → List Denoted
  | []                        => []
  | '\\' :: '\r' :: '\n' :: t => k.value t
  | '\\' :: c :: t            => (Denoted.ofEscape? c).toList ++ k.value t
  | '\r' :: '\n' :: t         =>
    (if k.isTemplate then [.char '\n'] else [.char '\r', .char '\n']) ++ k.value t
  | c :: t                    => .char (if k.isTemplate ∧ c = '\r' then '\n' else c) :: k.value t

namespace Kind

variable {k : Kind} {q : Quote} {c : Char} {t : Text}

/-! ### One unit at a time -/

lemma value_nil (k : Kind) : k.value [] = [] := rfl

lemma value_escapeReturnFeed (k : Kind) (t : Text) :
    k.value ('\\' :: '\r' :: '\n' :: t) = k.value t := rfl

lemma value_returnFeed (k : Kind) (t : Text) : k.value ('\r' :: '\n' :: t)
    = (if k.isTemplate then [.char '\n'] else [.char '\r', .char '\n']) ++ k.value t := rfl

lemma value_escape (h : c = '\r' → t.head? ≠ some '\n') :
    k.value ('\\' :: c :: t) = (Denoted.ofEscape? c).toList ++ k.value t := by
  rw [value]
  rintro t' rfl rfl
  exact h rfl rfl

lemma value_cons (hslash : c ≠ '\\') (hfeed : c = '\r' → t.head? ≠ some '\n') :
    k.value (c :: t) = .char (if k.isTemplate ∧ c = '\r' then '\n' else c) :: k.value t := by
  rw [value]
  · intro t' h
    exact absurd h hslash
  · intro c' t' h
    exact absurd h hslash
  · rintro t' rfl rfl
    exact hfeed rfl rfl

lemma value_plain (hslash : c ≠ '\\') (hreturn : c ≠ '\r') :
    k.value (c :: t) = .char c :: k.value t := by
  rw [value_cons hslash fun h => absurd h hreturn]
  simp [hreturn]

lemma value_normal_plain (hslash : c ≠ '\\') :
    (normal q).value (c :: t) = .char c :: (normal q).value t := by
  by_cases hfeed : c = '\r' ∧ t.head? = some '\n'
  · obtain ⟨rfl, hhead⟩ := hfeed
    obtain ⟨t', rfl⟩ := List.head?_eq_some_iff.mp hhead
    rw [value_returnFeed, value_plain (by decide) (by decide)]
    rfl
  · rw [value_cons hslash (not_and.mp hfeed)]
    simp [isTemplate]

lemma value_template_return (h : t.head? ≠ some '\n') :
    template.value ('\r' :: t) = .char '\n' :: template.value t := by
  rw [value_cons (by decide) fun _ => h]
  rfl

end Kind

/-! ### Atoms and values -/

namespace Atom

variable {k : Kind} {q : Quote} {c : Char} {t : Text} {as : List Atom}

/-- What an atom of a quoted body denotes. -/
def denoted : Atom → List Denoted
  | plain c          => [.char c]
  | escape c         => (Denoted.ofEscape? c).toList
  | escapeReturnFeed => []
  | dangling         => [.char '\\']

/-- Nothing in a quoted body depends on what stands next to it. -/
lemma value_normal (q : Quote) (t : Text) : (Kind.normal q).value t = (read t).flatMap denoted := by
  induction t using read_induction with
  | nil | dangling => rfl
  | returnFeed t ih =>
    rw [Kind.value_escapeReturnFeed, ih]
    rfl
  | escape c t hc ih =>
    rw [Kind.value_escape hc, read_escape hc, ih]
    rfl
  | plain c t hc ih =>
    rw [Kind.value_normal_plain hc, read_plain hc, ih]
    rfl

/-- What an atom denotes in front of others, unless it is a carriage return of a template. -/
lemma value_spell_cons {a : Atom} (ha : ∀ c, a = plain c → c ≠ '\\' ∧ c ≠ '\r')
    (has : ∀ b ∈ as.head?, a.Precedes b) :
    k.value (spell (a :: as)) = a.denoted ++ k.value (spell as) := by
  rw [spell_cons]
  cases a with
  | plain c => exact Kind.value_plain (ha c rfl).1 (ha c rfl).2
  | escape c =>
    apply Kind.value_escape
    rintro rfl hhead
    exact has _ (head?_spell (by decide) hhead)
  | escapeReturnFeed => rfl
  | dangling =>
    -- nothing follows a backslash that escapes nothing
    cases as with
    | nil => simp [Kind.value, text, denoted]
    | cons b as => exact absurd (has b rfl) id

end Atom

/-! ### From a template to a quoted literal -/

namespace Escape

variable {q : Quote} {c : Char} {t body rest : Text} {as : List Atom}

/-- A line break of a template denotes a line feed, unless it goes on. -/
lemma value_lineBreak {a : Atom} {newline : Text} (h : continuation? a = some newline)
    (hfeed : a = .escape '\r' → t.head? ≠ some '\n') :
    Kind.template.value (newline ++ t) = .char '\n' :: (a.denoted ++ Kind.template.value t) := by
  revert h
  fun_cases continuation? a with
  | case1 =>
    rintro ⟨⟩
    rfl
  | case2 =>
    rintro ⟨⟩
    exact Kind.value_plain (by decide) (by decide)
  | case3 =>
    rintro ⟨⟩
    exact Kind.value_template_return (hfeed rfl)
  | case4 => simp

/-- The start of an interpolation denotes its two characters, however it is escaped. -/
lemma EscapesStart.value {a b : Atom} (h : EscapesStart a b) (t : Text) :
    Kind.template.value (a.text ++ (b.text ++ t))
      = .char '$' :: .char '{' :: Kind.template.value t := by
  cases h with
  | both =>
    simp only [Atom.text, List.cons_append, List.nil_append]
    rw [Kind.value_escape (by simp), Kind.value_escape (by simp)]
    rfl
  | dollar =>
    simp only [Atom.text, List.cons_append, List.nil_append]
    rw [Kind.value_escape (by simp), Kind.value_plain (by decide) (by decide)]
    rfl
  | brace =>
    simp only [Atom.text, List.cons_append, List.nil_append]
    rw [Kind.value_plain (by decide) (by decide), Kind.value_escape (by simp)]
    rfl

/-- What is written for the atoms of a template denotes what they denote. -/
lemma IntoQuoted.value_eq {bs : List Atom} (h : IntoQuoted q as bs) (has : as.IsChain Atom.Precedes)
    (hslash : .plain '\\' ∉ as) :
    Kind.template.value (Atom.spell as) = bs.flatMap Atom.denoted := by
  induction h with
  | nil => rfl
  | tick h ih =>
    obtain ⟨hhead, has⟩ := List.isChain_cons.mp has
    rw [Atom.value_spell_cons (by simp) hhead, ih has fun hmem => hslash (by simp [hmem])]
    rfl
  | interpolation hab h ih =>
    rw [Atom.spell_cons, Atom.spell_cons, hab.value,
      ih has.tail.tail fun hmem => hslash (by simp [hmem])]
    rfl
  | lineBreak ha hfeed h ih =>
    have hbs := ih has.right_of_append fun hmem => hslash (by simp [hmem])
    rw [Atom.spell_append, Atom.spell_map_plain, value_lineBreak ha, hbs]
    · rfl
    · exact fun hc hhead => hfeed hc (Atom.head?_spell (by decide) hhead)
  | quote h ih =>
    obtain ⟨hhead, has⟩ := List.isChain_cons.mp has
    rw [Atom.value_spell_cons ?_ hhead, ih has fun hmem => hslash (by simp [hmem])]
    · cases q <;> rfl
    · rintro c ⟨⟩
      exact ⟨q.char_ne (by decide), q.char_ne (by decide)⟩
  | keep ha h ih =>
    obtain ⟨hhead, has⟩ := List.isChain_cons.mp has
    rw [Atom.value_spell_cons ?_ hhead, ih has fun hmem => hslash (by simp [hmem])]
    · rfl
    · rintro c rfl
      refine ⟨?_, (ha c rfl).2.1⟩
      rintro rfl
      exact hslash List.mem_cons_self

/-- What is written for the atoms of a template denotes what they denote. -/
lemma value_normalOfAtoms (h : as.IsChain Atom.Precedes) (hslash : ∀ c, .plain c ∈ as → c ≠ '\\') :
    (Kind.normal q).value (normalOfAtoms q.char as) = Kind.template.value (Atom.spell as) := by
  have hslash : .plain '\\' ∉ as := fun hmem => hslash _ hmem rfl
  have hdangling : as.IsChain fun a _ => a ≠ .dangling :=
    h.imp fun a b hab => (Atom.precedes_iff.mp hab).1
  obtain ⟨bs, hbs, hwritten⟩ := exists_intoQuoted q as
  rw [hwritten, Atom.value_normal, hbs.read_spell hdangling hslash, hbs.value_eq h hslash]

/-- A template body, rewritten for a quoted literal, keeps its value. -/
theorem value_normalOfTemplate (q : Quote) (body : Text) :
    (Kind.normal q).value (normalOfTemplate q body) = Kind.template.value body := by
  have hvalue := value_normalOfAtoms (q := q) (Atom.isChain_read body)
    fun c hc => Atom.ne_backslash_of_plain_mem_read hc
  rwa [Atom.spell_read] at hvalue

/-! ### What is written is read back -/

/-- A bare separator stays in the value of a template. -/
lemma char_mem_value_of_isSeparator (hsep : isSeparator c = true) (h : .plain c ∈ Atom.read t) :
    .char c ∈ Kind.template.value t := by
  have hreturn : c ≠ '\r' := by rintro rfl; exact absurd hsep (by decide)
  have hfeed : c ≠ '\n' := by rintro rfl; exact absurd hsep (by decide)
  induction t using Atom.read_induction with
  | nil | dangling => simp [Atom.read] at h
  | returnFeed t ih =>
    rw [Kind.value_escapeReturnFeed]
    exact ih (by simpa [Atom.read] using h)
  | escape d t hd ih =>
    rw [Atom.read_escape hd] at h
    rw [Kind.value_escape hd]
    exact List.mem_append_right _ (ih (by simpa using h))
  | plain d t hd ih =>
    rw [Atom.read_plain hd, List.mem_cons, Atom.plain.injEq] at h
    by_cases hbreak : d = '\r' ∧ t.head? = some '\n'
    · -- the two characters of the line break are one line feed
      obtain ⟨rfl, hhead⟩ := hbreak
      obtain ⟨t', rfl⟩ := List.head?_eq_some_iff.mp hhead
      have hmem := ih (h.resolve_left hreturn)
      rw [Kind.value_plain (by decide) (by decide)] at hmem
      exact hmem
    · rw [Kind.value_cons hd (not_and.mp hbreak)]
      rcases h with rfl | h
      · simp [hreturn]
      · exact List.mem_cons_of_mem _ (ih h)

/-- Nothing that can stand in a quoted body denotes a separator. -/
lemma not_isSeparator_of_mem_denoted {a : Atom} (ha : a.Fits q.char) (hc : .char c ∈ a.denoted) :
    isSeparator c = false := by
  cases a with
  | plain d =>
    obtain rfl : c = d := by simpa [Atom.denoted] using hc
    have hend := ha.2.2
    simp_all [isSeparator, Text.isTerminator]
  | escape d =>
    simp only [Atom.denoted, Denoted.ofEscape?] at hc
    split at hc
    · simp at hc
    · split at hc
      · obtain rfl : c = '\n' := by simpa using hc
        rfl
      · split at hc
        · rename_i hd
          obtain rfl : c = d := by simpa using hc
          revert hd
          simp only [List.mem_cons, List.not_mem_nil, or_false]
          rintro (rfl | rfl | rfl | rfl | rfl) <;> rfl
        · simp at hc
  | escapeReturnFeed => simp [Atom.denoted] at hc
  | dangling => exact absurd ha id

/-- A template body, rewritten for a quoted literal, is read back from the quote on as it was
written. This is so exactly if it holds no bare line separator and no bare paragraph separator: the
rewriting leaves these as they are, and they end a quoted literal. -/
theorem next?_normalOfTemplate {cl : Closing} (h : Token.readTemplate t = ⟨body, some cl, rest⟩)
    (q : Quote) (previous : Option Char) (resumes : Bool) (rest' : Text) :
    Token.next? previous resumes (q.char :: (normalOfTemplate q body ++ q.char :: rest'))
        = some (.body (.quoted q true) (normalOfTemplate q body), rest') ↔
      ∀ c, .plain c ∈ Atom.read body → isSeparator c = false := by
  rw [Token.next?_quote]
  constructor
  · intro hnext c hc
    by_contra hsep
    generalize hread :
        Token.readQuoted q.char (normalOfTemplate q body ++ q.char :: rest') = r at hnext
    obtain ⟨b, ended, u⟩ := r
    simp only [Option.some.injEq, Prod.mk.injEq, Token.body.injEq, Delimiters.quoted.injEq] at hnext
    obtain ⟨⟨⟨-, rfl⟩, rfl⟩, rfl⟩ := hnext
    -- the separator is still in the value, but no atom of a closed body denotes one
    have hmem := char_mem_value_of_isSeparator (by simpa using hsep) hc
    rw [← Atom.spell_read body, ← value_normalOfAtoms (q := q) (Atom.isChain_read body)
      (fun c hc => Atom.ne_backslash_of_plain_mem_read hc), Atom.value_normal,
      List.mem_flatMap] at hmem
    obtain ⟨a, ha, hca⟩ := hmem
    exact hsep (not_isSeparator_of_mem_denoted (Atom.fits_of_readQuoted hread a ha) hca)
  · intro hsep
    rw [readQuoted_normalOfTemplate h hsep]

/-- A line break and a quote behind it, both of which gain a backslash. -/
theorem next?_normalOfTemplate_break :
    Token.readTemplate "a\n'\x60".toList = ⟨"a\n'".toList, some .backtick, []⟩ ∧
      (Token.next? none false
            ('\'' :: (normalOfTemplate .single "a\n'".toList ++ '\'' :: "b".toList))
          = some
            (.body (.quoted .single true) (normalOfTemplate .single "a\n'".toList), "b".toList) ↔
        ∀ c, .plain c ∈ Atom.read "a\n'".toList → isSeparator c = false) := by
  have h : Token.readTemplate "a\n'\x60".toList = ⟨"a\n'".toList, some .backtick, []⟩ := by
    cbv
  exact ⟨h, next?_normalOfTemplate h .single none false "b".toList⟩

/-- A bare line separator is left as it is, and the quoted literal is cut off in front of it. -/
theorem next?_normalOfTemplate_separator :
    Token.readTemplate "\u2028\x60".toList = ⟨"\u2028".toList, some .backtick, []⟩ ∧
      Token.next? none false ('\'' :: (normalOfTemplate .single "\u2028".toList ++ ['\'']))
        = some (.body (.quoted .single false) [], "\u2028'".toList) := by
  refine ⟨?_, ?_⟩
  · cbv
  · exact Token.next?_quote .single _

/-! ### From a quoted literal to a template -/

/-- Two line endings that run together in a template: an escaped carriage return, and behind it a
line feed that is an escape and a line continuation. -/
def runTogether : List Atom :=
  [.escape '\r', .escape 'n', .escape '\n']

/-- A line break of a template denotes a line feed, as an escaped one does in front of the line
continuation that the line break comes from. -/
lemma value_continuation {a : Atom} {newline : Text} (h : continuation? a = some newline) :
    Kind.template.value (newline ++ t) = .char '\n' :: Kind.template.value (a.text ++ t) := by
  revert h
  fun_cases continuation? a with
  | case1 =>
    rintro ⟨⟩
    rfl
  | case2 =>
    rintro ⟨⟩
    simp only [Atom.text, List.cons_append, List.nil_append]
    rw [Kind.value_plain (by decide) (by decide), Kind.value_escape (by simp)]
    rfl
  | case3 =>
    rintro ⟨⟩
    simp only [Atom.text, List.cons_append, List.nil_append]
    by_cases hhead : t.head? = some '\n'
    · obtain ⟨t', rfl⟩ := List.head?_eq_some_iff.mp hhead
      rfl
    · rw [Kind.value_template_return hhead, Kind.value_escape (fun _ => hhead)]
      rfl
  | case4 => simp

/-- A line continuation is written as it is, unless an escaped line feed stands in front of it. -/
lemma templateOfAtoms_continuation {a : Atom} {newline : Text}
    (h : continuation? a = some newline) :
    templateOfAtoms (a :: as) = a.text ++ templateOfAtoms as := by
  revert h
  fun_cases continuation? a <;> simp [templateOfAtoms]

/-- What is written for a quoted body starts with a line feed exactly if it starts with an escaped
one in front of an escaped line break. -/
lemma head?_templateOfAtoms_eq_feed (h : ∀ a ∈ as, a.Fits q.char) :
    (templateOfAtoms as).head? = some '\n' ↔ [.escape 'n', .escape '\n'] <+: as := by
  fun_cases templateOfAtoms as with
  | case1 => simp
  | case2 a as newline ha =>
    revert ha
    fun_cases continuation? a <;> rintro ⟨⟩ <;> simp
  | case3 a as ha =>
    suffices a ≠ .escape '\n' by simpa [eq_comm] using this
    rintro rfl
    simp [continuation?] at ha
  | case4 as | case5 as | case6 as | case7 as => simp
  | case8 a as hcontinuation _ _ _ _ =>
    cases a with
    | plain c =>
      have hend := (h _ List.mem_cons_self).2.2
      suffices c ≠ '\n' by simpa [Atom.text] using this
      rintro rfl
      simp [Text.isTerminator] at hend
    | escape c =>
      suffices ¬(c = 'n' ∧ [.escape '\n'] <+: as) by simpa [Atom.text, eq_comm] using this
      rintro ⟨rfl, as', rfl⟩
      exact hcontinuation _ _ rfl rfl
    | escapeReturnFeed | dangling => simp [Atom.text]

/-- An escaped carriage return takes the line feed behind it away. -/
lemma value_templateOfAtoms_of_prefix {a : Atom} (h : ∀ b ∈ a :: as, b.Fits q.char)
    (htogether : runTogether <+: a :: as) :
    Kind.template.value (templateOfAtoms as) ≠ [] ∧
      Kind.template.value (templateOfAtoms (a :: as))
        = (Kind.template.value (templateOfAtoms as)).tail := by
  have hfeed := head?_templateOfAtoms_eq_feed fun b hb => h b (List.mem_cons_of_mem a hb)
  obtain ⟨rfl, hprefix⟩ := List.cons_prefix_cons.mp htogether
  obtain ⟨u, hu⟩ := List.head?_eq_some_iff.mp (hfeed.mpr hprefix)
  rw [templateOfAtoms, hu, Kind.value_plain (by decide) (by decide)]
  · exact ⟨by simp, rfl⟩
  all_goals simp

/-- Every other atom of a quoted body denotes the same in a template. -/
lemma value_templateOfAtoms_cons {a : Atom} (h : ∀ b ∈ a :: as, b.Fits q.char)
    (hapart : ¬runTogether <+: a :: as) :
    Kind.template.value (templateOfAtoms (a :: as))
      = a.denoted ++ Kind.template.value (templateOfAtoms as) := by
  obtain ⟨hfits, has⟩ := List.forall_mem_cons.mp h
  generalize hbs : a :: as = bs
  fun_cases templateOfAtoms bs with
  | case1 => simp at hbs
  | case2 b as newline hb =>
    obtain ⟨rfl, rfl⟩ := List.cons.inj hbs
    rw [value_continuation hb, templateOfAtoms_continuation hb]
    rfl
  | case3 b as _ =>
    obtain ⟨rfl, rfl⟩ := List.cons.inj hbs
    simp only [List.cons_append, List.nil_append]
    rw [Kind.value_escape (by simp)]
    rfl
  | case4 as =>
    obtain ⟨rfl, rfl⟩ := List.cons.inj hbs
    simp only [List.cons_append, List.nil_append]
    rw [Kind.value_escape (by simp), Kind.value_plain (by decide) (by decide)]
    rfl
  | case5 as =>
    obtain ⟨rfl, rfl⟩ := List.cons.inj hbs
    simp only [List.cons_append, List.nil_append]
    rw [Kind.value_escape (by simp)]
    rfl
  | case6 as | case7 as =>
    obtain ⟨rfl, rfl⟩ := List.cons.inj hbs
    rw [Kind.value_plain (by decide) (by decide)]
    rfl
  | case8 b as _ _ _ _ _ =>
    obtain ⟨rfl, rfl⟩ := List.cons.inj hbs
    cases a with
    | plain c =>
      have hreturn : c ≠ '\r' := by
        rintro rfl
        exact absurd hfits.2.2 (by decide)
      exact Kind.value_plain hfits.1 hreturn
    | escape c =>
      apply Kind.value_escape
      rintro rfl hhead
      exact hapart (List.cons_prefix_cons.mpr ⟨rfl, (head?_templateOfAtoms_eq_feed has).mp hhead⟩)
    | escapeReturnFeed => rfl
    | dangling => exact absurd hfits id

/-- Rewriting a quoted body for a template loses nothing of its value but line feeds, and none
exactly if no two line endings run together. -/
lemma value_templateOfAtoms (h : ∀ a ∈ as, a.Fits q.char) :
    (Kind.template.value (templateOfAtoms as)).Sublist (as.flatMap Atom.denoted) ∧
      (Kind.template.value (templateOfAtoms as) = as.flatMap Atom.denoted ↔
        ¬runTogether <:+: as) := by
  induction as with
  | nil => simp [templateOfAtoms, Kind.value_nil, runTogether]
  | cons a as ih =>
    obtain ⟨hsublist, heq⟩ := ih fun b hb => h b (List.mem_cons_of_mem a hb)
    rw [List.flatMap_cons, List.infix_cons_iff]
    by_cases htogether : runTogether <+: a :: as
    · obtain ⟨hne, htail⟩ := value_templateOfAtoms_of_prefix h htogether
      obtain ⟨rfl, -⟩ := List.cons_prefix_cons.mp htogether
      rw [htail]
      refine ⟨(List.tail_sublist _).trans hsublist,
        iff_of_false ?_ (not_not_intro (.inl htogether))⟩
      -- the value has become shorter
      intro hvalue
      have hpos := List.length_pos_iff.mpr hne
      have hle := hsublist.length_le
      have hlength := congrArg List.length hvalue
      rw [List.length_tail, List.length_append] at hlength
      omega
    · rw [value_templateOfAtoms_cons h htogether, List.append_cancel_left_eq, heq,
        or_iff_right htogether]
      exact ⟨hsublist.append_left _, Iff.rfl⟩

/-- A quoted body, rewritten for a template, keeps its value exactly if no two line endings run
together. -/
theorem value_templateOfNormal (h : Token.readQuoted q.char t = ⟨body, true, rest⟩) :
    Kind.template.value (templateOfNormal body) = (Kind.normal q).value body ↔
      ¬runTogether <:+: Atom.read body := by
  rw [Atom.value_normal]
  exact (value_templateOfAtoms (Atom.fits_of_readQuoted h)).2

/-- An escaped line feed in front of an escaped carriage return, which is left as a line break. -/
theorem value_templateOfNormal_break :
    Token.readQuoted '\'' "\\n\\\r\na'".toList = ⟨"\\n\\\r\na".toList, true, []⟩ ∧
      (Kind.template.value (templateOfNormal "\\n\\\r\na".toList)
          = (Kind.normal .single).value "\\n\\\r\na".toList ↔
        ¬runTogether <:+: Atom.read "\\n\\\r\na".toList) := by
  have h : Token.readQuoted '\'' "\\n\\\r\na'".toList = ⟨"\\n\\\r\na".toList, true, []⟩ := by
    cbv
  exact ⟨h, value_templateOfNormal (q := .single) h⟩

/-- Two line breaks, one with a carriage return and one with a line feed, become a single one. -/
theorem value_templateOfNormal_runTogether :
    Token.readQuoted '\'' "\\n\\\r\\n\\\n'".toList = ⟨"\\n\\\r\\n\\\n".toList, true, []⟩ ∧
      Kind.template.value (templateOfNormal "\\n\\\r\\n\\\n".toList) = [.char '\n'] ∧
      (Kind.normal .single).value "\\n\\\r\\n\\\n".toList = [.char '\n', .char '\n'] := by
  refine ⟨?_, ?_, ?_⟩ <;> cbv

end Escape

end Requote
