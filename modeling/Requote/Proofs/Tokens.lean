import Mathlib
import Requote.Proofs.Bodies

/-!
# How a text starts with a token

An operator ends in front of every character that is no part of an operator, of a name or of a
number. So each kind of token can be told by the characters that a text starts with, without going
through the other kinds first, and each goes on as far as it can.
-/

namespace Requote

namespace Token

variable {previous : Option Char} {resumes : Bool} {s t u w : Text} {x : Token} {y c : Char}

/-! ### Neutral characters -/

/-- A character that ends every operator and every name in front of it. -/
def isNeutral (c : Char) : Bool :=
  !isNameChar c && !c.isDigit && c != '.' && symbols.all fun s => !s.contains c

lemma not_mem_symbol_of_isNeutral (hy : isNeutral y = true) {w : Text} (hw : w ∈ symbols) :
    y ∉ w := by
  simp only [isNeutral, Bool.and_eq_true, List.all_eq_true] at hy
  simpa using hy.2 w hw

lemma isNameChar_of_mem_words {w : Text} (hw : w ∈ words) {c : Char} (hc : c ∈ w) :
    isNameChar c = true := by
  have hall : words.all (fun w => w.all isNameChar) = true := by decide
  exact List.all_eq_true.mp (List.all_eq_true.mp hall w hw) c hc

lemma not_isNameChar_of_isNeutral (hy : isNeutral y = true) : isNameChar y = false := by
  simp only [isNeutral, Bool.and_eq_true] at hy
  simpa using hy.1.1.1

lemma not_mem_word_of_isNeutral (hy : isNeutral y = true) {w : Text} (hw : w ∈ words) : y ∉ w := by
  intro hmem
  have := isNameChar_of_mem_words hw hmem
  rw [not_isNameChar_of_isNeutral hy] at this
  exact Bool.false_ne_true this

/-- The characters that a token looks for right behind its first one. -/
lemma ne_of_isNeutral (hy : isNeutral y = true) : y ≠ '*' ∧ y ≠ '/' ∧ y ≠ '.' ∧ y ≠ '?' := by
  refine ⟨?_, ?_, ?_, ?_⟩ <;> rintro rfl <;> revert hy <;> decide

lemma isNeutral_of_isBlank (hy : Text.isBlank y = true) : isNeutral y = true := by
  have hall : ∀ n ∈ [9, 10, 11, 12, 13, 0x20, 0x85, 0xa0, 0x1680, 0x2000, 0x2001, 0x2002, 0x2003,
      0x2004, 0x2005, 0x2006, 0x2007, 0x2008, 0x2009, 0x200a, 0x2028, 0x2029, 0x202f, 0x205f,
      0x3000], isNeutral (Char.ofNat n) = true := by
    decide +kernel
  have hmem := hall y.toNat
  rw [Char.ofNat_toNat] at hmem
  apply hmem
  simp only [Text.isBlank, Bool.or_eq_true, Bool.and_eq_true, decide_eq_true_eq, beq_iff_eq] at hy
  simp only [List.mem_cons, List.not_mem_nil, or_false]
  omega

lemma isNeutral_quote (q : Quote) : isNeutral q.char = true := by
  cases q <;> decide

/-! ### Operators end at a neutral character -/

lemma isPrefixOf_append_cons {w : Text} (hy : y ∉ w) :
    w.isPrefixOf (s ++ y :: t) = w.isPrefixOf s := by
  induction w generalizing s with
  | nil => simp
  | cons a w ih =>
    obtain ⟨ha, hw⟩ : y ≠ a ∧ y ∉ w := by simpa using hy
    match s with
    | [] => simp [List.isPrefixOf, ha.symm]
    | b :: s => simp [List.isPrefixOf, ih hw]

lemma startsWithMemberAccess_cons_cons (a b : Char) (t : Text) :
    startsWithMemberAccess (a :: b :: t)
      = (decide (a = '?' ∧ b = '.') && !(t.head?.any Char.isDigit)) := by
  by_cases h : a = '?' ∧ b = '.'
  · obtain ⟨rfl, rfl⟩ := h
    simp [startsWithMemberAccess]
  · rw [startsWithMemberAccess]
    · simp [h]
    · intro t' heq
      simp only [List.cons.injEq] at heq
      exact h ⟨heq.1, heq.2.1⟩

lemma startsWithMemberAccess_append_cons (hy : isNeutral y = true) :
    startsWithMemberAccess (s ++ y :: t) = startsWithMemberAccess s := by
  obtain ⟨-, -, hdot, hask⟩ := ne_of_isNeutral hy
  have hdigit : y.isDigit = false := by
    simp only [isNeutral, Bool.and_eq_true] at hy
    simpa using hy.1.1.2
  match s with
  | [] => simp [startsWithMemberAccess, hask]
  | [a] => simp [startsWithMemberAccess, hdot]
  | [a, b] => simp [startsWithMemberAccess_cons_cons, hdigit]
  | a :: b :: c :: s => simp [startsWithMemberAccess_cons_cons]

/-- A neutral character is no part of the operator in front of it, and does not prevent one. -/
lemma operator?_append_cons (hy : isNeutral y = true) :
    operator? previous (s ++ y :: t) = operator? previous s := by
  have hsymbol : symbol? (s ++ y :: t) = symbol? s := by
    apply List.find?_congr
    intro w hw
    exact isPrefixOf_append_cons (not_mem_symbol_of_isNeutral hy hw)
  have hword : word? previous (s ++ y :: t) = word? previous s := by
    simp only [word?]
    split
    · rfl
    · apply List.find?_congr
      intro w hw
      rw [isPrefixOf_append_cons (not_mem_word_of_isNeutral hy hw)]
      by_cases hpre : w.isPrefixOf s = true
      · obtain ⟨s', rfl⟩ := List.isPrefixOf_iff_prefix.1 hpre
        cases s' with
        | nil => simp [not_isNameChar_of_isNeutral hy]
        | cons d s' => simp
      · simp [hpre]
  simp only [operator?, startsWithMemberAccess_append_cons hy, hsymbol, hword]

lemma operator?_of_isNeutral (hc : isNeutral c = true) : operator? previous (c :: t) = none := by
  have happend :
      operator? previous ([] ++ c :: t) = operator? previous [] := operator?_append_cons hc
  rw [List.nil_append] at happend
  rw [happend]
  cases previous <;> simp [operator?, symbol?, word?, startsWithMemberAccess, symbols, words]

/-! ### Longest runs -/

/-- A run of characters of one kind goes up to the first character of another kind. -/
lemma takeWhile_append {p : Char → Bool} (hw : ∀ c ∈ w, p c = true)
    (hu : ∀ c ∈ u.head?, p c = false) :
    (w ++ u).takeWhile p = w ∧ (w ++ u).dropWhile p = u := by
  cases u with
  | nil => simpa using hw
  | cons d u => simp [List.takeWhile_append_of_pos hw, List.dropWhile_append_of_pos hw, hu d rfl]

lemma head?_dropWhile {p : Char → Bool} (t : Text) : ∀ c ∈ (t.dropWhile p).head?, p c = false := by
  intro c hc
  have hhead := List.head?_dropWhile_not p t
  rw [Option.mem_def.mp hc] at hhead
  simpa using hhead

/-! ### The kinds of tokens -/

/-- The characters of quotes and brackets, which start no token but their own. -/
def delimiters : List Char :=
  ['\'', '"', '\x60', '(', ')', '[', ']', '{', '}']

/-- How a text starts with a token, and what follows it. `previous` is the character in front of the
text, and `resumes` says that a closing brace ends an interpolation there. -/
inductive IsNext (previous : Option Char) (resumes : Bool) (s : Text) : Token → Text → Prop where
  /-- A comment up to the first `*/`, or to the end. -/
  | block {t w u : Text} (hs : s = '/' :: '*' :: t) (h : splitBlock t = (w, u)) :
      IsNext previous resumes s (comment ('/' :: '*' :: w)) u
  /-- A comment up to the end of the line. -/
  | line {w u : Text} (hs : s = '/' :: '/' :: (w ++ u)) (hw : ∀ c ∈ w, Text.isTerminator c = false)
      (hu : ∀ c ∈ u.head?, Text.isTerminator c = true) :
      IsNext previous resumes s (comment ('/' :: '/' :: w)) u
  | quoted {q : Quote} {closed : Bool} {t w u : Text} (hs : s = q.char :: t)
      (h : readQuoted q.char t = ⟨w, closed, u⟩) :
      IsNext previous resumes s (body (.quoted q closed) w) u
  | template {o : Opening} {cl : Option Closing} {t w u : Text} (hs : s = o.text ++ t)
      (hresumes : o = .brace → resumes = true) (h : readTemplate t = ⟨w, cl, u⟩) :
      IsNext previous resumes s (body (.template o cl) w) u
  | opening {b : Bracket} {u : Text} (hs : s = b.opening :: u) :
      IsNext previous resumes s (opening b) u
  /-- A brace that ends no interpolation, or another bracket. -/
  | closing {b : Bracket} {u : Text} (hs : s = b.closing :: u)
      (hresumes : b = .curly → resumes = false) :
      IsNext previous resumes s (closing b) u
  | operator {w u : Text} (hs : s = w ++ u) (h : operator? previous s = some w) :
      IsNext previous resumes s (operator w) u
  | blank {w u : Text} (hs : s = w ++ u) (hne : w ≠ []) (hw : ∀ c ∈ w, Text.isBlank c = true)
      (hu : ∀ c ∈ u.head?, Text.isBlank c = false) : IsNext previous resumes s (blank w) u
  /-- The two characters of member access. -/
  | access {u : Text} (hs : s = '?' :: '.' :: u) (h : operator? previous s = none) :
      IsNext previous resumes s (other ['?', '.']) u
  /-- A character that starts nothing else. -/
  | other {c : Char} {u : Text} (hs : s = c :: u) (h : operator? previous s = none)
      (hdelimiter : c ∉ delimiters) (hslash : c = '/' → u.head? ≠ some '*' ∧ u.head? ≠ some '/')
      (hblank : Text.isBlank c = false) (haccess : c = '?' → u.head? ≠ some '.') :
      IsNext previous resumes s (other [c]) u

lemma not_delimiter_of_isBlank (hc : Text.isBlank c = true) : c ∉ delimiters ∧ c ≠ '/' := by
  have hall : ∀ d ∈ '/' :: delimiters, Text.isBlank d = false := by simp [delimiters, Text.isBlank]
  constructor
  · intro hmem
    simp [hall c (List.mem_cons_of_mem _ hmem)] at hc
  · rintro rfl
    simp [hall _ List.mem_cons_self] at hc

/-- What is read of a text that starts neither with a string or a bracket nor with a comment. -/
lemma read_of_not_delimiter (hc : c ∉ delimiters)
    (hslash : c = '/' → t.head? ≠ some '*' ∧ t.head? ≠ some '/') :
    read previous resumes c t = (operator? previous (c :: t)).elim
      (if Text.isBlank c then
        (blank (c :: t.takeWhile Text.isBlank), t.dropWhile Text.isBlank)
      else if c = '?' ∧ t.head? = some '.' then
        (other ['?', '.'], t.tail)
      else
        (other [c], t))
      fun symbol => (operator symbol, (c :: t).drop symbol.length) := by
  simp only [delimiters, List.mem_cons, List.not_mem_nil, or_false, not_or] at hc
  have hblock : ¬(c = '/' ∧ t.head? = some '*') := fun h => (hslash h.1).1 h.2
  have hline : ¬(c = '/' ∧ t.head? = some '/') := fun h => (hslash h.1).2 h.2
  have hquote : Quote.ofChar? c = none := by
    simp only [Quote.ofChar?]
    split <;> simp_all
  have hopening : Bracket.ofOpening? c = none := by
    simp only [Bracket.ofOpening?]
    split <;> simp_all
  have hclosing : Bracket.ofClosing? c = none := by
    simp only [Bracket.ofClosing?]
    split <;> simp_all
  simp only [read, hc, hblock, hline, hquote, hopening, hclosing, false_and, if_false]
  cases operator? previous (c :: t) <;> rfl

lemma splitLine_slash (t : Text) :
    splitLine ('/' :: t) = ('/' :: (splitLine t).1, (splitLine t).2) := by
  simp [splitLine, Text.isTerminator]

/-- No operator looks like the start of a string, a bracket or a comment. -/
lemma not_delimiter_of_operator? (h : operator? previous (c :: t) = some w) :
    c ∉ delimiters ∧ (c = '/' → t.head? ≠ some '*' ∧ t.head? ≠ some '/') := by
  have hall : (symbols ++ words).all (fun w => w.head?.all fun c =>
      !delimiters.contains c && (c != '/' || w.tail == ['='])) = true := by
    decide
  obtain ⟨hmem, u, hu⟩ := operator?_eq_some h
  cases w with
  | nil => exact absurd rfl (operator_ne_nil hmem)
  | cons d w =>
    obtain ⟨rfl, rfl⟩ := List.cons.inj hu
    obtain ⟨hdelimiter, hslash⟩ : d ∉ delimiters ∧ (d = '/' → w = ['=']) := by
      simpa [or_iff_not_imp_left] using List.all_eq_true.mp hall _ hmem
    refine ⟨hdelimiter, ?_⟩
    rintro rfl
    simp [hslash rfl]

/-- A token that a text starts with is the one that is read. -/
lemma IsNext.next?_eq (h : IsNext previous resumes s x u) :
    next? previous resumes s = some (x, u) := by
  cases h with
  | block hs h => simp [hs, next?, read, h]
  | line hs hw hu =>
    obtain ⟨htake, hdrop⟩ := takeWhile_append (p := fun c => !Text.isTerminator c)
      (by simpa using hw) (by simpa using hu)
    have hsplit : splitLine (_ ++ u) = (_, u) := Prod.ext htake hdrop
    simp [hs, next?, read, splitLine_slash, hsplit]
  | @quoted q _ _ _ _ hs h =>
    have hslash : q.char ≠ '/' := by cases q <;> decide
    simp [hs, next?, read, hslash, h]
  | @template o _ _ _ _ hs hresumes h =>
    cases o with
    | backtick => simp [hs, next?, read, Opening.text, Quote.ofChar?, h]
    | brace => simp [hs, next?, read, Opening.text, Quote.ofChar?, hresumes rfl, h]
  | @opening b _ hs =>
    cases b <;> simp [hs, next?, read, Bracket.opening, Quote.ofChar?, Bracket.ofOpening?]
  | @closing b _ hs hresumes =>
    cases b <;> simp_all [next?, read, Bracket.closing, Quote.ofChar?, Bracket.ofOpening?,
      Bracket.ofClosing?]
  | @operator w _ hs hw =>
    obtain ⟨c, t, rfl⟩ : ∃ c t, s = c :: t := by
      cases w with
      | nil => exact absurd rfl (operator_ne_nil (operator?_eq_some hw).1)
      | cons c w => exact ⟨c, _, hs⟩
    obtain ⟨hdelimiter, hslash⟩ := not_delimiter_of_operator? hw
    rw [next?, read_of_not_delimiter hdelimiter hslash, hw, Option.elim_some, hs, List.drop_left]
  | @blank w _ hs hne hw hu =>
    obtain ⟨c, w, rfl⟩ := List.exists_cons_of_ne_nil hne
    have hc := hw c List.mem_cons_self
    obtain ⟨hdelimiter, hslash⟩ := not_delimiter_of_isBlank hc
    obtain ⟨htake, hdrop⟩ := takeWhile_append (List.forall_mem_cons.mp hw).2 hu
    simp [hs, next?, read_of_not_delimiter hdelimiter (fun h => absurd h hslash),
      operator?_of_isNeutral (isNeutral_of_isBlank hc), hc, htake, hdrop]
  | access hs h =>
    subst hs
    have hblank : Text.isBlank '?' = false := by decide
    rw [next?, read_of_not_delimiter (by decide) (by simp), h]
    simp [hblank]
  | other hs h hdelimiter hslash hblank haccess =>
    subst hs
    rw [next?, read_of_not_delimiter hdelimiter hslash, h]
    simp_all

/-- Every text but the empty one starts with a token. -/
lemma exists_isNext (previous : Option Char) (resumes : Bool) (c : Char) (t : Text) :
    ∃ x u, IsNext previous resumes (c :: t) x u := by
  by_cases hdelimiter : c ∈ delimiters
  · simp only [delimiters, List.mem_cons, List.not_mem_nil, or_false] at hdelimiter
    rcases hdelimiter with rfl | rfl | rfl | rfl | rfl | rfl | rfl | rfl | rfl
    · exact ⟨_, _, .quoted (q := .single) rfl rfl⟩
    · exact ⟨_, _, .quoted (q := .double) rfl rfl⟩
    · exact ⟨_, _, .template (o := .backtick) rfl (by simp) rfl⟩
    · exact ⟨_, _, .opening (b := .round) rfl⟩
    · exact ⟨_, _, .closing (b := .round) rfl (by simp)⟩
    · exact ⟨_, _, .opening (b := .square) rfl⟩
    · exact ⟨_, _, .closing (b := .square) rfl (by simp)⟩
    · exact ⟨_, _, .opening (b := .curly) rfl⟩
    · cases resumes with
      | true => exact ⟨_, _, .template (o := .brace) rfl (by simp) rfl⟩
      | false => exact ⟨_, _, .closing (b := .curly) rfl (by simp)⟩
  by_cases hblock : c = '/' ∧ t.head? = some '*'
  · obtain ⟨rfl, hstar⟩ := hblock
    obtain ⟨t, rfl⟩ := List.head?_eq_some_iff.mp hstar
    exact ⟨_, _, .block rfl rfl⟩
  by_cases hline : c = '/' ∧ t.head? = some '/'
  · obtain ⟨rfl, hslash⟩ := hline
    obtain ⟨t, rfl⟩ := List.head?_eq_some_iff.mp hslash
    refine ⟨_, _,
      .line (w := (splitLine t).1) (u := (splitLine t).2) (by rw [splitLine_append]) ?_ ?_⟩
    · intro d hd
      simpa using List.mem_takeWhile_imp hd
    · intro d hd
      simpa using head?_dropWhile t d hd
  match hoperator : operator? previous (c :: t) with
  | some w =>
    obtain ⟨u, hu⟩ := (operator?_eq_some hoperator).2
    exact ⟨_, _, .operator hu.symm hoperator⟩
  | none =>
    by_cases hblank : Text.isBlank c = true
    · refine ⟨_, _, .blank (w := c :: t.takeWhile Text.isBlank) (by simp) (by simp) ?_
        (head?_dropWhile t)⟩
      exact List.forall_mem_cons.mpr ⟨hblank, fun d hd => List.mem_takeWhile_imp hd⟩
    by_cases haccess : c = '?' ∧ t.head? = some '.'
    · obtain ⟨rfl, hdot⟩ := haccess
      obtain ⟨t, rfl⟩ := List.head?_eq_some_iff.mp hdot
      exact ⟨_, _, .access rfl hoperator⟩
    exact ⟨_, _, .other rfl hoperator hdelimiter
      (fun hc => ⟨fun h => hblock ⟨hc, h⟩, fun h => hline ⟨hc, h⟩⟩) (by simpa using hblank)
      fun hc h => haccess ⟨hc, h⟩⟩

/-- The token that is read is the one that the text starts with. -/
theorem next?_eq_some_iff :
    next? previous resumes s = some (x, u) ↔ IsNext previous resumes s x u := by
  refine ⟨fun h => ?_, IsNext.next?_eq⟩
  cases s with
  | nil => simp [next?] at h
  | cons c t =>
    obtain ⟨x', u', hx'⟩ := exists_isNext previous resumes c t
    obtain ⟨rfl, rfl⟩ := Prod.mk.inj (Option.some.inj (hx'.next?_eq.symm.trans h))
    exact hx'

/-! ### Blanks and strings -/

/-- A run of blanks is as long as it can be. -/
lemma next?_eq_blank (h : next? previous resumes t = some (blank w, u)) :
    (∀ c ∈ w, Text.isBlank c = true) ∧ ∀ c ∈ u.head?, Text.isBlank c = false := by
  cases next?_eq_some_iff.mp h with
  | blank _ _ hw hu => exact ⟨hw, hu⟩

/-- A run of blanks is one token. -/
lemma next?_blank (hne : w ≠ []) (hw : ∀ c ∈ w, Text.isBlank c = true)
    (hu : ∀ c ∈ u.head?, Text.isBlank c = false) :
    next? previous resumes (w ++ u) = some (blank w, u) :=
  (IsNext.blank rfl hne hw hu).next?_eq

lemma next?_quote (q : Quote) (t : Text) :
    next? previous resumes (q.char :: t)
      = some (body (.quoted q (readQuoted q.char t).ended) (readQuoted q.char t).body,
          (readQuoted q.char t).rest) :=
  (IsNext.quoted rfl rfl).next?_eq

lemma next?_backtick (t : Text) :
    next? previous resumes ('\x60' :: t)
      = some (body (.template .backtick (readTemplate t).ended) (readTemplate t).body,
          (readTemplate t).rest) :=
  (IsNext.template (o := .backtick) rfl (by simp) rfl).next?_eq

/-- Where an interpolation can end, a closing brace ends it. -/
lemma next?_brace (t : Text) :
    next? previous true ('}' :: t)
      = some (body (.template .brace (readTemplate t).ended) (readTemplate t).body,
          (readTemplate t).rest) :=
  (IsNext.template (o := .brace) rfl (fun _ => rfl) rfl).next?_eq

/-- A quoted literal starts with its quote and ends where its body does. -/
lemma next?_eq_quoted {q : Quote} {e : Bool} {b : Text}
    (h : next? previous resumes t = some (body (.quoted q e) b, u)) :
    ∃ t', t = q.char :: t' ∧ readQuoted q.char t' = ⟨b, e, u⟩ := by
  cases next?_eq_some_iff.mp h with
  | quoted ht hread => exact ⟨_, ht, hread⟩

/-- A template body starts with its opening delimiter, a brace only where an interpolation can
end. -/
lemma next?_eq_template {o : Opening} {e : Option Closing} {b : Text}
    (h : next? previous resumes t = some (body (.template o e) b, u)) :
    ∃ t', t = o.text ++ t' ∧ readTemplate t' = ⟨b, e, u⟩ ∧ (o = .brace → resumes = true) := by
  cases next?_eq_some_iff.mp h with
  | template ht hresumes hread => exact ⟨_, ht, hread, hresumes⟩

/-- A literal starts with a character that ends every token in front of it. -/
lemma wrap_eq_cons {d : Delimiters} (hd : d.isFirst = true) (s : Text) :
    ∃ c w, d.wrap s = c :: w ∧ isNeutral c = true ∧ Text.isBlank c = false := by
  obtain q | ⟨_ | _, e⟩ := d
  · exact ⟨q.char, _, rfl, isNeutral_quote q, by cases q <;> decide⟩
  · exact ⟨'\x60', _, rfl, by decide, by decide⟩
  · simp [Delimiters.isFirst] at hd

end Token

end Requote
