import Requote.Proofs.Stack

/-!
# Operands are read as code

In a concatenation the code of an interpolation stands between pluses, and perhaps in parentheses.
None of these is a string, and outside all interpolations brackets do not matter. So the code is
read as it was in the interpolation, as long as its last token stops where it did: a line comment
would not.
-/

namespace Requote

/-- What a body is written as, wherever it stands. -/
def Body.written (b : Body) : Delimiters × Text :=
  (b.delimiters, b.text)

/-- Whether a character has no part in a string, in a bracket or in a comment. -/
def Text.isPlain (c : Char) : Bool :=
  !(['\'', '"', '\x60', '(', ')', '[', ']', '{', '}', '/'] : List Char).contains c

namespace Token

variable {previous : Option Char} {resumes : Bool} {t u w : Text} {c : Char} {x : Token}
  {offset : Nat} {s : List (List Bracket)}

/-- What the strings of a row are written as does not depend on where the row starts. -/
lemma map_written_bodiesAt (offset offset' : Nat) (xs : List Token) :
    (bodiesAt offset xs).map Body.written = (bodiesAt offset' xs).map Body.written := by
  induction xs generalizing offset offset' with
  | nil => rfl
  | cons x xs ih =>
    rw [bodiesAt, bodiesAt, List.map_append, List.map_append, ih _ (offset' + x.text.size)]
    cases x <;> rfl

/-! ### Plain characters -/

lemma isPlain_of_isBlank (hc : Text.isBlank c = true) : Text.isPlain c = true := by
  have hall :
      ∀ c ∈ ['\'', '"', '\x60', '(', ')', '[', ']', '{', '}', '/'], Text.isBlank c = false := by
    simp [Text.isBlank]
  by_contra hplain
  simp only [Text.isPlain, Bool.not_eq_true', List.contains_eq_mem, decide_eq_false_iff_not,
    not_not] at hplain
  simp [hall c hplain] at hc

/-! ### Blanks, pluses and brackets -/

lemma isBlank_of_next? (h : next? previous resumes (c :: t) = some (x, u))
    (hx : x.isBlank = false) :
    Text.isBlank c = false := by
  by_contra hc
  have hsplit : c :: t = (c :: t.takeWhile Text.isBlank) ++ t.dropWhile Text.isBlank := by simp
  rw [hsplit, next?_blank (by simp) ?_ (head?_dropWhile t)] at h
  · obtain ⟨rfl, -⟩ := Prod.mk.inj (Option.some.inj h)
    simp [isBlank] at hx
  · exact List.forall_mem_cons.mpr ⟨by simpa using hc, fun d hd => List.mem_takeWhile_imp hd⟩

lemma next?_plus (t : Text) :
    next? previous resumes ('+' :: ' ' :: t) = some (operator ['+'], ' ' :: t) := by
  have hoperator : operator? previous ('+' :: ' ' :: t) = some ['+'] := by
    have happend : operator? previous (['+'] ++ ' ' :: t) = operator? previous ['+'] :=
      operator?_append_cons (by decide)
    rw [List.singleton_append] at happend
    rw [happend]
    rfl
  exact (IsNext.operator (w := ['+']) rfl hoperator).next?_eq

lemma next?_opening (b : Bracket) (t : Text) :
    next? previous resumes (b.opening :: t) = some (opening b, t) :=
  (IsNext.opening rfl).next?_eq

/-- Where an interpolation can end, a closing brace would end it. -/
lemma next?_closing {b : Bracket} (hb : b = .curly → resumes = false) (t : Text) :
    next? previous resumes (b.closing :: t) = some (closing b, t) :=
  (IsNext.closing rfl hb).next?_eq

/-! ### Tokens that stop by themselves -/

/-- Whether a token is a comment that goes on to the end of its line. -/
def isLineComment : Token → Bool
  | comment ('/' :: '/' :: _) => true
  | _                         => false

/-- A token that is no line comment, no run of blanks and no literal without an end stops the same
whatever follows. -/
lemma isOpen_eq_false (hcomment : x.isLineComment = false) (hblank : x.isBlank = false)
    (hproblems : x.problems offset s = []) : x.isOpen = false := by
  cases x with
  | comment t =>
    revert hcomment
    simp only [isLineComment, isOpen]
    split <;> simp
  | body d t =>
    by_contra hd
    simp_all [isOpen, problems]
  | blank t => simp [isBlank] at hblank
  | opening b | closing b | operator t | other t => rfl

end Token

namespace Reader

variable {r r' s : Reader} {t u w : Text} {c : Char} {x : Token} {mid : List Token}

/-! ### Outside all interpolations -/

/-- A state outside all interpolations, with no problem so far. -/
def IsClear (r : Reader) : Prop :=
  r.frames = [] ∧ r.diagnostics = []

lemma IsClear.step (h : r.IsClear) (hx : x.isResuming = false) (hstack : x.onStack [] = [])
    (hproblems : x.problems r.offset [] = []) : (r.step x).IsClear := by
  have hr : r.stack = [] := stack_eq_nil.mpr h.1
  refine ⟨?_, ?_⟩
  · rw [← stack_eq_nil, stack_step (by simp [hx]), hr, hstack]
  · rw [diagnostics_step, h.2, hr, hproblems, List.append_nil]

/-- A plus with blanks around it is no string. The blanks before it may be more. -/
lemma exists_reads_plus (hr : r.IsClear) (hw : ∀ d ∈ w, Text.isBlank d = true)
    (hc : Text.isBlank c = false) (t : Text) :
    ∃ xs r', Reads r (w ++ (" + ".toList ++ c :: t)) xs r' (c :: t) ∧ r'.IsClear ∧
      (∀ o, Token.bodiesAt o xs = []) ∧ Token.bars r'.previous = false := by
  refine ⟨[.blank (w ++ [' ']), .operator ['+'], .blank [' ']], _,
    .cons ?_ (.cons (Token.next?_plus (c :: t)) (.single ?_)), ?_, fun _ => rfl, ?_⟩
  · have hblank : ∀ d ∈ w ++ [' '], Text.isBlank d = true := by
      intro d hd
      rcases List.mem_append.mp hd with hd | hd
      · exact hw d hd
      · obtain rfl := List.mem_singleton.mp hd
        rfl
    simpa using @Token.next?_blank r.previous r.resumes ('+' :: ' ' :: c :: t) _ (by simp) hblank
      (by simp [Text.isBlank])
  · simpa using Token.next?_blank (w := [' ']) (u := c :: t) (by simp) (by simp [Text.isBlank])
      (by simpa using hc)
  · exact ((hr.step rfl rfl rfl).step rfl rfl rfl).step rfl rfl rfl
  · rw [previous_step (by simp [Token.text])]
    rfl

/-- What opens an operand is no string. -/
lemma exists_reads_openOperand (hr : r.IsClear) (hc : Text.isBlank c = false) (g : Group)
    (t : Text) :
    ∃ xs r', Reads r (Concatenation.openOperand g ++ c :: t) xs r' (c :: t) ∧ r'.IsClear ∧
      (∀ o, Token.bodiesAt o xs = []) ∧ Token.bars r'.previous = false := by
  cases hlow : g.lowPriority with
  | false =>
    simpa [Concatenation.openOperand, hlow] using exists_reads_plus (w := []) hr (by simp) hc t
  | true =>
    obtain ⟨xs, r', hxs, hr', hbodies, -⟩ :=
      exists_reads_plus (w := []) (c := '(') hr (by simp) (by decide) (c :: t)
    refine ⟨xs ++ [.opening .round], _,
      by simpa [Concatenation.openOperand, hlow] using
        hxs.append (.single (Token.next?_opening .round _)),
      hr'.step rfl rfl rfl, ?_, ?_⟩
    · intro o
      simp [Token.bodiesAt_append, hbodies, Token.bodiesAt, Token.bodyAt?]
    · rw [previous_step (by simp [Token.text])]
      rfl

/-- What closes an operand is no string, and neither are blanks in front of it. -/
lemma exists_reads_closeOperand (hr : r.IsClear) (hw : ∀ d ∈ w, Text.isBlank d = true)
    (hc : Text.isBlank c = false) (g : Group) (t : Text) :
    ∃ xs r', Reads r (w ++ (Concatenation.closeOperand g ++ c :: t)) xs r' (c :: t) ∧ r'.IsClear ∧
      ∀ o, Token.bodiesAt o xs = [] := by
  cases hlow : g.lowPriority with
  | false =>
    obtain ⟨xs, r', hxs, hr', hbodies, -⟩ := exists_reads_plus hr hw hc t
    exact ⟨xs, r', by simpa [Concatenation.closeOperand, hlow] using hxs, hr', hbodies⟩
  | true =>
    -- the blanks are a token of their own in front of the parenthesis
    obtain ⟨ys, r₁, hys, hr₁, hbodies₁⟩ : ∃ ys r₁,
        Reads r (w ++ ')' :: (" + ".toList ++ c :: t)) ys r₁ (')' :: (" + ".toList ++ c :: t)) ∧
          r₁.IsClear ∧ ∀ o, Token.bodiesAt o ys = [] := by
      cases w with
      | nil => exact ⟨[], r, .nil _ _, hr, fun _ => rfl⟩
      | cons d w =>
        exact ⟨[.blank (d :: w)], _,
          .single (Token.next?_blank (by simp) hw (by simp [Text.isBlank])),
          hr.step rfl rfl rfl, fun _ => rfl⟩
    obtain ⟨zs, r', hzs, hr', hbodies, -⟩ := exists_reads_plus (w := [])
      (hr₁.step (x := .closing .round) rfl rfl rfl) (by simp) hc t
    refine ⟨ys ++ (.closing .round :: zs), r', ?_, hr', ?_⟩
    · simpa [Concatenation.closeOperand, hlow]
        using hys.append (.cons (Token.next?_closing (b := .round) (by simp) _) hzs)
    · intro o
      simp [Token.bodiesAt_append, hbodies₁, Token.bodiesAt, Token.bodyAt?, hbodies]

/-! ### The code of an interpolation -/

/-- Reading the code of an interpolation that stands outside all others. The code starts with no
blank, and nothing in it ends the interpolation. -/
structure ReadsCode (r : Reader) (t : Text) (mid : List Token) (r' : Reader) (u : Text) : Prop where
  reads   : Reads r t mid r' u
  ne_nil  : mid ≠ []
  head    : ∀ x ∈ mid.head?, x.isBlank = false
  stays   : Stays 1 r mid
  start   : r.frames.length = 1
  stop    : r'.frames.length = 1
  bars    : Token.bars r.previous = false
  neutral : ∃ y v, u = y :: v ∧ Token.isNeutral y = true

/-- The code starts with the character of a token that is not blank. -/
lemma ReadsCode.textOf_eq_cons (h : ReadsCode r t mid r' u) :
    ∃ a m, Token.textOf mid = a :: m ∧ Text.isBlank a = false := by
  obtain ⟨hreads, hne, hhead, -⟩ := h
  cases hreads with
  | nil => exact absurd rfl hne
  | @cons _ _ _ u' _ x xs hx _ =>
    obtain ⟨happ, hne'⟩ := Token.next?_eq_some hx
    obtain ⟨a, m, ham⟩ := List.exists_cons_of_ne_nil hne'
    rw [← happ, ham] at hx
    exact ⟨a, m ++ Token.textOf xs, by simp [ham], Token.isBlank_of_next? hx (hhead x rfl)⟩

/-- Where the code can be read with no interpolation around. -/
lemma ReadsCode.follows (h : ReadsCode r t mid r' u) (hs : s.IsClear)
    (hbars : Token.bars s.previous = false) : Follows 1 r s := by
  refine ⟨by rw [hbars, h.bars], ⟨r.stack, by rw [length_stack, h.start], ?_⟩, hs.2⟩
  rw [stack_eq_nil.mpr hs.1, List.nil_append]

lemma Follows.isClear (h : Follows 1 r s) (hr : r.frames.length = 1) : s.IsClear := by
  obtain ⟨T, hT, hstack⟩ := h.stack
  have hlength := congrArg List.length hstack
  rw [length_stack, hr, List.length_append, hT] at hlength
  exact ⟨stack_eq_nil.mp (List.length_eq_zero_iff.mp (by omega)), h.diagnostics⟩

lemma Reads.eq_step (h : Reads r t [x] r' u) :
    r' = r.step x ∧ Token.next? r.previous r.resumes t = some (x, u) := by
  cases h with
  | cons hx h =>
    cases h
    exact ⟨rfl, hx⟩

/-- Code that does not end in a line comment is read the same in front of another neutral character.
Only blanks at its end may get longer, and these are no string. -/
lemma ReadsCode.exists_front (h : ReadsCode r t mid r' u) (hd : r'.diagnostics = [])
    (hlast : ∀ x ∈ mid.getLast?, x.isLineComment = false) :
    ∃ front w r₁, Token.textOf mid = Token.textOf front ++ w ∧ (∀ d ∈ w, Text.isBlank d = true) ∧
      Token.bodiesAt 0 mid = Token.bodiesAt 0 front ∧ Stays 1 r front ∧
      r₁.frames.length = 1 ∧ r₁.diagnostics = [] ∧
      ∀ z Z, Token.isNeutral z = true →
        Reads r (Token.textOf front ++ (w ++ z :: Z)) front r₁ (w ++ z :: Z) := by
  obtain ⟨y, v, rfl, hy⟩ := h.neutral
  obtain ⟨front, x, rfl⟩ := (List.eq_nil_or_concat' mid).resolve_left h.ne_nil
  obtain ⟨r₁, u, hfront, hsingle⟩ := h.reads.split
  obtain ⟨rfl, hx⟩ := hsingle.eq_step
  rw [diagnostics_step, List.append_eq_nil_iff] at hd
  cases hblank : x.isBlank with
  | false =>
    have hopen : x.isOpen = false := Token.isOpen_eq_false (hlast x (by simp)) hblank hd.2
    refine ⟨front ++ [x], [], r₁.step x, by simp, by simp, rfl, h.stays, h.stop, ?_, ?_⟩
    · rw [diagnostics_step, hd.1, hd.2, List.append_nil]
    · intro z Z hz
      exact h.reads.congr (m := []) hy hz (by simp [Token.Stops, hopen]) Z
  | true =>
    cases x with
    | blank w =>
      obtain ⟨happ, hne⟩ := Token.next?_eq_some hx
      obtain ⟨hw, -⟩ := Token.next?_eq_blank hx
      have hbodies : Token.bodiesAt 0 (front ++ [.blank w]) = Token.bodiesAt 0 front := by
        simp [Token.bodiesAt_append, Token.bodiesAt, Token.bodyAt?]
      have hframes : r₁.frames.length = 1 := by
        rw [← h.stop, ← length_stack, ← length_stack, stack_step (by simp [Token.isResuming])]
        rfl
      refine ⟨front, w, r₁, by simp [Token.text], hw, hbodies, (stays_append.mp h.stays).1, hframes,
        hd.1, ?_⟩
      intro z Z hz
      rw [← happ] at hfront
      exact hfront.congr hy hz (fun hnil => absurd hnil hne) Z
    | body | opening | closing | operator | comment | other => simp [Token.isBlank] at hblank

lemma closeOperand_eq_cons (g : Group) (t : Text) :
    ∃ z Z, Concatenation.closeOperand g ++ t = z :: Z ∧ Token.isNeutral z = true := by
  cases hlow : g.lowPriority
  · exact ⟨' ', '+' :: ' ' :: t, by simp [Concatenation.closeOperand, hlow], by decide⟩
  · exact ⟨')', ' ' :: '+' :: ' ' :: t, by simp [Concatenation.closeOperand, hlow], by decide⟩

/-- An operand is read as far as its code is read the same in front of it. -/
lemma ReadsCode.exists_reads_openOperand {front : List Token} {rest m : Text} {r₁ : Reader}
    (h : ReadsCode r t mid r' u) (hs : s.IsClear)
    (hfront : Reads r (Token.textOf front ++ rest) front r₁ rest) (hstays : Stays 1 r front)
    (hd : r₁.diagnostics = []) (hcode : Token.textOf front ++ rest = Token.textOf mid ++ m)
    (g : Group) :
    ∃ xs s',
      Reads s (Concatenation.openOperand g ++ (Token.textOf mid ++ m)) (xs ++ front) s' rest ∧
      Follows 1 r₁ s' ∧ ∀ o, Token.bodiesAt o xs = [] := by
  obtain ⟨a, m', hmid, ha⟩ := h.textOf_eq_cons
  obtain ⟨xs, s₁, hxs, hs₁, hbodies, hbars⟩ := Reader.exists_reads_openOperand hs ha g (m' ++ m)
  obtain ⟨s₂, hfront', hs₂⟩ := hfront.follows hstays hd (h.follows hs₁ hbars)
  rw [hcode, hmid, List.cons_append] at hfront'
  rw [hmid, List.cons_append]
  exact ⟨xs, s₂, hxs.append hfront', hs₂, hbodies⟩

/-- The code of an interpolation is read as an operand, unless it ends in a line comment. -/
lemma ReadsCode.exists_reads_operand (h : ReadsCode r t mid r' u) (hd : r'.diagnostics = [])
    (hlast : ∀ x ∈ mid.getLast?, x.isLineComment = false) (hs : s.IsClear)
    (hc : Text.isBlank c = false) (g : Group) (v : Text) :
    ∃ xs s', Reads s (Concatenation.openOperand g ++ (Token.textOf mid
        ++ (Concatenation.closeOperand g ++ c :: v))) xs s' (c :: v) ∧ s'.IsClear ∧
      (Token.bodiesAt 0 xs).map Body.written = (Token.bodiesAt 0 mid).map Body.written := by
  obtain ⟨front, w, r₁, htext, hw, hbodies, hstays, hframes, hd', hfront⟩ := h.exists_front hd hlast
  obtain ⟨z, Z, hclose, hz⟩ := closeOperand_eq_cons g (c :: v)
  have hfront' := hfront z Z hz
  rw [← hclose] at hfront'
  obtain ⟨xs, s₁, hxs, hs₁, hxs'⟩ := h.exists_reads_openOperand hs hfront' hstays hd'
    (by rw [← List.append_assoc, htext]) g
  obtain ⟨zs, s₂, hzs, hs₂, hzs'⟩ := exists_reads_closeOperand (hs₁.isClear hframes) hw hc g v
  refine ⟨xs ++ front ++ zs, s₂, hxs.append hzs, hs₂, ?_⟩
  rw [Token.bodiesAt_append, Token.bodiesAt_append, hxs', hzs', hbodies, List.nil_append,
    List.append_nil]
  exact Token.map_written_bodiesAt _ _ _

end Reader

end Requote
