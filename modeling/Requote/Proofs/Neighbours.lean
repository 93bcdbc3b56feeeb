import Mathlib
import Requote.Proofs.Reading
import Requote.Proofs.Tokens

/-!
# Tokens and their neighbours

A token depends on the text around it in few ways. Operators and words look a few characters ahead,
and words look at the character in front; a run of blanks and a line comment go on as long as they
can. So a token stays the same token when the text after it is replaced, as long as both texts start
with a character that is no part of an operator or a name, and the token does not go on into them.
-/

namespace Requote

namespace Token

variable {previous previous' : Option Char} {resumes : Bool} {s t u : Text} {x : Token} {y z : Char}

/-! ### The text after a token -/

/-- Whether a token goes on as long as the text lets it: a line comment, a run of blanks, or a
literal that is cut off. -/
def isOpen : Token → Bool
  | comment ('/' :: '/' :: _) => true
  | blank _                   => true
  | body d _                  => !d.isTerminated
  | _                         => false

/-- Whether a token that stops in front of one character stops in front of another one as well. -/
def Stops (x : Token) (y z : Char) : Prop :=
  x.isOpen = false ∨ (Text.isBlank y = false ∧ Text.isBlank z = false) ∨ y = z

lemma head?_splitBlock (t : Text) : (splitBlock t).1.head? = t.head? := by
  fun_cases splitBlock t <;> rfl

/-- A block comment that something follows ends the same whatever follows. -/
lemma splitBlock_congr (h : splitBlock t = (s, u)) (hu : u ≠ []) (v : Text) :
    splitBlock (s ++ v) = (s, v) := by
  obtain ⟨rfl, rfl⟩ := Prod.mk.inj h
  clear h
  fun_induction splitBlock t with
  | case1 => simp at hu
  | case2 t => simp [splitBlock]
  | case3 c t hc ih =>
    rw [List.cons_append, splitBlock, ih hu]
    rintro u' rfl hu'
    match t with
    | [] => simp [splitBlock] at hu
    | d :: t =>
      obtain ⟨b, hb⟩ := List.head?_eq_some_iff.1 (head?_splitBlock (d :: t))
      rw [hb] at hu'
      obtain rfl : d = '/' := (List.cons.inj hu').1
      exact hc t rfl rfl

lemma readQuoted_congr {q : Quote} {body Y Z : Text} {e : Bool}
    (h : readQuoted q.char (t ++ y :: Y) = ⟨body, e, u ++ y :: Y⟩)
    (hopen : u = [] → e = true ∨ Text.isBlank y = false ∨ y = z) :
    readQuoted q.char (t ++ z :: Z) = ⟨body, e, u ++ z :: Z⟩ := by
  have happ := readQuoted_append q (t ++ y :: Y)
  rw [h, ← List.append_assoc, ← List.append_assoc] at happ
  have ht := List.append_cancel_right happ
  rw [← ht]
  match e, u with
  | true, u =>
    simpa [Delimiters.closing, Delimiters.closing?] using readQuoted_closed h (u ++ z :: Z)
  | false, [] =>
    have hend := readQuoted_cut h y (by simp)
    rcases hopen rfl with he | hblank | rfl
    · exact absurd he Bool.false_ne_true
    · rw [Text.isBlank_of_isTerminator hend] at hblank
      exact absurd hblank.symm Bool.false_ne_true
    · have hy : t ++ y :: Y = body ++ y :: Y := by
        simp [← ht, Delimiters.closing, Delimiters.closing?]
      simpa [Delimiters.closing, Delimiters.closing?] using readQuoted_stop h hy Z
  | false, d :: u =>
    have hd : t ++ y :: Y = body ++ d :: (u ++ y :: Y) := by
      simp [← ht, Delimiters.closing, Delimiters.closing?]
    simpa [Delimiters.closing, Delimiters.closing?] using readQuoted_stop h hd (u ++ z :: Z)

lemma readTemplate_congr {body Y Z : Text} {e : Option Closing}
    (h : readTemplate (t ++ y :: Y) = ⟨body, e, u ++ y :: Y⟩) :
    readTemplate (t ++ z :: Z) = ⟨body, e, u ++ z :: Z⟩ := by
  have happ := readTemplate_append .backtick (t ++ y :: Y)
  rw [h, ← List.append_assoc, ← List.append_assoc] at happ
  have ht := List.append_cancel_right happ
  rw [← ht]
  match e with
  | none => simpa using readTemplate_cut h
  | some cl =>
    simpa [Delimiters.closing, Delimiters.closing?] using readTemplate_closed h (u ++ z :: Z)

lemma head?_append_ne {Y Z : Text} {d : Char} (h : (u ++ y :: Y).head? ≠ some d) (hz : z ≠ d) :
    (u ++ z :: Z).head? ≠ some d := by
  cases u with
  | nil => simpa using hz
  | cons c u => simpa using h

/-- A token stays the same when the text from a neutral character on, which it does not reach, is
replaced by another one. -/
lemma next?_congr {Y Z : Text} (hx : next? previous resumes (t ++ y :: Y) = some (x, u ++ y :: Y))
    (hy : isNeutral y = true) (hz : isNeutral z = true) (hopen : u = [] → x.Stops y z) :
    next? previous resumes (t ++ z :: Z) = some (x, u ++ z :: Z) := by
  obtain ⟨happ, hne⟩ := next?_eq_some hx
  rw [← List.append_assoc] at happ
  obtain rfl := List.append_cancel_right happ
  have hcons : ∀ {c : Char} {t : Text}, x.text ++ u ++ y :: Y = c :: t →
      ∃ t', x.text ++ u = c :: t' ∧ t = t' ++ y :: Y := fun hs =>
    (List.append_eq_cons_iff.mp hs).resolve_left (by simp [hne])
  rw [next?_eq_some_iff] at hx ⊢
  cases hx with
  | block hs h =>
    obtain rfl := (List.cons.inj (List.cons.inj hs).2).2
    exact .block (by simp [text]) (splitBlock_congr h (by simp) (u ++ z :: Z))
  | line hs hw hu =>
    refine .line (by simp [text]) hw ?_
    cases u with
    | nil =>
      have hend : Text.isTerminator y = true := hu y rfl
      rintro c ⟨⟩
      rcases hopen rfl with hclosed | ⟨hblank, -⟩ | rfl
      · simp [isOpen] at hclosed
      · rw [Text.isBlank_of_isTerminator hend] at hblank
        exact absurd hblank.symm Bool.false_ne_true
      · exact hend
    | cons c u => exact hu
  | quoted hs h =>
    obtain ⟨t, ht, rfl⟩ := hcons hs
    refine .quoted (by rw [ht, List.cons_append]) (readQuoted_congr h ?_)
    intro hu
    rcases hopen hu with hclosed | ⟨hblank, -⟩ | heq
    · exact .inl (by simpa [isOpen, Delimiters.isTerminated, Delimiters.closing?] using hclosed)
    · exact .inr (.inl hblank)
    · exact .inr (.inr heq)
  | @template o _ _ _ _ hs hresumes h =>
    obtain ⟨c, hc⟩ : ∃ c, o.text = [c] := by cases o <;> exact ⟨_, rfl⟩
    rw [hc] at hs
    obtain ⟨t, ht, rfl⟩ := hcons hs
    exact .template (by rw [ht, hc, List.cons_append, List.singleton_append]) hresumes
      (readTemplate_congr h)
  | opening hs => exact .opening rfl
  | closing hs hresumes => exact .closing rfl hresumes
  | operator hs h =>
    rw [operator?_append_cons hy] at h
    exact .operator (List.append_assoc ..) (by rwa [operator?_append_cons hz])
  | blank hs hne hw hu =>
    refine .blank (List.append_assoc ..) hne hw ?_
    cases u with
    | nil =>
      rintro c ⟨⟩
      rcases hopen rfl with hclosed | ⟨-, hblank⟩ | rfl
      · simp [isOpen] at hclosed
      · exact hblank
      · exact hu y rfl
    | cons c u => exact hu
  | access hs h =>
    rw [operator?_append_cons hy] at h
    exact .access rfl (by rwa [operator?_append_cons hz])
  | other hs h hdelimiter hslash hblank haccess =>
    obtain ⟨hstar, hslash', hdot, -⟩ := ne_of_isNeutral hz
    rw [operator?_append_cons hy] at h
    refine .other rfl (by rwa [operator?_append_cons hz]) hdelimiter ?_ hblank ?_
    · intro hc
      obtain ⟨hne, hne'⟩ := hslash hc
      exact ⟨head?_append_ne hne hstar, head?_append_ne hne' hslash'⟩
    · exact fun hc => head?_append_ne (haccess hc) hdot

/-! ### The text in front of a token -/

/-- Whether a word that follows cannot be an operator: it is the end of a name or names a member. -/
def bars (previous : Option Char) : Bool :=
  previous.any fun c => isNameChar c || c == '.'

lemma not_bars_of_isNeutral (hy : isNeutral y = true) : bars (some y) = false := by
  obtain ⟨-, -, hdot, -⟩ := ne_of_isNeutral hy
  simp [bars, not_isNameChar_of_isNeutral hy, hdot]

/-- Nothing else is looked at in front of a token. -/
lemma next?_previous (h : bars previous = bars previous') :
    next? previous resumes t = next? previous' resumes t := by
  match t with
  | [] => rfl
  | c :: t =>
    simp only [bars] at h
    simp only [next?, read, operator?, word?, h]

end Token

namespace Reader

variable {r r' : Reader} {t : Text} {xs : List Token} {y z : Char}

lemma Reads.textOf_ne_nil {v : Text} {x : Token} (h : Reads r t (x :: xs) r' v) :
    Token.textOf (x :: xs) ≠ [] := by
  cases h with
  | cons hx _ => simp [(Token.next?_eq_some hx).2]

/-- Tokens stay the same when the text is replaced from one neutral character to another, somewhere
behind them. Only a last token that reaches this far has to stop there by itself. -/
lemma Reads.congr {m Y : Text} (h : Reads r t xs r' (m ++ y :: Y)) (hy : Token.isNeutral y = true)
    (hz : Token.isNeutral z = true) (hopen : m = [] → ∀ x ∈ xs.getLast?, x.Stops y z) (Z : Text) :
    Reads r (Token.textOf xs ++ (m ++ z :: Z)) xs r' (m ++ z :: Z) := by
  generalize hv : m ++ y :: Y = v at h
  induction h with
  | nil => exact .nil _ _
  | @cons r r' t u v x xs hx h ih =>
    subst hv
    have hu := h.text_append
    have happ := Token.next?_eq_some hx
    rw [← hu] at happ
    have hlast : Token.textOf xs ++ m = [] → x.Stops y z := by
      intro hnil
      obtain ⟨hxs, hm⟩ := List.append_eq_nil_iff.mp hnil
      cases xs with
      | nil => exact hopen hm x rfl
      | cons x' xs => exact absurd hxs h.textOf_ne_nil
    have hx' : Token.next? r.previous r.resumes ((x.text ++ (Token.textOf xs ++ m)) ++ y :: Y)
        = some (x, (Token.textOf xs ++ m) ++ y :: Y) := by
      rw [List.append_assoc, List.append_assoc, happ.1, hx, ← hu]
    have hcongr := Token.next?_congr (Z := Z) hx' hy hz hlast
    simp only [List.append_assoc] at hcongr
    rw [Token.textOf_cons, List.append_assoc]
    refine .cons hcongr (ih ?_ rfl)
    intro hm x' hx'
    cases xs with
    | nil => simp at hx'
    | cons x'' xs => exact hopen hm x' (by simpa using hx')

end Reader

end Requote
