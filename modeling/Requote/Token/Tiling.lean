import Requote.Token

/-!
# Tokens tile the text

The characters of a token and the text that follows it are together the text it was read from, and a
token is never empty. So reading token after token comes to an end.
-/

namespace Requote.Token

/-! ### The parts of a token -/

theorem splitBlock_append (t : Text) : (splitBlock t).1 ++ (splitBlock t).2 = t := by
  fun_induction splitBlock t <;> simp_all

theorem splitLine_append (t : Text) : (splitLine t).1 ++ (splitLine t).2 = t := by
  simp [splitLine]

theorem readQuoted_append (q : Quote) (t : Text) :
    (readQuoted q.char t).body
      ++ ((Delimiters.quoted q (readQuoted q.char t).ended).closing
        ++ (readQuoted q.char t).rest) = t := by
  fun_induction readQuoted q.char t with
  | case1 => rfl
  | case2 t ih => simpa [Reading.push] using ih
  | case3 c t _ ih => simpa [Reading.push] using ih
  | case4 t => rfl
  | case5 c t => rfl
  | case6 c t _ _ _ _ ih => simpa [Reading.push] using ih

theorem readTemplate_append (o : Opening) (t : Text) :
    (readTemplate t).body
      ++ ((Delimiters.template o (readTemplate t).ended).closing ++ (readTemplate t).rest) = t := by
  fun_induction readTemplate t with
  | case1 => rfl
  | case2 t ih => simpa [Reading.push] using ih
  | case3 c t _ ih => simpa [Reading.push] using ih
  | case4 t => rfl
  | case5 t => rfl
  | case6 c t _ _ _ _ ih => simpa [Reading.push] using ih

theorem symbol?_eq_some {t s : Text} (h : symbol? t = some s) : s ∈ symbols ∧ s <+: t := by
  have hs : s.isPrefixOf t = true := List.find?_some (p := fun u : Text => u.isPrefixOf t) h
  exact ⟨List.mem_of_find?_eq_some h, List.isPrefixOf_iff_prefix.1 hs⟩

theorem word?_eq_some {previous : Option Char} {t s : Text} (h : word? previous t = some s) :
    s ∈ words ∧ s <+: t := by
  simp only [word?] at h
  split at h
  · simp at h
  · have hp := List.find?_some h
    simp only [Bool.and_eq_true] at hp
    exact ⟨List.mem_of_find?_eq_some h, List.isPrefixOf_iff_prefix.1 hp.1⟩

/-- An operator is one of the listed ones and stands at the start of the text. -/
theorem operator?_eq_some {previous : Option Char} {t s : Text}
    (h : operator? previous t = some s) : s ∈ symbols ++ words ∧ s <+: t := by
  simp only [operator?] at h
  split at h
  · simp at h
  · cases hs : symbol? t with
    | some u =>
      simp only [hs, Option.orElse_some, Option.some.injEq] at h
      subst h
      exact ⟨List.mem_append_left _ (symbol?_eq_some hs).1, (symbol?_eq_some hs).2⟩
    | none =>
      simp only [hs, Option.orElse_none] at h
      exact ⟨List.mem_append_right _ (word?_eq_some h).1, (word?_eq_some h).2⟩

theorem operator_ne_nil {s : Text} (h : s ∈ symbols ++ words) : s ≠ [] := by
  revert s
  decide

/-! ### The token as a whole -/

theorem ofChar?_eq_some {c : Char} {q : Quote} (h : Quote.ofChar? c = some q) : q.char = c := by
  revert h
  simp only [Quote.ofChar?]
  split <;> simp_all [Quote.char] <;> rintro rfl <;> rfl

theorem ofOpening?_eq_some {c : Char} {b : Bracket} (h : Bracket.ofOpening? c = some b) :
    b.opening = c := by
  revert h
  simp only [Bracket.ofOpening?]
  split <;> simp_all [Bracket.opening] <;> rintro rfl <;> rfl

theorem ofClosing?_eq_some {c : Char} {b : Bracket} (h : Bracket.ofClosing? c = some b) :
    b.closing = c := by
  revert h
  simp only [Bracket.ofClosing?]
  split <;> simp_all [Bracket.closing] <;> rintro rfl <;> rfl

/-- A token and what follows it are together the text it was read from. -/
theorem read_append (previous : Option Char) (resumes : Bool) (c : Char) (t : Text) :
    (read previous resumes c t).1.text ++ (read previous resumes c t).2 = c :: t := by
  simp only [read]
  split
  · rename_i h
    obtain ⟨u, rfl⟩ : ∃ u, t = '*' :: u := List.head?_eq_some_iff.1 h.2
    simp [text, splitBlock_append, h.1]
  split
  · simp [text, splitLine_append]
  split
  · rename_i q hq
    obtain rfl := ofChar?_eq_some hq
    simpa [text, Delimiters.wrap, Delimiters.opening] using readQuoted_append q t
  split
  · rename_i h
    simpa [text, Delimiters.wrap, Delimiters.opening, Opening.text, h]
      using readTemplate_append .backtick t
  split
  · rename_i h
    simpa [text, Delimiters.wrap, Delimiters.opening, Opening.text, h.1]
      using readTemplate_append .brace t
  split
  · rename_i b hb
    simp [text, ofOpening?_eq_some hb]
  split
  · rename_i b hb
    simp [text, ofClosing?_eq_some hb]
  split
  · rename_i s hs
    obtain ⟨u, hu⟩ := (operator?_eq_some hs).2
    simp [text, ← hu]
  split
  · simp [text]
  split
  · rename_i h
    obtain ⟨u, rfl⟩ : ∃ u, t = '.' :: u := List.head?_eq_some_iff.1 h.2
    simp [text, h.1]
  · simp [text]

theorem wrap_ne_nil (d : Delimiters) (t : Text) : d.wrap t ≠ [] := by
  rcases d with ⟨q, closed⟩ | ⟨_ | _, closing⟩ <;>
    simp [Delimiters.wrap, Delimiters.opening, Opening.text]

/-- No token is empty. -/
theorem text_read_ne_nil (previous : Option Char) (resumes : Bool) (c : Char) (t : Text) :
    (read previous resumes c t).1.text ≠ [] := by
  simp only [read]
  repeat' split
  all_goals simp only [text, ne_eq, wrap_ne_nil, not_false_eq_true, reduceCtorEq]
  rename_i hs
  exact operator_ne_nil (operator?_eq_some hs).1

/-- What follows a token is shorter than the text it was read from. -/
theorem length_read_lt (previous : Option Char) (resumes : Bool) (c : Char) (t : Text) :
    (read previous resumes c t).2.length < (c :: t).length := by
  have happ := congrArg List.length (read_append previous resumes c t)
  have hpos := List.length_pos_iff.2 (text_read_ne_nil previous resumes c t)
  rw [List.length_append] at happ
  omega

end Requote.Token
