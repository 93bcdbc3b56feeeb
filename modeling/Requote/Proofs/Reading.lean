import Requote.Proofs.Steps

/-!
# Reading token by token

A run of the reader is a row of tokens: each is read off the text that is left, in the state that
the tokens before it led to. This is how the proofs about documents follow a run, stop in the middle
of it, and go on with another text.

The bodies found so far only ever grow at their end, one for each string token. So the bodies of a
document stand in source order, and each of them can be traced back to the token it was read from.
-/

namespace Requote

namespace Token

/-- A token and what follows it make up the text, and the token is not empty. -/
lemma next?_eq_some {previous : Option Char} {resumes : Bool} {t u : Text} {x : Token}
    (h : next? previous resumes t = some (x, u)) : x.text ++ u = t ∧ x.text ≠ [] := by
  match t with
  | [] => simp [next?] at h
  | c :: t =>
    have hread : read previous resumes c t = (x, u) := by simpa [next?] using h
    have happ := read_append previous resumes c t
    have hne := text_read_ne_nil previous resumes c t
    rw [hread] at happ hne
    exact ⟨happ, hne⟩

/-- The text of a row of tokens. -/
def textOf (xs : List Token) : Text :=
  xs.flatMap text

@[simp] lemma textOf_nil : textOf [] = [] := rfl

@[simp] lemma textOf_cons (x : Token) (xs : List Token) :
    textOf (x :: xs) = x.text ++ textOf xs := by
  simp [textOf]

@[simp] lemma textOf_append (xs ys : List Token) : textOf (xs ++ ys) = textOf xs ++ textOf ys := by
  simp [textOf]

/-- The bodies that a row of tokens becomes from an offset on. -/
def bodiesAt (offset : Nat) : List Token → List Body
  | []      => []
  | x :: xs => (x.bodyAt? offset).toList ++ bodiesAt (offset + x.text.size) xs

lemma bodiesAt_append (offset : Nat) (xs ys : List Token) :
    bodiesAt offset (xs ++ ys) = bodiesAt offset xs ++ bodiesAt (offset + (textOf xs).size) ys := by
  induction xs generalizing offset with
  | nil => simp [bodiesAt]
  | cons x xs ih => simp [bodiesAt, ih, Nat.add_assoc]

end Token

@[simp] lemma Target.bodiesOf_append (l l' : List Target) :
    bodiesOf (l ++ l') = bodiesOf l ++ bodiesOf l' := by
  induction l with
  | nil => rfl
  | cons a l ih => simp [bodiesOf, ih]

lemma Text.size_pos {t : Text} (h : t ≠ []) : 0 < t.size := by
  match t with
  | [] => exact absurd rfl h
  | c :: t =>
    have hc := c.utf8Size_pos
    rw [size_cons]
    omega

namespace Reader

/-! ### Rows of tokens -/

/-- Reading a row of tokens off the start of a text: the state and the text before, and the state
and the text after. -/
inductive Reads : Reader → Text → List Token → Reader → Text → Prop where
  | nil (r : Reader) (t : Text) : Reads r t [] r t
  | cons {r r' : Reader} {t u v : Text} {x : Token} {xs : List Token}
      (hx : Token.next? r.previous r.resumes t = some (x, u)) (h : Reads (r.step x) u xs r' v) :
      Reads r t (x :: xs) r' v

variable {r r' r'' : Reader} {t u v w : Text} {x : Token} {xs ys : List Token}

lemma Reads.single (hx : Token.next? r.previous r.resumes t = some (x, u)) :
    Reads r t [x] (r.step x) u :=
  .cons hx (.nil _ _)

lemma Reads.append (h : Reads r t xs r' u) (h' : Reads r' u ys r'' v) :
    Reads r t (xs ++ ys) r'' v := by
  induction h with
  | nil => exact h'
  | cons hx _ ih => exact .cons hx (ih h')

lemma Reads.split (h : Reads r t (xs ++ ys) r'' v) :
    ∃ r' u, Reads r t xs r' u ∧ Reads r' u ys r'' v := by
  induction xs generalizing r t with
  | nil => exact ⟨r, t, .nil _ _, h⟩
  | cons x xs ih =>
    cases h with
    | cons hx h =>
      obtain ⟨r', u, h₁, h₂⟩ := ih h
      exact ⟨r', u, .cons hx h₁, h₂⟩

/-- The tokens of a row tile the text that they are read from. -/
lemma Reads.text_append (h : Reads r t xs r' v) : Token.textOf xs ++ v = t := by
  induction h with
  | nil => rfl
  | cons hx _ ih =>
    rw [Token.textOf_cons, List.append_assoc, ih]
    exact (Token.next?_eq_some hx).1

lemma Reads.offset_eq (h : Reads r t xs r' v) :
    r'.offset = r.offset + (Token.textOf xs).size := by
  induction h with
  | nil => rfl
  | cons _ _ ih => simp [ih, step, Nat.add_assoc]

/-- The tokens of a row are what is read of the text in front of the rest. -/
lemma Reads.textOf_eq (h : Reads r (w ++ v) xs r' v) : Token.textOf xs = w :=
  List.append_cancel_right h.text_append

lemma Reads.offset_eq_add_size (h : Reads r (w ++ v) xs r' v) : r'.offset = r.offset + w.size := by
  rw [h.offset_eq, h.textOf_eq]

/-- The size of the text that was read is how far the reader moved on. -/
lemma Reads.offset_add_size (h : Reads r t xs r' v) : r'.offset + v.size = r.offset + t.size := by
  rw [h.offset_eq, ← h.text_append, Text.size_append]
  omega

lemma Reads.offset_le (h : Reads r t xs r' v) : r.offset ≤ r'.offset := by
  rw [h.offset_eq]
  omega

lemma Reads.run_eq (h : Reads r t xs r' v) : r.run t = r'.run v := by
  induction h with
  | nil => rfl
  | @cons r r' t u v x xs hx _ ih =>
    match t with
    | [] => simp [Token.next?] at hx
    | c :: t =>
      have hread : Token.read r.previous r.resumes c t = (x, u) := by simpa [Token.next?] using hx
      rw [← ih, run, hread]

/-- Every text can be read to its end. -/
lemma exists_reads (r : Reader) (t : Text) : ∃ xs, Reads r t xs (r.run t) [] := by
  induction r, t using run.induct with
  | case1 r =>
    rw [run]
    exact ⟨[], .nil _ _⟩
  | case2 r c t ih =>
    obtain ⟨xs, h⟩ := ih
    rw [run]
    exact ⟨_ :: xs, .cons rfl h⟩

/-- What holds at the start of a row and is kept by every token holds at its end. -/
lemma Reads.invariant {P : Reader → Text → Prop}
    (hstep : ∀ {r t x u}, P r t → Token.next? r.previous r.resumes t = some (x, u) → P (r.step x) u)
    (h : Reads r t xs r' v) (h₀ : P r t) : P r' v := by
  induction h with
  | nil => exact h₀
  | cons hx _ ih => exact ih (hstep h₀ hx)

/-- An invariant may rest on the row of tokens that has led to a state. -/
lemma Reads.invariant_of_reads {r₀ : Reader} {t₀ : Text} {P : Reader → Text → Prop}
    (hstep : ∀ {ys r t x u}, Reads r₀ t₀ ys r t → P r t →
      Token.next? r.previous r.resumes t = some (x, u) → P (r.step x) u)
    (h : Reads r₀ t₀ xs r t) (h₀ : P r₀ t₀) : P r t := by
  have hinvariant := h.invariant (P := fun r t => (∃ ys, Reads r₀ t₀ ys r t) ∧ P r t) ?_
    ⟨⟨[], .nil _ _⟩, h₀⟩
  · exact hinvariant.2
  · rintro r t x u ⟨⟨ys, hys⟩, hP⟩ hx
    exact ⟨⟨_, hys.append (.single hx)⟩, hstep hys hP hx⟩

/-- A token takes the reader further. -/
lemma offset_lt_step (hx : Token.next? r.previous r.resumes t = some (x, u)) :
    r.offset < (r.step x).offset := by
  have hpos := Text.size_pos (Token.next?_eq_some hx).2
  simp only [step]
  omega

/-- Reading is deterministic: of two rows, the one that goes further goes on where the other
stops. -/
lemma Reads.exists_of_offset_le (h : Reads r t xs r' u) (h' : Reads r t ys r'' v)
    (hle : r'.offset ≤ r''.offset) : ∃ zs, Reads r' u zs r'' v ∧ ys = xs ++ zs := by
  induction h generalizing ys with
  | nil => exact ⟨ys, h', rfl⟩
  | cons hx h ih =>
    cases h' with
    | nil =>
      have := offset_lt_step hx
      have := h.offset_le
      omega
    | cons hx' h' =>
      rw [hx] at hx'
      obtain ⟨rfl, rfl⟩ := Prod.mk.inj (Option.some.inj hx')
      obtain ⟨zs, hzs, rfl⟩ := ih h' hle
      exact ⟨zs, hzs, rfl⟩

/-- At an offset there is only one state. -/
lemma Reads.eq_of_offset (h : Reads r t xs r' u) (h' : Reads r t ys r'' v)
    (hoffset : r'.offset = r''.offset) : xs = ys ∧ r' = r'' ∧ u = v := by
  obtain ⟨zs, hzs, rfl⟩ := h.exists_of_offset_le h' (Nat.le_of_eq hoffset)
  cases hzs with
  | nil => exact ⟨(List.append_nil xs).symm, rfl, rfl⟩
  | cons hx hzs =>
    have := offset_lt_step hx
    have := hzs.offset_le
    omega

/-- The character in front of the reader is the last one read. -/
lemma previous_step (hx : x.text ≠ []) : (r.step x).previous = x.text.getLast? := by
  simp [step, List.getLast?_eq_some_getLast hx]

/-! ### The bodies found so far -/

/-- The bodies found so far, from left to right: those outside all interpolations, then those of the
open interpolations from the outermost inward. -/
def found (r : Reader) : List Body :=
  Target.bodiesOf r.targets ++ r.frames.reverse.flatMap fun f => Target.bodiesOf f.inside

/-- The bodies found so far are those of the lists, the outermost list first. -/
lemma found_eq_levels (r : Reader) :
    r.found = r.levels.reverse.flatMap fun level => Target.bodiesOf level.2 := by
  simp [found, levels, ← List.map_reverse, List.flatMap_map]

/-- The innermost list is the last one, so what is added to it comes after all other bodies. -/
lemma bodies_addToHead {levels : List (Nat × List Target)} (h : levels ≠ []) (a : Target) :
    ((addToHead a levels).reverse.flatMap fun level => Target.bodiesOf level.2)
      = (levels.reverse.flatMap fun level => Target.bodiesOf level.2) ++ a.bodies := by
  obtain ⟨level, levels, rfl⟩ := List.exists_cons_of_ne_nil h
  simp [addToHead, Target.bodiesOf]

/-- Closing an interpolation keeps the order of the bodies: those in it are the last ones. -/
lemma found_closeFrame (r : Reader) (stop : Nat) : (r.closeFrame stop).found = r.found := by
  cases hf : r.frames with
  | nil => rw [closeFrame_of_frames_eq_nil hf]
  | cons f fs =>
    have htail : r.levels.tail ≠ [] := by simp [levels, hf]
    rw [found_eq_levels, levels_closeFrame hf, bodies_addToHead htail, found_eq_levels]
    simp [levels, hf, Frame.finish, Target.bodies]

lemma found_leaving (r : Reader) (x : Token) : (r.leaving x).found = r.found := by
  cases hx : x.isResuming with
  | false => rw [leaving_of_not_isResuming r hx]
  | true => rw [leaving_of_isResuming r hx, found_closeFrame]

/-- A string token adds its body at the end, and no other token changes the bodies. -/
lemma found_step (r : Reader) (x : Token) :
    (r.step x).found = r.found ++ (x.bodyAt? r.offset).toList := by
  have hopened :
      ∀ stop, (opened x stop).reverse.flatMap (fun f => Target.bodiesOf f.inside) = [] := by
    intro stop
    cases hx : x.isOpening <;> simp [opened, hx, Target.bodiesOf]
  have hne : (r.leaving x).levels ≠ [] := by simp [levels]
  rw [found_eq_levels, levels_step, List.reverse_append, List.flatMap_append, ← List.map_reverse,
    List.flatMap_map, hopened, List.append_nil]
  cases x.bodyAt? r.offset with
  | none => simp [found_eq_levels]
  | some b =>
    rw [bodies_addToHead hne, ← found_eq_levels, found_leaving]
    rfl

lemma Reads.found_eq (h : Reads r t xs r' v) :
    r'.found = r.found ++ Token.bodiesAt r.offset xs := by
  induction h with
  | nil => simp [Token.bodiesAt]
  | @cons r r' t u v x xs _ _ ih =>
    rw [ih, found_step, Token.bodiesAt, List.append_assoc]
    rfl

/-- Every body was found before, or was read from a token on the way. -/
lemma Reads.mem_found {b : Body} (h : Reads r t xs r' v) (hb : b ∈ r'.found) :
    b ∈ r.found ∨ ∃ ys r₁ u₁ u₂ zs, Reads r t ys r₁ u₁ ∧
      Token.next? r₁.previous r₁.resumes u₁ = some (.body b.delimiters b.text, u₂) ∧
      b.span = ⟨r₁.offset, r₁.offset + (b.delimiters.wrap b.text).size⟩ ∧
      Reads (r₁.step (.body b.delimiters b.text)) u₂ zs r' v := by
  induction h with
  | nil => exact .inl hb
  | @cons r r' t u v x xs hx h ih =>
    rcases ih hb with hb | ⟨ys, r₁, u₁, u₂, zs, h₁, hnext, hspan, h₂⟩
    · rw [found_step, List.mem_append] at hb
      rcases hb with hb | hb
      · exact .inl hb
      · match x, hb with
        | .body d s, hb =>
          simp only [Token.bodyAt?, Option.toList_some, List.mem_singleton] at hb
          subst hb
          exact .inr ⟨[], r, t, u, xs, .nil _ _, hx, rfl, h⟩
    · exact .inr ⟨x :: ys, r₁, u₁, u₂, zs, .cons hx h₁, hnext, hspan, h₂⟩

/-- The bodies found so far lie one after the other in front of the reader. -/
def Ordered (r : Reader) : Prop :=
  r.found.Pairwise (fun a b => a.span.stop ≤ b.span.start) ∧
    ∀ b ∈ r.found, b.span.start < b.span.stop ∧ b.span.stop ≤ r.offset

lemma Ordered.step (hr : r.Ordered) (x : Token) : (r.step x).Ordered := by
  obtain ⟨hpair, hlt⟩ := hr
  have hle : r.offset ≤ (r.step x).offset := by simp [Reader.step]
  simp only [Ordered, found_step, List.mem_append, List.pairwise_append]
  cases x with
  | body d s =>
    have hpos := Text.size_pos (Token.wrap_ne_nil d s)
    simp only [Token.bodyAt?, Option.toList_some, List.mem_singleton]
    refine ⟨⟨hpair, List.pairwise_singleton _ _, ?_⟩, ?_⟩
    · rintro a ha b rfl
      exact (hlt a ha).2
    · rintro b (hb | rfl)
      · exact ⟨(hlt b hb).1, Nat.le_trans (hlt b hb).2 hle⟩
      · simp only [Reader.step, Token.text]
        omega
  | opening | closing | operator | comment | blank | other =>
    simp only [Token.bodyAt?, Option.toList_none, List.not_mem_nil, or_false]
    exact ⟨⟨hpair, List.Pairwise.nil, by simp⟩,
      fun b hb => ⟨(hlt b hb).1, Nat.le_trans (hlt b hb).2 hle⟩⟩

lemma Reads.ordered (h : Reads r t xs r' v) (hr : r.Ordered) : r'.Ordered :=
  h.invariant (P := fun r _ => r.Ordered) (fun hr _ => hr.step _) hr

lemma found_finish (r : Reader) : r.finish.found = r.found :=
  finish_invariant (P := fun r' => r'.found = r.found)
    (fun r' h => (found_closeFrame r' _).trans h) rfl

end Reader

/-- The bodies of a document are those that its tokens gave. -/
lemma Document.bodiesOf_read (source : Text) :
    Target.bodiesOf (Document.read source).targets = (Reader.run {} source).found := by
  have hfound := Reader.found_finish (Reader.run {} source)
  rw [Reader.found, Reader.frames_finish] at hfound
  simpa [Document.read] using hfound

end Requote
