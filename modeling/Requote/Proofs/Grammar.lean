import Requote.Proofs.Operands

/-!
# Well-bracketed documents

A grammar of documents in which every bracket, every comment and every literal is closed. A document
of the grammar is a list of items, and it can be written down as a text. Reading that text gives
back the strings of the document, with the tree that the templates form, and reports no problem.

The tokens of the text are not the items: operators, words and runs of blanks go over several of
them. But no such token goes on into a string, a comment or a bracket. So a row of plain characters
is read up to its end, and every other item is read by itself, on top of all that is open around it.
-/

namespace Requote

/-! ### Outlines -/

/-- A tree of strings without its places: the bodies as they are written, and the interpolations. -/
inductive Outline where
  | body (delimiters : Delimiters) (text : Text)
  | group (inside : List Outline)

namespace Target

mutual

/-- A target without its places, its blanks and its priority. -/
def outline : Target → Outline
  | body b         => .body b.delimiters b.text
  | group _ inside => .group (outlines inside)

/-- The outlines of a list of targets. -/
def outlines : List Target → List Outline
  | []      => []
  | a :: as => outline a :: outlines as

end

@[simp] lemma outlines_append (l l' : List Target) :
    outlines (l ++ l') = outlines l ++ outlines l' := by
  induction l with
  | nil => rfl
  | cons a l ih => simp [outlines, ih]

end Target

/-! ### Documents of the grammar -/

/-- The body of a quoted literal: escapes, and characters that do not end it. -/
structure QuotedBody (quote : Quote) where
  atoms : List Atom
  fits  : ∀ a ∈ atoms, a.Fits quote.char

/-- A body of a template literal. No backslash is left without something to escape, and neither a
backtick nor the start of an interpolation stands in it without an escape. -/
structure TemplateBody where
  text          : Text
  escapes       : .dangling ∉ Atom.read text
  backtick      : .plain '\x60' ∉ Atom.read text
  interpolation : ¬[.plain '$', .plain '{'] <:+: Atom.read text

/-- An item of a document. A template literal is a body, and each interpolation with the body that
follows it. -/
inductive Item where
  | plain (c : Char) (h : Text.isPlain c = true)
  | comment (text : Text) (h : ¬['*', '/'] <:+: text)
  | quoted (quote : Quote) (body : QuotedBody quote)
  | bracketed (bracket : Bracket) (inside : List Item)
  | template (head : TemplateBody) (tail : List (List Item × TemplateBody))

namespace Item

/-- Whether an item is a plain character. -/
def isPlain : Item → Bool
  | plain _ _                                                => true
  | comment _ _ | quoted _ _ | bracketed _ _ | template _ _ => false

/-- What closes a body of a template literal with some interpolations behind it. -/
def closing (tail : List (List Item × TemplateBody)) : Closing :=
  if tail.isEmpty then .backtick else .interpolation

mutual

/-- The text of an item. -/
def render : Item → Text
  | plain c _          => [c]
  | comment t _        => '/' :: '*' :: (t ++ ['*', '/'])
  | quoted q b         => q.char :: (Atom.spell b.atoms ++ [q.char])
  | bracketed b inside => b.opening :: (renderAll inside ++ [b.closing])
  | template head tail => '\x60' :: (head.text ++ ((closing tail).text ++ renderTail tail))

/-- The text of a document. -/
def renderAll : List Item → Text
  | []      => []
  | i :: is => render i ++ renderAll is

/-- The text of a template literal behind the start of its first interpolation. -/
def renderTail : List (List Item × TemplateBody) → Text
  | []                   => []
  | (code, body) :: tail =>
    renderAll code ++ '}' :: (body.text ++ ((closing tail).text ++ renderTail tail))

end

mutual

/-- The strings of an item. -/
def outline : Item → List Outline
  | plain _ _ | comment _ _ => []
  | quoted q b              => [.body (.quoted q true) (Atom.spell b.atoms)]
  | bracketed _ inside      => outlineAll inside
  | template head tail      =>
    .body (.template .backtick (some (closing tail))) head.text :: outlineTail tail

/-- The strings of a document. -/
def outlineAll : List Item → List Outline
  | []      => []
  | i :: is => outline i ++ outlineAll is

/-- The interpolations of a template literal and the bodies that follow them. -/
def outlineTail : List (List Item × TemplateBody) → List Outline
  | []                   => []
  | (code, body) :: tail =>
    .group (outlineAll code) :: .body (.template .brace (some (closing tail))) body.text
      :: outlineTail tail

end

variable {i : Item}

lemma exists_of_isPlain (hi : i.isPlain = true) : ∃ c h, i = plain c h := by
  cases i with
  | plain c h => exact ⟨c, h, rfl⟩
  | comment | quoted | bracketed | template => simp [isPlain] at hi

/-- An item that is no plain character does not start like one. -/
lemma isPlain_head?_render (hi : i.isPlain = false) (t : Text) :
    ∀ c ∈ (i.render ++ t).head?, Text.isPlain c = false := by
  cases i with
  | plain => simp [isPlain] at hi
  | comment | template => simp [render, Text.isPlain]
  | quoted q => cases q <;> simp [render, Text.isPlain, Quote.char]
  | bracketed b => cases b <;> simp [render, Text.isPlain, Bracket.opening]

/-- What closes a body tells whether an interpolation follows it. -/
lemma isLast_closing (o : Opening) (tail : List (List Item × TemplateBody)) :
    (Delimiters.template o (some (closing tail))).isLast = tail.isEmpty := by
  cases tail <;> rfl

end Item

/-! ### Strings and comments of the grammar -/

namespace Token

variable {previous : Option Char} {resumes : Bool} {q : Quote} {c : Char} {t u w : Text} {x : Token}
  {as : List Atom}

/-- A template body of the grammar ends at its closing delimiter. -/
lemma readTemplate_text (b : TemplateBody) (cl : Closing) (t : Text) :
    readTemplate (b.text ++ (cl.text ++ t)) = ⟨b.text, some cl, t⟩ := by
  have hfits : ∀ a ∈ Atom.read b.text, a.FitsTemplate := by
    intro a ha
    cases a with
    | plain c =>
      refine ⟨Atom.ne_backslash_of_plain_mem_read ha, ?_⟩
      rintro rfl
      exact b.backtick ha
    | escape c | escapeReturnFeed => trivial
    | dangling => exact absurd ha b.escapes
  have hopens : (Atom.read b.text).IsChain fun a b => ¬a.Opens b := by
    rw [List.isChain_iff_forall_rel_of_append_cons_cons]
    intro a a' front back htext hopens
    obtain ⟨rfl, rfl⟩ := Atom.opens_iff.mp hopens
    exact b.interpolation ⟨front, back, by rw [htext]; simp⟩
  have hread := Atom.readTemplate_spell hfits hopens cl t
  rwa [Atom.spell_read] at hread

/-- A block comment ends where its text does. -/
lemma splitBlock_append_close (h : ¬['*', '/'] <:+: t) (u : Text) :
    splitBlock (t ++ '*' :: '/' :: u) = (t ++ ['*', '/'], u) := by
  induction t with
  | nil => rfl
  | cons c t ih =>
    have ht := ih fun hinfix => h (List.infix_cons hinfix)
    rw [List.cons_append, splitBlock, ht]
    · rfl
    · rintro v rfl hv
      cases t with
      | nil => simp at hv
      | cons d t =>
        obtain rfl : d = '/' := (List.cons.inj hv).1
        exact h ⟨[], t, rfl⟩

lemma next?_comment (h : ¬['*', '/'] <:+: t) (u : Text) :
    next? previous resumes ('/' :: '*' :: (t ++ '*' :: '/' :: u))
      = some (comment ('/' :: '*' :: (t ++ ['*', '/'])), u) :=
  (IsNext.block rfl (splitBlock_append_close h u)).next?_eq

/-! ### Runs of plain characters -/

/-- Whether a token is no string and no bracket. -/
def isSilent : Token → Bool
  | operator _ | blank _ | other _ | comment _ => true
  | body _ _ | opening _ | closing _           => false

/-- An operator that starts with no slash has only plain characters. -/
lemma isPlain_of_mem_operators (hw : w ∈ symbols ++ words) (hslash : w.head? ≠ some '/') :
    w.all Text.isPlain = true := by
  have hall :
      (symbols ++ words).all (fun w => w.head? == some '/' || w.all Text.isPlain) = true := by
    decide
  simpa [hslash] using List.all_eq_true.mp hall w hw

/-- A token that starts with a plain character has no other characters, and opens and closes
nothing. -/
lemma isPlain_of_next? (h : next? previous resumes (c :: t) = some (x, u))
    (hc : Text.isPlain c = true) : x.isSilent = true ∧ x.text.all Text.isPlain = true := by
  cases next?_eq_some_iff.mp h with
  | block hs _ | line hs _ _ =>
    obtain ⟨rfl, -⟩ := List.cons.inj hs
    simp [Text.isPlain] at hc
  | @quoted q _ _ _ _ hs _ =>
    obtain ⟨rfl, -⟩ := List.cons.inj hs
    cases q <;> simp [Text.isPlain, Quote.char] at hc
  | @template o _ _ _ _ hs _ _ =>
    cases o <;>
    · obtain ⟨rfl, -⟩ := List.cons.inj hs
      simp [Text.isPlain] at hc
  | @opening b _ hs =>
    obtain ⟨rfl, -⟩ := List.cons.inj hs
    cases b <;> simp [Text.isPlain, Bracket.opening] at hc
  | @closing b _ hs _ =>
    obtain ⟨rfl, -⟩ := List.cons.inj hs
    cases b <;> simp [Text.isPlain, Bracket.closing] at hc
  | operator hs hw =>
    refine ⟨rfl, isPlain_of_mem_operators (operator?_eq_some hw).1 ?_⟩
    intro hhead
    obtain ⟨w, rfl⟩ := List.head?_eq_some_iff.mp hhead
    obtain ⟨rfl, -⟩ := List.cons.inj hs
    simp [Text.isPlain] at hc
  | blank _ _ hw _ => exact ⟨rfl, List.all_eq_true.mpr fun d hd => isPlain_of_isBlank (hw d hd)⟩
  | access _ _ => exact ⟨rfl, by decide⟩
  | other hs _ _ _ _ _ =>
    obtain ⟨rfl, -⟩ := List.cons.inj hs
    exact ⟨rfl, by simpa [text] using hc⟩

/-! ### What a token adds -/

/-- The strings of the innermost open interpolation become a group of the one around it. -/
def closeGroup : List (List Outline) → List (List Outline)
  | inside :: outer :: s => (outer ++ [.group inside]) :: s
  | s                    => s

/-- What a token does to the strings found so far. There is a list of them for each open
interpolation, innermost first, and one for the document. -/
def onOutlines : Token → List (List Outline) → List (List Outline)
  | body d t, s =>
    (if d.isLast then [] else [[]])
      ++ (if d.isFirst then s else closeGroup s).modifyHead fun l => l ++ [.body d t]
  | _, s        => s

lemma unchanged_of_isSilent (hx : x.isSilent = true) :
    x.isResuming = false ∧ (∀ s, x.onStack s = s) ∧ (∀ s, x.onOutlines s = s) ∧
      ∀ offset s, x.problems offset s = [] := by
  cases x with
  | comment | operator | blank | other => exact ⟨rfl, fun _ => rfl, fun _ => rfl, fun _ _ => rfl⟩
  | body | opening | closing => simp [isSilent] at hx

end Token

namespace Reader

variable {r r' r₁ r₂ : Reader} {d : Delimiters} {b : Bracket} {t u w : Text} {x : Token}
  {os os' is is' : List Outline} {inner : Option (List Outline)}

/-- The strings found so far: those of each open interpolation, innermost first, then those outside
all interpolations. -/
def outlines (r : Reader) : List (List Outline) :=
  (r.frames.map fun f => Target.outlines f.inside) ++ [Target.outlines r.targets]

lemma outlines_eq_levels (r : Reader) :
    r.outlines = r.levels.map fun level => Target.outlines level.2 := by
  simp [outlines, levels]

lemma outlines_addToHead (a : Target) (levels : List (Nat × List Target)) :
    ((addToHead a levels).map fun level => Target.outlines level.2)
      = (levels.map fun level => Target.outlines level.2).modifyHead fun l => l ++ [a.outline] := by
  cases levels <;> simp [addToHead, Target.outlines]

lemma outlines_closeFrame (r : Reader) (stop : Nat) :
    (r.closeFrame stop).outlines = Token.closeGroup r.outlines := by
  cases hf : r.frames with
  | nil => simp [closeFrame_of_frames_eq_nil hf, outlines, hf, Token.closeGroup]
  | cons f fs =>
    rw [outlines_eq_levels, levels_closeFrame hf, outlines_addToHead, outlines_eq_levels]
    cases fs <;> simp [levels, hf, Token.closeGroup, Frame.finish, Target.outline]

/-- What a token does to the strings found so far depends on them only. -/
lemma outlines_step (r : Reader) (x : Token) : (r.step x).outlines = x.onOutlines r.outlines := by
  rw [outlines_eq_levels, levels_step, List.map_append]
  cases x with
  | body d t =>
    have hleaving : (r.leaving (.body d t)).outlines
        = if d.isFirst then r.outlines else Token.closeGroup r.outlines := by
      cases hfirst : d.isFirst <;>
        simp [leaving, Token.isResuming, hfirst, outlines_closeFrame]
    simp only [Token.bodyAt?, outlines_addToHead, ← outlines_eq_levels, hleaving]
    cases hlast : d.isLast <;>
      simp [Token.onOutlines, opened, Token.isOpening, hlast, Target.outlines, Target.outline]
  | opening b | closing b | operator t | comment t | blank t | other t =>
    rw [outlines_eq_levels]
    rfl

/-! ### What a row adds -/

/-- A row that finds some strings where it stands, and no problem. It closes all that it opens,
except perhaps one interpolation, the strings of which stand apart. -/
structure Adds (r : Reader) (os : List Outline) (inner : Option (List Outline)) (r' : Reader) :
    Prop where
  stack       : r'.stack = (inner.map fun _ => []).toList ++ r.stack
  outlines    : r'.outlines = inner.toList ++ r.outlines.modifyHead fun l => l ++ os
  diagnostics : r'.diagnostics = r.diagnostics

lemma Adds.refl (r : Reader) : r.Adds [] none r :=
  ⟨rfl, by cases h : r.outlines <;> simp, rfl⟩

lemma Adds.trans (h : r.Adds os none r₁) (h' : r₁.Adds os' inner r₂) :
    r.Adds (os ++ os') inner r₂ := by
  refine ⟨by simp [h'.stack, h.stack], ?_, h'.diagnostics.trans h.diagnostics⟩
  rw [h'.outlines, h.outlines]
  cases r.outlines <;> simp

/-- What is found in the open interpolation stands apart. -/
lemma Adds.inside (h : r.Adds os (some is) r₁) (h' : r₁.Adds is' none r₂) :
    r.Adds os (some (is ++ is')) r₂ :=
  ⟨by simp [h'.stack, h.stack], by simp [h'.outlines, h.outlines],
    h'.diagnostics.trans h.diagnostics⟩

lemma Adds.of_isSilent (r : Reader) (hx : x.isSilent = true) : r.Adds [] none (r.step x) := by
  obtain ⟨hresuming, hstack, houtlines, hproblems⟩ := Token.unchanged_of_isSilent hx
  refine ⟨?_, ?_, ?_⟩
  · rw [stack_step (by simp [hresuming]), hstack]
    rfl
  · rw [outlines_step, houtlines]
    exact (Adds.refl r).outlines
  · rw [diagnostics_step, hproblems, List.append_nil]

/-- A body that starts its literal. -/
lemma Adds.of_isFirst (r : Reader) (hfirst : d.isFirst = true) (hd : d.isTerminated = true)
    (t : Text) :
    r.Adds [.body d t] (if d.isLast then none else some []) (r.step (.body d t)) := by
  refine ⟨?_, ?_, ?_⟩
  · rw [stack_step (by simp [Token.isResuming, hfirst])]
    cases hlast : d.isLast <;> simp [Token.onStack, hlast, hfirst]
  · rw [outlines_step]
    cases hlast : d.isLast <;> simp [Token.onOutlines, hlast, hfirst]
  · simp [diagnostics_step, Token.problems, hd]

/-- A body behind an interpolation. What was found in the interpolation becomes a group. -/
lemma Adds.resume (h : r.Adds os (some is) r₁) (hfirst : d.isFirst = false)
    (hd : d.isTerminated = true) (t : Text) :
    r.Adds (os ++ [.group is, .body d t]) (if d.isLast then none else some [])
      (r₁.step (.body d t)) := by
  have hstack : r₁.stack = [] :: r.stack := h.stack
  refine ⟨?_, ?_, ?_⟩
  · rw [stack_step]
    · cases hlast : d.isLast <;> simp [Token.onStack, hlast, hfirst, hstack]
    · simp [← stack_eq_nil, hstack]
  · rw [outlines_step, h.outlines]
    have hne : r.outlines ≠ [] := by simp [Reader.outlines]
    obtain ⟨l, ls, hl⟩ := List.exists_cons_of_ne_nil hne
    cases hlast : d.isLast <;> simp [Token.onOutlines, Token.closeGroup, hlast, hfirst, hl]
  · simp [diagnostics_step, Token.problems, hd, h.diagnostics]

/-- A row in brackets. -/
lemma Adds.bracketed (h : (r.step (.opening b)).Adds os none r₁) :
    r.Adds os none (r₁.step (.closing b)) := by
  have hstack : r₁.stack = r.stack.modifyHead fun brackets => b :: brackets := by
    rw [h.stack, stack_step (by simp [Token.isResuming])]
    rfl
  refine ⟨?_, ?_, ?_⟩
  · rw [stack_step (by simp [Token.isResuming]), hstack]
    cases r.stack <;> simp [Token.onStack]
  · rw [outlines_step, Token.onOutlines, h.outlines, outlines_step]
    · rfl
    · simp
  · rw [diagnostics_step, h.diagnostics, hstack, diagnostics_step]
    cases r.stack <;> simp [Token.problems]

/-- In an interpolation with all its brackets closed, a closing brace ends it. -/
lemma Adds.resumes_eq_true (h : r.Adds os (some is) r₁) : r₁.resumes = true := by
  rw [resumes_eq, h.stack]
  rfl

/-- In curly brackets, a closing brace ends no interpolation. -/
lemma Adds.resumes_eq_false (h : (r.step (.opening .curly)).Adds os none r₁) :
    r₁.resumes = false := by
  rw [resumes_eq, h.stack, stack_step (by simp [Token.isResuming])]
  cases r.stack <;> simp [Token.onStack]

/-! ### The text of a document -/

/-- Plain characters are read to the end of their run, and nothing is found in them. -/
lemma exists_reads_plain (r : Reader) (w : Text) (hw : ∀ c ∈ w, Text.isPlain c = true)
    (hu : ∀ c ∈ u.head?, Text.isPlain c = false) :
    ∃ xs r', Reads r (w ++ u) xs r' u ∧ r.Adds [] none r' := by
  match w with
  | [] => exact ⟨[], r, .nil _ _, .refl r⟩
  | c :: w =>
    obtain ⟨x, v, hx⟩ : ∃ x v, Token.next? r.previous r.resumes (c :: w ++ u) = some (x, v) :=
      ⟨_, _, rfl⟩
    obtain ⟨hsilent, hplain⟩ := Token.isPlain_of_next? hx (hw c List.mem_cons_self)
    obtain ⟨happ, hne⟩ := Token.next?_eq_some hx
    -- the token does not go on behind the run, where a character is not plain
    obtain ⟨m, hm, rfl⟩ : ∃ m, c :: w = x.text ++ m ∧ v = m ++ u := by
      rcases List.append_eq_append_iff.mp happ with ⟨m, hm, hv⟩ | ⟨m, hm, rfl⟩
      · exact ⟨m, hm, hv⟩
      · cases m with
        | nil => exact ⟨[], by simpa using hm.symm, rfl⟩
        | cons d m =>
          have hd : Text.isPlain d = true := List.all_eq_true.mp hplain d (by simp [hm])
          simp [hu d rfl] at hd
    have hlength : m.length < (c :: w).length := by
      have := List.length_pos_iff.mpr hne
      rw [hm, List.length_append]
      omega
    obtain ⟨xs, r', hxs, hr'⟩ := exists_reads_plain (r.step x) m
      (fun d hd => hw d (by simp [hm, hd])) hu
    exact ⟨x :: xs, r', .cons hx hxs, (Adds.of_isSilent r hsilent).trans hr'⟩
termination_by w.length
decreasing_by exact hlength

/-! The induction is on the document, whatever is open around it. Plain characters in front of it
are kept back, and a template literal is read from one body to the next. -/

mutual

/-- An item that is no plain character is read by itself. -/
theorem exists_reads_render (r : Reader) (i : Item) (hi : i.isPlain = false) (u : Text) :
    ∃ xs r', Reads r (i.render ++ u) xs r' u ∧ r.Adds i.outline none r' := by
  match i with
  | .plain c h => simp [Item.isPlain] at hi
  | .comment t h =>
    have hx := @Token.next?_comment r.previous r.resumes t h u
    exact ⟨_, _, .single (by simpa [Item.render] using hx), .of_isSilent r rfl⟩
  | .quoted q b =>
    have hx := @Token.next?_quote r.previous r.resumes q (Atom.spell b.atoms ++ q.char :: u)
    rw [Atom.readQuoted_spell b.fits] at hx
    exact ⟨_, _, .single (by simpa [Item.render] using hx), .of_isFirst r rfl rfl _⟩
  | .bracketed b inside =>
    obtain ⟨xs, r', hxs, hr'⟩ := exists_reads_renderAll (r.step (.opening b)) [] inside
      (b.closing :: u) (by simp) (by cases b <;> simp [Bracket.closing, Text.isPlain])
    have hclosing : Token.next? r'.previous r'.resumes (b.closing :: u) = some (.closing b, u) := by
      refine Token.next?_closing ?_ u
      rintro rfl
      exact hr'.resumes_eq_false
    refine ⟨_, _, .cons ?_ (hxs.append (.single hclosing)), hr'.bracketed⟩
    simpa [Item.render] using Token.next?_opening b _
  | .template head tail =>
    have hx := @Token.next?_backtick r.previous r.resumes
      (head.text ++ ((Item.closing tail).text ++ (Item.renderTail tail ++ u)))
    rw [Token.readTemplate_text] at hx
    have hhead :=
      Adds.of_isFirst r (d := .template .backtick (some (Item.closing tail))) rfl rfl head.text
    rw [Item.isLast_closing] at hhead
    obtain ⟨xs, r', hxs, hr'⟩ := exists_reads_renderTail r _ _ tail u hhead
    exact ⟨_, r', .cons (by simpa [Item.render] using hx) hxs, hr'⟩

/-- A document is read to its end, together with plain characters in front. -/
theorem exists_reads_renderAll (r : Reader) (w : Text) (is : List Item) (u : Text)
    (hw : ∀ c ∈ w, Text.isPlain c = true) (hu : ∀ c ∈ u.head?, Text.isPlain c = false) :
    ∃ xs r', Reads r (w ++ (Item.renderAll is ++ u)) xs r' u ∧
      r.Adds (Item.outlineAll is) none r' := by
  match is with
  | [] => exact exists_reads_plain r w hw hu
  | i :: is =>
    cases hi : i.isPlain with
    | true =>
      -- a token may go over this item and the next ones, so the run is only read where it ends
      obtain ⟨c, h, rfl⟩ := Item.exists_of_isPlain hi
      obtain ⟨xs, r', hxs, hr'⟩ := exists_reads_renderAll r (w ++ [c]) is u
        (by simpa [or_imp, forall_and, h] using hw) hu
      exact ⟨xs, r', by simpa [Item.renderAll, Item.render] using hxs, hr'⟩
    | false =>
      obtain ⟨xs, r₁, hxs, hr₁⟩ :=
        exists_reads_plain r w hw (u := i.render ++ (Item.renderAll is ++ u))
        (Item.isPlain_head?_render hi _)
      obtain ⟨ys, r₂, hys, hr₂⟩ := exists_reads_render r₁ i hi (Item.renderAll is ++ u)
      obtain ⟨zs, r', hzs, hr'⟩ := exists_reads_renderAll r₂ [] is u (by simp) hu
      refine ⟨xs ++ ys ++ zs, r', ?_, (hr₁.trans hr₂).trans hr'⟩
      simpa [Item.renderAll] using (hxs.append hys).append hzs

/-- The interpolations of a template literal are read, and the bodies behind them. -/
theorem exists_reads_renderTail (r r₁ : Reader) (os : List Outline)
    (tail : List (List Item × TemplateBody)) (u : Text)
    (h : r.Adds os (if tail.isEmpty then none else some []) r₁) :
    ∃ xs r', Reads r₁ (Item.renderTail tail ++ u) xs r' u ∧
      r.Adds (os ++ Item.outlineTail tail) none r' := by
  match tail with
  | [] => exact ⟨[], r₁, .nil _ _, by simpa [Item.outlineTail] using h⟩
  | (code, body) :: tail =>
    obtain ⟨xs, r₂, hxs, hr₂⟩ := exists_reads_renderAll r₁ [] code
      ('}' :: (body.text ++ ((Item.closing tail).text ++ (Item.renderTail tail ++ u)))) (by simp)
      (by simp [Text.isPlain])
    have hinside := Adds.inside h hr₂
    have hx := @Token.next?_brace r₂.previous
      (body.text ++ ((Item.closing tail).text ++ (Item.renderTail tail ++ u)))
    rw [Token.readTemplate_text, ← hinside.resumes_eq_true] at hx
    have hbody :=
      hinside.resume (d := .template .brace (some (Item.closing tail))) rfl rfl body.text
    rw [Item.isLast_closing] at hbody
    obtain ⟨ys, r', hys, hr'⟩ := exists_reads_renderTail r _ _ tail u hbody
    have hreads := hxs.append (.cons hx hys)
    exact ⟨_, r', by simpa [Item.renderTail] using hreads, by simpa [Item.outlineTail] using hr'⟩

end

end Reader

/-- Reading the text of a document gives back the strings of the document, with the tree that its
templates form, and reports no problem. -/
theorem Document.read_renderAll (is : List Item) :
    (read (Item.renderAll is)).diagnostics = [] ∧
      Target.outlines (read (Item.renderAll is)).targets = Item.outlineAll is := by
  obtain ⟨xs, r, hxs, hr⟩ := Reader.exists_reads_renderAll {} [] is [] (by simp) (by simp)
  have hrun : Reader.run {} (Item.renderAll is) = r := by
    simpa [Reader.run] using hxs.run_eq
  have hframes : r.frames = [] := Reader.stack_eq_nil.mp hr.stack
  have hfinish : r.finish = r := by rw [Reader.finish, hframes]; rfl
  have houtlines := hr.outlines
  simp only [read, hrun, hfinish]
  refine ⟨hr.diagnostics, ?_⟩
  simpa [Reader.outlines, hframes, Target.outlines] using houtlines

/-- An object literal in an interpolation, with a brace in one of its strings. -/
example : (Document.read "`a$\x7b\x7bb: '\x7d'\x7d\x7dc`".toList).targets.map Target.outline = [
    .body (.template .backtick (some .interpolation)) ['a'],
    .group [.body (.quoted .single true) ['\x7d']],
    .body (.template .brace (some .backtick)) ['c']] := by
  cbv

end Requote
