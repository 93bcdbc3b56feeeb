import Requote.Proofs.Literals

/-!
# Converting two literals

Converting a quoted literal leaves every other literal where it is, up to the change in size. So of
two literals each can be found and converted after the other one was, with the same outcome in
either order.
-/

namespace Requote

namespace Target

mutual

lemma bodies_move (f : Nat → Nat) (β : Body → Body) (a : Target) :
    (a.move f β).bodies = a.bodies.map β := by
  match a with
  | .body b => rfl
  | .group g inside =>
    rw [move, bodies, bodies]
    exact bodiesOf_moveAll f β inside

/-- The bodies of a moved tree are those of the tree, one for one. -/
lemma bodiesOf_moveAll (f : Nat → Nat) (β : Body → Body) (ts : List Target) :
    bodiesOf (moveAll f β ts) = (bodiesOf ts).map β := by
  match ts with
  | [] => rfl
  | a :: ts => rw [moveAll, bodiesOf, bodiesOf, List.map_append, bodies_move, bodiesOf_moveAll]

end

end Target

namespace Document

variable {before middle after s s₁ s₂ : Text} {k k' : Kind} {q : Quote} {a : Body}

/-- After a literal is converted, every other body of the document is still there, with its place
moved. -/
lemma Holds.mem_bodiesOf_convert (h : Holds before (.normal q) s after)
    (hk : k = .template ∨ k = .normal q.other)
    (ha : a ∈ Target.bodiesOf (read (before ++ ((Kind.normal q).wrap s ++ after))).targets)
    (hne : a ≠ (Kind.normal q).bodyAt before.size s) :
    { a with span := a.span.move (((Kind.normal q).bodyAt before.size s).shift
        (before ++ ((Kind.normal q).wrap s ++ after))
        (before ++ (k.wrap (Escape.convert (.normal q) k s) ++ after))) }
      ∈ Target.bodiesOf
        (read (before ++ (k.wrap (Escape.convert (.normal q) k s) ++ after))).targets := by
  obtain ⟨before', after', hsource, hspan, hread⟩ := read_convertAndWrap h rfl hk
  -- the split of the text is the one at the literal
  have hstart : before.size = before'.size := congrArg Span.start hspan
  obtain ⟨rfl, hrest⟩ := Text.append_inj_of_size_eq hsource hstart
  obtain rfl : after = after' := List.append_cancel_left hrest
  have hmoved := hread (before ++ (k.wrap (Escape.convert (.normal q) k s) ++ after)) rfl
  rw [hmoved, move, Target.bodiesOf_moveAll]
  refine List.mem_map.mpr ⟨a, ha, ?_⟩
  rw [Body.converted, if_neg hne]

/-- A literal behind a converted one stands there still. -/
lemma Holds.convert_left (h₁ : Holds before (.normal q) s₁ (middle ++ (k'.wrap s₂ ++ after)))
    (h₂ : Holds (before ++ ((Kind.normal q).wrap s₁ ++ middle)) k' s₂ after)
    (hk : k = .template ∨ k = .normal q.other) :
    Holds (before ++ (k.wrap (Escape.convert (.normal q) k s₁) ++ middle)) k' s₂ after := by
  have hpos := (Kind.normal q).one_lt_size_wrap s₁
  simp only [Holds, List.append_assoc] at h₂ ⊢
  have hne : k'.bodyAt (before ++ ((Kind.normal q).wrap s₁ ++ middle)).size s₂
      ≠ (Kind.normal q).bodyAt before.size s₁ := by
    intro heq
    have hstart := congrArg (fun b => b.span.start) heq
    simp only [Kind.bodyAt, Text.size_append] at hstart
    omega
  have hmem := h₁.mem_bodiesOf_convert hk h₂ hne
  convert hmem using 1
  simp only [Kind.bodyAt, Span.move, Body.shift, Text.size_append, Body.mk.injEq, Span.mk.injEq,
    true_and]
  split <;> split <;> omega

/-- A literal in front of a converted one stands there still. -/
lemma Holds.convert_right (h₁ : Holds before k' s₁ (middle ++ ((Kind.normal q).wrap s₂ ++ after)))
    (h₂ : Holds (before ++ (k'.wrap s₁ ++ middle)) (.normal q) s₂ after)
    (hk : k = .template ∨ k = .normal q.other) :
    Holds before k' s₁ (middle ++ (k.wrap (Escape.convert (.normal q) k s₂) ++ after)) := by
  have hpos := k'.one_lt_size_wrap s₁
  have hne : k'.bodyAt before.size s₁
      ≠ (Kind.normal q).bodyAt (before ++ (k'.wrap s₁ ++ middle)).size s₂ := by
    intro heq
    have hstart := congrArg (fun b => b.span.start) heq
    simp only [Kind.bodyAt, Text.size_append] at hstart
    omega
  have hmem := h₂.mem_bodiesOf_convert hk (by simpa only [Holds, List.append_assoc] using h₁) hne
  simp only [Holds, List.append_assoc] at hmem ⊢
  convert hmem using 1
  simp only [Kind.bodyAt, Span.move, Body.shift, Text.size_append, Body.mk.injEq, Span.mk.injEq,
    true_and]
  split <;> split <;> omega

end Document

namespace Command

variable {command c₁ c₂ : Command} {source : Text} {b₁ b₂ : Body} {q q₁ q₂ : Quote}

/-- The commands on quoted literals turn them into templates or into literals with the other
quote. -/
lemma exists_turns (style : QuoteStyle) (q : Quote) (hcommand : command ≠ .toNormal) :
    ∃ k, Turns style command (.normal q) k ∧ (k = .template ∨ k = .normal q.other) := by
  cases command with
  | toTemplate => exact ⟨_, .toTemplate q, .inl rfl⟩
  | toggle => exact ⟨_, .toggle q, .inr rfl⟩
  | toNormal => exact absurd rfl hcommand

/-- Two quoted literals of a document can be converted in either order: all four conversions
succeed, and the text is the same in the end. The place of the second literal moves by the change in
size. -/
theorem convert_comm (style₁ style₂ : QuoteStyle) (h₁ : c₁ ≠ .toNormal) (h₂ : c₂ ≠ .toNormal)
    (hb₁ : b₁ ∈ Target.bodiesOf (Document.read source).targets)
    (hb₂ : b₂ ∈ Target.bodiesOf (Document.read source).targets)
    (hkind₁ : b₁.kind = .normal q₁) (hkind₂ : b₂.kind = .normal q₂)
    (hterminated₁ : b₁.isTerminated = true) (hterminated₂ : b₂.isTerminated = true)
    (hlt : b₁.span.start < b₂.span.start) :
    ∃ first second both, c₁.convert style₁ source (b₁.span.start + 1) = .ok first ∧
      c₂.convert style₂ first (b₂.span.start + 1 + first.size - source.size) = .ok both ∧
      c₂.convert style₂ source (b₂.span.start + 1) = .ok second ∧
      c₁.convert style₁ second (b₁.span.start + 1) = .ok both := by
  have hdisjoint : b₁.span.stop ≤ b₂.span.start := by
    have hpos := (Document.ordered_bodiesOf_read source).2 b₂ hb₂
    have hne : b₁ ≠ b₂ := by
      rintro rfl
      exact Nat.lt_irrefl _ hlt
    have := Document.disjoint_of_ne hb₁ hb₂ hne
    omega
  obtain ⟨before, rest, hsource, hbody₁, hholds₁⟩ :=
    Document.exists_holds (k := .normal q₁) hb₁ (delimiters_of_kind hkind₁ hterminated₁)
  obtain ⟨before₂, after, hsource₂, hbody₂, hholds₂⟩ :=
    Document.exists_holds (k := .normal q₂) hb₂ (delimiters_of_kind hkind₂ hterminated₂)
  generalize b₁.text = s₁ at *
  generalize b₂.text = s₂ at *
  obtain ⟨k₁, hturns₁, hk₁⟩ := exists_turns style₁ q₁ h₁
  obtain ⟨k₂, hturns₂, hk₂⟩ := exists_turns style₂ q₂ h₂
  have hstart₁ : b₁.span.start = before.size := by rw [hbody₁, Kind.bodyAt]
  have hstart₂ : b₂.span.start = before₂.size := by rw [hbody₂, Kind.bodyAt]
  -- between the two literals stands a text that no conversion touches
  obtain ⟨middle, rfl, rfl⟩ : ∃ middle, before₂ = before ++ ((Kind.normal q₁).wrap s₁ ++ middle) ∧
      rest = middle ++ ((Kind.normal q₂).wrap s₂ ++ after) := by
    have hsplit : before ++ (Kind.normal q₁).wrap s₁ ++ rest
        = before₂ ++ ((Kind.normal q₂).wrap s₂ ++ after) := by
      rw [List.append_assoc, ← hsource, hsource₂]
    obtain ⟨middle, hbefore, hrest⟩ := Text.append_eq_append_of_size_le hsplit (by
      rw [hbody₁, hstart₂] at hdisjoint
      simpa [Kind.bodyAt] using hdisjoint)
    exact ⟨middle, by rw [hbefore, List.append_assoc], hrest⟩
  have hfirst := convert_of_holds style₁ hholds₁ hturns₁
  have hthen := convert_of_holds style₂ (hholds₁.convert_left hholds₂ hk₁) hturns₂
  have hsecond := convert_of_holds style₂ hholds₂ hturns₂
  have hback := convert_of_holds style₁ (hholds₁.convert_right hholds₂ hk₂) hturns₁
  simp only [List.append_assoc] at hfirst hthen hsecond hback
  rw [hstart₁, hstart₂, hsource]
  refine ⟨_, _, _, hfirst, ?_, hsecond, hback⟩
  convert hthen using 2
  simp only [Text.size_append]
  omega

/-- Two literals in interpolations of one template, of which the first becomes shorter. -/
theorem convert_comm_interpolated :
    Target.bodiesOf (Document.read "`$\x7b'\\\"'\x7d$\x7b\"b\"\x7d`".toList).targets
        = [⟨.template .backtick (some .interpolation), [], ⟨0, 3⟩⟩,
          ⟨.quoted .single true, "\\\"".toList, ⟨3, 7⟩⟩,
          ⟨.template .brace (some .interpolation), [], ⟨7, 10⟩⟩,
          ⟨.quoted .double true, ['b'], ⟨10, 13⟩⟩,
          ⟨.template .brace (some .backtick), [], ⟨13, 15⟩⟩] ∧
      ∃ first second both,
        Command.toTemplate.convert .infer "`$\x7b'\\\"'\x7d$\x7b\"b\"\x7d`".toList 4 = .ok first ∧
        Command.toggle.convert .infer first (10 + 1 + first.size - 15) = .ok both ∧
        Command.toggle.convert .infer "`$\x7b'\\\"'\x7d$\x7b\"b\"\x7d`".toList 11 = .ok second ∧
        Command.toTemplate.convert .infer second 4 = .ok both := by
  have hbodies : Target.bodiesOf (Document.read "`$\x7b'\\\"'\x7d$\x7b\"b\"\x7d`".toList).targets
      = [⟨.template .backtick (some .interpolation), [], ⟨0, 3⟩⟩,
        ⟨.quoted .single true, "\\\"".toList, ⟨3, 7⟩⟩,
        ⟨.template .brace (some .interpolation), [], ⟨7, 10⟩⟩,
        ⟨.quoted .double true, ['b'], ⟨10, 13⟩⟩,
        ⟨.template .brace (some .backtick), [], ⟨13, 15⟩⟩] := by
    cbv
  have hb₁ : (⟨.quoted .single true, "\\\"".toList, ⟨3, 7⟩⟩ : Body)
      ∈ Target.bodiesOf (Document.read "`$\x7b'\\\"'\x7d$\x7b\"b\"\x7d`".toList).targets := by
    rw [hbodies]
    exact List.mem_cons_of_mem _ List.mem_cons_self
  have hb₂ : (⟨.quoted .double true, ['b'], ⟨10, 13⟩⟩ : Body)
      ∈ Target.bodiesOf (Document.read "`$\x7b'\\\"'\x7d$\x7b\"b\"\x7d`".toList).targets := by
    rw [hbodies]
    simp
  have hsize : Text.size "`$\x7b'\\\"'\x7d$\x7b\"b\"\x7d`".toList = 15 := by cbv
  have htemplate : Command.toTemplate ≠ .toNormal := by decide
  have htoggle : Command.toggle ≠ .toNormal := by decide
  have h := convert_comm .infer .infer htemplate htoggle hb₁ hb₂ rfl rfl rfl rfl (by decide)
  rw [hsize] at h
  exact ⟨hbodies, h⟩

end Command

end Requote
