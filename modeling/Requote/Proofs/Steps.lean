import Mathlib
import Requote.Document

/-!
# What a token does to the reader

The targets that the reader has found stand in lists: one for each open interpolation, and one for
the document around all of them. A token may end the innermost interpolation, the group of which
goes to the list around it. Then it adds its body to the list that is innermost now, if it has one.
At last it may open an interpolation, with an empty list. Nothing else happens to the lists.
-/

namespace Requote

namespace Token

/-- The body that a string token becomes at an offset. -/
def bodyAt? (offset : Nat) : Token → Option Body
  | body d t => some ⟨d, t, ⟨offset, offset + (d.wrap t).size⟩⟩
  | _        => none

/-- Whether a token ends an interpolation. -/
def isResuming : Token → Bool
  | body d _ => !d.isFirst
  | _        => false

/-- Whether a token opens an interpolation. -/
def isOpening : Token → Bool
  | body d _ => !d.isLast
  | _        => false

end Token

/-- What a token does to the interpolation that it is read in. -/
def Frame.take (f : Frame) (x : Token) (s : Span) : Frame :=
  match x with
  | .body d t   => { f.note x s with inside := f.inside ++ [.body ⟨d, t, s⟩] }
  | .opening b  => { f.note x s with brackets := b :: f.brackets }
  | .closing b  =>
    { f.note x s with
      brackets := if f.brackets.head? = some b then f.brackets.tail else f.brackets }
  | .operator _ => { f.note x s with lowPriority := f.lowPriority || f.brackets.isEmpty }
  | .comment _ | .blank _ | .other _ => f.note x s

lemma Frame.start_take (f : Frame) (x : Token) (s : Span) : (f.take x s).start = f.start := by
  cases x <;> rfl

namespace Reader

variable {r : Reader} {x : Token} {f : Frame} {fs : List Frame}

/-! ### The open interpolations and the targets around them -/

lemma frames_modifyFrame (r : Reader) (g : Frame → Frame) :
    (r.modifyFrame g).frames = r.frames.modifyHead g := rfl

lemma frames_note (r : Reader) (x : Token) (s : Span) :
    (r.note x s).frames = r.frames.modifyHead fun f => f.note x s := rfl

lemma targets_note (r : Reader) (x : Token) (s : Span) : (r.note x s).targets = r.targets := rfl

lemma frames_openFrame (r : Reader) (start : Nat) :
    (r.openFrame start).frames = { start } :: r.frames := rfl

lemma targets_openFrame (r : Reader) (start : Nat) : (r.openFrame start).targets = r.targets := rfl

/-- A target goes to the innermost open interpolation if there is one, else to the document. -/
lemma addTarget_eq (r : Reader) (a : Target) :
    r.addTarget a =
      { r with
        targets := r.targets ++ if r.frames = [] then [a] else []
        frames  := r.frames.modifyHead fun f => { f with inside := f.inside ++ [a] } } := by
  simp only [addTarget]
  split <;> rename_i hf <;> simp [hf]

lemma frames_addTarget (r : Reader) (a : Target) :
    (r.addTarget a).frames = r.frames.modifyHead fun f => { f with inside := f.inside ++ [a] } := by
  rw [addTarget_eq]

lemma targets_addTarget (r : Reader) (a : Target) :
    (r.addTarget a).targets = r.targets ++ if r.frames = [] then [a] else [] := by
  rw [addTarget_eq]

lemma frames_addBody (r : Reader) (d : Delimiters) (t : Text) (s : Span) :
    (r.addBody d t s).frames
      = r.frames.modifyHead fun f => { f with inside := f.inside ++ [.body ⟨d, t, s⟩] } := by
  simp only [addBody, frames_addTarget]
  split <;> rfl

lemma targets_addBody (r : Reader) (d : Delimiters) (t : Text) (s : Span) :
    (r.addBody d t s).targets
      = r.targets ++ if r.frames = [] then [.body ⟨d, t, s⟩] else [] := by
  simp only [addBody, targets_addTarget]
  split <;> rfl

lemma closeFrame_of_frames_eq_nil (h : r.frames = []) (stop : Nat) : r.closeFrame stop = r := by
  simp [closeFrame, h]

/-- The group of a closed interpolation goes to the one around it if there is one, else to the
document. -/
lemma closeFrame_of_frames_eq_cons (h : r.frames = f :: fs) (stop : Nat) :
    r.closeFrame stop
      = (({ r with frames := fs }).addEvent (.closed stop)).addTarget (f.finish stop) := by
  simp [closeFrame, h]

lemma frames_closeFrame (h : r.frames = f :: fs) (stop : Nat) :
    (r.closeFrame stop).frames
      = fs.modifyHead fun f' => { f' with inside := f'.inside ++ [f.finish stop] } := by
  rw [closeFrame_of_frames_eq_cons h, frames_addTarget]
  rfl

lemma targets_closeFrame (h : r.frames = f :: fs) (stop : Nat) :
    (r.closeFrame stop).targets = r.targets ++ if fs = [] then [f.finish stop] else [] := by
  rw [closeFrame_of_frames_eq_cons h, targets_addTarget]
  rfl

lemma length_frames_closeFrame (r : Reader) (stop : Nat) :
    (r.closeFrame stop).frames.length = r.frames.length - 1 := by
  cases hf : r.frames with
  | nil => simp [closeFrame_of_frames_eq_nil hf, hf]
  | cons f fs => simp [frames_closeFrame hf]

lemma offset_closeFrame (r : Reader) (stop : Nat) : (r.closeFrame stop).offset = r.offset := by
  cases hf : r.frames with
  | nil => rw [closeFrame_of_frames_eq_nil hf]
  | cons f fs =>
    rw [closeFrame_of_frames_eq_cons hf, addTarget_eq]
    rfl

lemma frames_closeBracket (r : Reader) (b : Bracket) (offset : Nat) :
    (r.closeBracket b offset).frames = r.frames.modifyHead fun f =>
      { f with brackets := if f.brackets.head? = some b then f.brackets.tail else f.brackets } := by
  simp only [closeBracket]
  split
  · rename_i hf
    rw [hf, List.modifyHead_nil]
  · rename_i f frames hf
    split <;> rename_i hb <;> simp [hf, hb, addEvent, addDiagnostic]

lemma targets_closeBracket (r : Reader) (b : Bracket) (offset : Nat) :
    (r.closeBracket b offset).targets = r.targets := by
  simp only [closeBracket]
  split
  · rfl
  · split <;> rfl

/-! ### A token, step by step -/

/-- The state in which the interpolation that a token ends is closed, if the token ends one. -/
def leaving (r : Reader) (x : Token) : Reader :=
  if x.isResuming then r.closeFrame r.offset else r

lemma leaving_of_not_isResuming (r : Reader) (hx : x.isResuming = false) : r.leaving x = r := by
  simp [leaving, hx]

lemma leaving_of_isResuming (r : Reader) (hx : x.isResuming = true) :
    r.leaving x = r.closeFrame r.offset := by
  simp [leaving, hx]

lemma offset_leaving (r : Reader) (x : Token) : (r.leaving x).offset = r.offset := by
  cases hx : x.isResuming with
  | false => rw [leaving_of_not_isResuming r hx]
  | true => rw [leaving_of_isResuming r hx, offset_closeFrame]

/-- The interpolation that a token opens at an offset, if it does. -/
def opened (x : Token) (stop : Nat) : List Frame :=
  if x.isOpening then [{ start := stop }] else []

/-- What a string token does, in one form for all kinds. -/
lemma act_body (r : Reader) (d : Delimiters) (s : Text) (sp : Span) :
    r.act (.body d s) sp =
      if d.isLast then
        ((if d.isFirst then r else r.closeFrame sp.start).note (.body d s) sp).addBody d s sp
      else
        (((if d.isFirst then r else r.closeFrame sp.start).note (.body d s) sp).addBody d s
          sp).openFrame sp.stop := by
  match d with
  | .quoted q closed => rfl
  | .template o e => cases o <;> rcases e with _ | _ | _ <;> rfl

/-- A token changes the interpolation that is innermost once the token has ended one, and may open
another one in it. -/
lemma frames_step (r : Reader) (x : Token) :
    (r.step x).frames = opened x (r.offset + x.text.size)
      ++ (r.leaving x).frames.modifyHead fun f =>
        f.take x ⟨r.offset, r.offset + x.text.size⟩ := by
  have hact : (r.step x).frames = (r.act x ⟨r.offset, r.offset + x.text.size⟩).frames := rfl
  rw [hact]
  cases x with
  | body d t =>
    rw [act_body]
    cases hfirst : d.isFirst <;> cases hlast : d.isLast <;>
      simp [leaving, Token.isResuming, opened, Token.isOpening, hfirst, hlast, frames_openFrame,
        frames_addBody, frames_note, List.modifyHead_modifyHead] <;> rfl
  | opening b | operator t =>
    simp only [act, frames_modifyFrame, frames_note, List.modifyHead_modifyHead]
    rfl
  | closing b =>
    simp only [act, frames_closeBracket, frames_note, List.modifyHead_modifyHead]
    rfl
  | comment t | blank t | other t => rfl

lemma frames_step_of_not_isResuming (r : Reader) (hx : x.isResuming = false) :
    (r.step x).frames = opened x (r.offset + x.text.size)
      ++ r.frames.modifyHead fun f => f.take x ⟨r.offset, r.offset + x.text.size⟩ := by
  rw [frames_step, leaving_of_not_isResuming r hx]

lemma frames_step_of_isResuming (hx : x.isResuming = true) (hf : r.frames = f :: fs) :
    (r.step x).frames = opened x (r.offset + x.text.size)
      ++ fs.modifyHead fun f' => { f' with inside := f'.inside ++ [f.finish r.offset] }.take x
        ⟨r.offset, r.offset + x.text.size⟩ := by
  rw [frames_step, leaving_of_isResuming r hx, frames_closeFrame hf, List.modifyHead_modifyHead]
  rfl

/-- A token adds its body outside all interpolations if none is open once the token has ended
one. -/
lemma targets_step (r : Reader) (x : Token) :
    (r.step x).targets = (r.leaving x).targets
      ++ if (r.leaving x).frames = [] then (x.bodyAt? r.offset).toList.map .body else [] := by
  have hact : (r.step x).targets = (r.act x ⟨r.offset, r.offset + x.text.size⟩).targets := rfl
  rw [hact]
  cases x with
  | body d t =>
    rw [act_body]
    cases hfirst : d.isFirst <;> cases hlast : d.isLast <;>
      simp [leaving, Token.isResuming, Token.bodyAt?, Token.text, hfirst, targets_openFrame,
        targets_addBody, targets_note, frames_note]
  | closing b =>
    rw [act, targets_closeBracket, targets_note]
    simp [leaving, Token.isResuming, Token.bodyAt?]
  | opening b | operator t | comment t | blank t | other t =>
    simp [act, leaving, Token.isResuming, Token.bodyAt?, modifyFrame, targets_note]

/-! ### The lists of targets -/

/-- The lists that targets are being added to, innermost first, each with the offset it starts
at. -/
def levels (r : Reader) : List (Nat × List Target) :=
  r.frames.map (fun f => (f.start, f.inside)) ++ [(0, r.targets)]

/-- Adds a target to the innermost list. -/
def addToHead (a : Target) : List (Nat × List Target) → List (Nat × List Target) :=
  List.modifyHead fun level => (level.1, level.2 ++ [a])

lemma levels_addTarget (r : Reader) (a : Target) :
    (r.addTarget a).levels = addToHead a r.levels := by
  cases hf : r.frames <;> simp [levels, addToHead, frames_addTarget, targets_addTarget, hf]

lemma levels_addBody (r : Reader) (d : Delimiters) (t : Text) (s : Span) :
    (r.addBody d t s).levels = addToHead (.body ⟨d, t, s⟩) r.levels := by
  cases hf : r.frames <;> simp [levels, addToHead, frames_addBody, targets_addBody, hf]

lemma levels_modifyFrame (r : Reader) {g : Frame → Frame}
    (hg : ∀ f, (g f).start = f.start ∧ (g f).inside = f.inside) :
    (r.modifyFrame g).levels = r.levels := by
  simp only [modifyFrame, levels]
  cases r.frames <;> simp [hg]

@[simp] lemma levels_note (r : Reader) (x : Token) (s : Span) : (r.note x s).levels = r.levels :=
  levels_modifyFrame r fun _ => ⟨rfl, rfl⟩

@[simp] lemma levels_closeBracket (r : Reader) (b : Bracket) (offset : Nat) :
    (r.closeBracket b offset).levels = r.levels := by
  cases hf : r.frames <;> simp [levels, frames_closeBracket, targets_closeBracket, hf]

lemma levels_openFrame (r : Reader) (start : Nat) :
    (r.openFrame start).levels = (start, []) :: r.levels := rfl

/-- The group of a closed interpolation goes to the list around it. -/
lemma levels_closeFrame (h : r.frames = f :: fs) (stop : Nat) :
    (r.closeFrame stop).levels = addToHead (f.finish stop) r.levels.tail := by
  rw [closeFrame_of_frames_eq_cons h, levels_addTarget]
  simp [levels, h, addEvent]

/-- A token adds its body to the list that is innermost once the token has ended an interpolation,
and may start a list of its own. -/
lemma levels_step (r : Reader) (x : Token) :
    (r.step x).levels = (opened x (r.step x).offset).map (fun f => (f.start, f.inside)) ++
      match x.bodyAt? r.offset with
      | some b => addToHead (.body b) (r.leaving x).levels
      | none   => r.levels := by
  have hact : (r.step x).levels = (r.act x ⟨r.offset, (r.step x).offset⟩).levels := rfl
  rw [hact]
  cases x with
  | body d t =>
    rw [act_body]
    cases hfirst : d.isFirst <;> cases hlast : d.isLast <;>
      simp [opened, Token.isOpening, leaving, Token.isResuming, Token.bodyAt?, hfirst, hlast,
        levels_openFrame, levels_addBody, step, Token.text]
  | opening b | operator t => simp [act, levels_modifyFrame, opened, Token.isOpening, Token.bodyAt?]
  | closing b | comment t | blank t | other t => simp [act, opened, Token.isOpening, Token.bodyAt?]

/-! ### The end of the text -/

/-- What is kept when an interpolation is closed is kept at the end of the text, where all of them
are. -/
lemma finish_invariant {P : Reader → Prop} (hclose : ∀ r, P r → P (r.closeFrame r.offset))
    (h : P r) : P r.finish := by
  have hunwind : ∀ n r, P r → P (r.unwind n) := by
    intro n
    induction n with
    | zero => exact fun _ h => h
    | succ n ih => exact fun r h => ih _ (hclose r h)
  exact hunwind _ _ h

lemma frames_finish (r : Reader) : r.finish.frames = [] := by
  have hunwind : ∀ (n : Nat) (r : Reader), (r.unwind n).frames.length = r.frames.length - n := by
    intro n
    induction n with
    | zero => intro r; rfl
    | succ n ih =>
      intro r
      rw [unwind, ih, length_frames_closeFrame]
      omega
  rw [← List.length_eq_zero_iff, finish, hunwind]
  omega

end Reader

end Requote
