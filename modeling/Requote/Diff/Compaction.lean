import Requote.Diff

/-!
# Compaction

A script stays right when an insertion slides over kept lines that equal its own. Compaction slides
every deletion and then every insertion as far up as it goes, then as far down as it goes, and
merges the ones that meet on the way.
-/

namespace Requote.Diff

/-- A step of a script with the steps before it, nearest first, and those after it. -/
structure Focus where
  before : List Step
  step   : Step
  after  : List Step

namespace Focus

/-- What a slide comes to: another slide may follow, or none can. -/
inductive Slide where
  | moved (focus : Focus)
  | stuck

/-- How far a step can slide up over kept lines. Only an insertion has new lines to compare. -/
def roomAbove (old new : Array Text) (kept step : Step) : Nat :=
  if step.tag = .insert then
    commonStop old new kept.oldStop step.newStop (min kept.length step.length)
  else
    0

/-- How far a step can slide down over kept lines. -/
def roomBelow (old new : Array Text) (kept step : Step) : Nat :=
  if step.tag = .insert then
    commonStart old new kept.old step.new (min kept.length step.length)
  else
    0

/-- The steps after one that slid up by `n` lines: the lines that it slid over come after it. -/
def keepAfter (n : Nat) (kept step : Step) (after : List Step) : List Step :=
  match after with
  | next :: rest =>
    if next.tag = .keep then
      { next with old := next.old - n, new := next.new - n, length := next.length + n } :: rest
    else
      ⟨.keep, kept.oldStop - n, step.newStop - n, n⟩ :: next :: rest
  | [] => [⟨.keep, kept.oldStop - n, step.newStop - n, n⟩]

/-- The steps before one that slid down by `n` lines. -/
def keepBefore (n : Nat) (kept step : Step) (before : List Step) : List Step :=
  match before with
  | previous :: rest =>
    if previous.tag = .keep then
      { previous with length := previous.length + n } :: rest
    else
      ⟨.keep, kept.old, step.new, n⟩ :: previous :: rest
  | [] => [⟨.keep, kept.old, step.new, n⟩]

/-- Slides up once. -/
def slideUp (old new : Array Text) (f : Focus) : Slide :=
  match f.before with
  | []                 => .stuck
  | previous :: before =>
    if previous.tag = .keep then
      let n := roomAbove old new previous f.step
      if 0 < n then
        let shorter := { previous with length := previous.length - n }
        .moved
          { before := if shorter.length = 0 then before else shorter :: before
            step   := { f.step with old := f.step.old - n, new := f.step.new - n }
            after  := keepAfter n previous f.step f.after }
      else if previous.length = 0 then
        .moved { f with before }
      else
        .stuck
    else if previous.tag = f.step.tag then
      .moved
        { f with before, step := { previous with length := previous.length + f.step.length } }
    else
      .moved { f with before, after := previous :: f.after }

/-- Slides down once. -/
def slideDown (old new : Array Text) (f : Focus) : Slide :=
  match f.after with
  | []            => .stuck
  | next :: after =>
    if next.tag = .keep then
      let n := roomBelow old new next f.step
      if 0 < n then
        let shorter :=
          { next with old := next.old + n, new := next.new + n, length := next.length - n }
        .moved
          { before := keepBefore n next f.step f.before
            step   := { f.step with old := f.step.old + n, new := f.step.new + n }
            after  := if shorter.length = 0 then after else shorter :: after }
      else if next.length = 0 then
        .moved { f with after }
      else
        .stuck
    else if next.tag = f.step.tag then
      .moved { f with step := { f.step with length := f.step.length + next.length }, after }
    else
      .moved { f with before := next :: f.before, after }

/-- Slides as far as it goes, at most `fuel` times. -/
def slideAll (slide : Focus → Slide) : Nat → Focus → Focus
  | 0,        f => f
  | fuel + 1, f =>
    match slide f with
    | .moved g => slideAll slide fuel g
    | .stuck   => f

/-- A bound on the slides over some steps: each takes a line or a step away. -/
def bound (steps : List Step) : Nat :=
  steps.foldr (fun s n => s.length + 1 + n) 0

/-- Slides up and then down. -/
def settle (old new : Array Text) (f : Focus) : Focus :=
  let up := slideAll (slideUp old new) (bound f.before) f
  slideAll (slideDown old new) (bound up.after) up

end Focus

/-- Settles every step with a tag, from the first to the last. -/
def settleAll (old new : Array Text) (tag : Tag) : Nat → List Step → List Step → List Step
  | 0,        before, after        => before.reverse ++ after
  | _,        before, []           => before.reverse
  | fuel + 1, before, step :: after =>
    if step.tag = tag then
      let f := Focus.settle old new ⟨before, step, after⟩
      settleAll old new tag fuel (f.step :: f.before) f.after
    else
      settleAll old new tag fuel (step :: before) after

/-- The compacted script. -/
def compact (old new : Array Text) (script : List Step) : List Step :=
  let pass (tag : Tag) (steps : List Step) :=
    settleAll old new tag (2 * Focus.bound steps + 1) [] steps
  pass .insert (pass .delete script)

end Requote.Diff
