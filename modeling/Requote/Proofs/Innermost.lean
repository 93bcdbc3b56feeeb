import Requote.Proofs.Cursors
import Requote.Proofs.Outcomes

/-!
# The innermost string under a cursor

A cursor at the end of one string and at the start of the next one touches both, and the one around
them too. The search decides: strings in interpolations come before the strings around them, then
the first one counts. Only one group of a list can be touched, as a body that is not empty stands
between two of them. So what is found is as deep as anything that the cursor touches, and the first
string of that depth.

The body and the literal under a cursor can be searched for together or each on its own. The tree is
gone through in the same way, so they belong together.
-/

namespace Requote

/-! ### Searching for one thing -/

namespace Target

variable {α β : Type} {offset : Nat} {here : List Target → Option α}

mutual

/-- What is found inside a group that the cursor touches, if a list is searched on its own after the
groups in it. -/
def searchGroup? (offset : Nat) (here : List Target → Option α) : Target → Option α
  | .body _         => none
  | .group g inside =>
    if g.span.touches offset then (searchGroups? offset here inside).or (here inside) else none

/-- What is found inside the first group of a list that has something. -/
def searchGroups? (offset : Nat) (here : List Target → Option α) : List Target → Option α
  | []      => none
  | t :: ts => (searchGroup? offset here t).or (searchGroups? offset here ts)

end

/-- What is found in a list, in the groups first. -/
def search? (offset : Nat) (here : List Target → Option α) (ts : List Target) : Option α :=
  (searchGroups? offset here ts).or (here ts)

/-- The body under a cursor, without its neighbours. -/
def bodyUnder? (offset : Nat) : List Target → Option Body :=
  search? offset fun ts => (ts.filterMap body?).find? fun b => b.span.touches offset

/-- The literal under a cursor. -/
def literalUnder? (offset : Nat) : List Target → Option (List Target) :=
  search? offset fun ts => (Place.bodyAt? offset ts).map Place.literal

mutual

lemma searchGroup?_map (f : α → β) (a : Target) :
    searchGroup? offset (fun ts => (here ts).map f) a = (searchGroup? offset here a).map f := by
  match a with
  | .body b => rfl
  | .group g inside =>
    simp only [searchGroup?]
    split
    · rw [searchGroups?_map f inside, Option.map_or]
    · rfl

lemma searchGroups?_map (f : α → β) (ts : List Target) :
    searchGroups? offset (fun ts => (here ts).map f) ts = (searchGroups? offset here ts).map f := by
  match ts with
  | [] => rfl
  | a :: ts =>
    simp only [searchGroups?]
    rw [searchGroup?_map f a, searchGroups?_map f ts, Option.map_or]

end

lemma search?_map (f : α → β) (ts : List Target) :
    search? offset (fun ts => (here ts).map f) ts = (search? offset here ts).map f := by
  simp only [search?]
  rw [searchGroups?_map, Option.map_or]

mutual

lemma searchGroup?_bodyAt? (a : Target) :
    searchGroup? offset (Place.bodyAt? offset) a = Place.insideGroup? offset a := by
  match a with
  | .body b => rfl
  | .group g inside => simp only [searchGroup?, Place.insideGroup?, searchGroups?_bodyAt? inside]

lemma searchGroups?_bodyAt? (ts : List Target) :
    searchGroups? offset (Place.bodyAt? offset) ts = Place.insideGroups? offset ts := by
  match ts with
  | [] => rfl
  | a :: ts =>
    simp only [searchGroups?, Place.insideGroups?, searchGroup?_bodyAt? a, searchGroups?_bodyAt? ts]

end

lemma search?_bodyAt? (offset : Nat) (ts : List Target) :
    search? offset (Place.bodyAt? offset) ts = Place.find? offset ts := by
  rw [search?, Place.find?, searchGroups?_bodyAt?]

lemma body_comp_push (a : Target) : Place.body ∘ Place.push a = Place.body := rfl

lemma map_body_bodyAt? (offset : Nat) (ts : List Target) :
    (Place.bodyAt? offset ts).map Place.body
      = (ts.filterMap body?).find? fun b => b.span.touches offset := by
  fun_induction Place.bodyAt? offset ts with
  | case1 => rfl
  | case2 b ts hb => simp [body?, hb]
  | case3 b ts hb ih =>
    rw [Option.map_map, body_comp_push, ih]
    simp [body?, hb]
  | case4 g inside ts ih =>
    rw [Option.map_map, body_comp_push, ih]
    simp [body?]

/-- The body that is searched for on its own is the body at the place under the cursor. -/
lemma bodyUnder?_eq (offset : Nat) (ts : List Target) :
    bodyUnder? offset ts = (Place.find? offset ts).map Place.body := by
  rw [bodyUnder?, ← search?_bodyAt?, ← search?_map]
  simp only [map_body_bodyAt?]

/-- The literal that is searched for on its own is the literal at the place under the cursor. -/
lemma literalUnder?_eq (offset : Nat) (ts : List Target) :
    literalUnder? offset ts = (Place.find? offset ts).map Place.literal := by
  rw [literalUnder?, search?_map, search?_bodyAt?]

end Target

/-! ### The deepest string -/

namespace Place

variable {offset : Nat} {ts : List Target} {p : Place}

/-- Whether a place is right for a cursor in a tree: the cursor touches its body, no string that the
cursor touches is deeper, and none of the same depth stands in front of it. -/
def IsInnermost (offset : Nat) (root : List Target) (p : Place) : Prop :=
  p.body.span.touches offset = true ∧
    ∃ path, Target.inside? root path = some p.targets ∧
      ∀ path' ts' b, Target.inside? root path' = some ts' → .body b ∈ ts' →
        b.span.touches offset = true →
          path'.length ≤ path.length ∧
            (path'.length = path.length → p.body.span.start ≤ b.span.start)

/-- What is found in groups is found in one that the cursor touches. -/
lemma exists_group_of_insideGroups? (h : insideGroups? offset ts = some p) :
    ∃ (i : Nat) (g : Group) (inside : List Target), ts[i]? = some (.group g inside) ∧
      g.span.touches offset = true ∧ find? offset inside = some p := by
  induction ts with
  | nil => simp [insideGroups?] at h
  | cons a ts ih =>
    rw [insideGroups?] at h
    rcases Option.or_eq_some_iff.mp h with h | ⟨-, h⟩
    · match a, h with
      | .group g inside, h =>
        rw [insideGroup?_group] at h
        split at h
        · rename_i htouches
          exact ⟨0, g, inside, rfl, htouches, h⟩
        · simp at h
    · obtain ⟨i, g, inside, hg, htouches, hfind⟩ := ih h
      exact ⟨i + 1, g, inside, hg, htouches, hfind⟩

/-- No body in front of the one that is found in a list is touched. -/
lemma not_touches_before (h : bodyAt? offset ts = some p) :
    ∀ b, .body b ∈ p.before → b.span.touches offset = false := by
  fun_induction bodyAt? offset ts generalizing p with
  | case1 => simp at h
  | case2 b ts hb =>
    obtain rfl := Option.some.inj h
    simp
  | case3 b ts hb ih =>
    obtain ⟨p', hp', rfl⟩ := Option.map_eq_some_iff.mp h
    simpa [push, hb] using ih hp'
  | case4 g inside ts ih =>
    obtain ⟨p', hp', rfl⟩ := Option.map_eq_some_iff.mp h
    simpa [push] using ih hp'

/-- Of the bodies of a list that the cursor touches the first one is found. -/
lemma start_le_of_bodyAt? {b : Body} (h : bodyAt? offset ts = some p)
    (hordered : ts.Pairwise fun a b => a.span.stop ≤ b.span.start)
    (hle : p.body.span.start ≤ p.body.span.stop) (hb : .body b ∈ ts)
    (htouches : b.span.touches offset = true) : p.body.span.start ≤ b.span.start := by
  obtain rfl := targets_of_bodyAt? h
  rcases List.mem_append.mp hb with hb | hb
  · rw [not_touches_before h b hb] at htouches
    exact absurd htouches Bool.false_ne_true
  · rcases List.mem_cons.mp hb with heq | hb
    · obtain rfl := Target.body.inj heq
      exact Nat.le_refl _
    · have := (List.pairwise_cons.mp (List.pairwise_append.mp hordered).2.1).1 _ hb
      exact Nat.le_trans hle this

end Place

namespace Target

variable {size start stop offset : Nat} {closed : Group → List Target → Body → Prop}
  {ts : List Target} {l : Link} {p : Place} {b : Body}

/-- A body that the cursor touches stands in a group that the cursor touches. -/
lemma Chain.touches_of_body {i : Nat} {g : Group} {inside : List Target}
    (h : Chain size closed start ts stop l) (hg : ts[i]? = some (.group g inside))
    (hb : b ∈ bodiesOf inside) (htouches : b.span.touches offset = true) :
    g.span.touches offset = true := by
  obtain ⟨-, -, stop', l', hin, -, hle, -⟩ := h.of_group hg
  have hwithin := hin.bodies_within b hb
  have htouches := Span.touches_iff.mp htouches
  exact Span.touches_iff.mpr (by omega)

/-- A cursor touches one group of a list at most. -/
lemma Chain.eq_of_touches {i j : Nat} {g g' : Group} {inside inside' : List Target}
    (h : Chain size closed start ts stop l) (hlt : ∀ b, .body b ∈ ts → b.span.start < b.span.stop)
    (hg : ts[i]? = some (.group g inside)) (hg' : ts[j]? = some (.group g' inside'))
    (htouches : g.span.touches offset = true) (htouches' : g'.span.touches offset = true) :
    i = j := by
  have htouches := Span.touches_iff.mp htouches
  have htouches' := Span.touches_iff.mp htouches'
  rcases Nat.lt_trichotomy i j with hij | hij | hij
  · have := h.stop_lt_start_of_groups hlt hg hg' hij
    omega
  · exact hij
  · have := h.stop_lt_start_of_groups hlt hg' hg hij
    omega

/-- The search goes as deep as there is something to find: the group it goes into is the only one
that the cursor touches. -/
lemma Chain.isInnermost (ts : List Target) {start stop : Nat} {l : Link}
    (h : Chain size closed start ts stop l) (hlt : ∀ b ∈ bodiesOf ts, b.span.start < b.span.stop)
    (hfind : Place.find? offset ts = some p) : p.IsInnermost offset ts := by
  refine ⟨Place.touches_of_find? hfind, ?_⟩
  have hbodies : ∀ b, .body b ∈ ts → b.span.start < b.span.stop :=
    fun b hb => hlt b (mem_bodiesOf_of_inside? (show Target.inside? ts [] = some ts from rfl) hb)
  rcases Option.or_eq_some_iff.mp hfind with hgroups | ⟨hgroups, hhere⟩
  · obtain ⟨i, g, inside, hg, htouches, hin⟩ := Place.exists_group_of_insideGroups? hgroups
    obtain ⟨-, -, stop', l', hchain, -⟩ := h.of_group hg
    have hmem := List.mem_of_getElem? hg
    obtain ⟨-, path, hpath, hdeepest⟩ :=
      Chain.isInnermost inside hchain (fun b hb => hlt b (mem_bodiesOf_of_getElem? hg hb)) hin
    refine ⟨i :: path, by simpa [Target.inside?, hg] using hpath, ?_⟩
    intro path' ts' b hpath' hb htouches'
    cases path' with
    | nil => simp
    | cons j path' =>
      -- the other path has to go into the same group
      obtain ⟨g', inside', hg', hin'⟩ := inside?_cons hpath'
      have htouched := h.touches_of_body hg' (mem_bodiesOf_of_inside? hin' hb) htouches'
      obtain rfl : i = j := h.eq_of_touches hbodies hg hg' htouches htouched
      obtain ⟨rfl, rfl⟩ : g = g' ∧ inside = inside' := by simpa [hg] using hg'
      simpa using hdeepest path' ts' b hin' hb htouches'
  · refine ⟨[], by rw [Target.inside?, Place.targets_of_bodyAt? hhere], ?_⟩
    intro path' ts' b hpath' hb htouches'
    cases path' with
    | nil =>
      obtain rfl : ts = ts' := Option.some.inj hpath'
      refine ⟨Nat.le_refl _, fun _ => ?_⟩
      have hp : .body p.body ∈ ts := by
        rw [← Place.targets_of_bodyAt? hhere]
        simp [Place.targets]
      exact Place.start_le_of_bodyAt? hhere h.inOrder.1 (Nat.le_of_lt (hbodies _ hp)) hb htouches'
    | cons j path' =>
      -- a string in a group would have been found before those of the list
      obtain ⟨g', inside', hg', hin'⟩ := inside?_cons hpath'
      have hmem := mem_bodiesOf_of_inside? hin' hb
      have hgroup := Place.insideGroups?_eq_none_iff.mp hgroups _ (List.mem_of_getElem? hg')
      rw [Place.insideGroup?_group, if_pos (h.touches_of_body hg' hmem htouches')] at hgroup
      obtain ⟨-, -, stop', l', hchain, -⟩ := h.of_group hg'
      rw [hchain.touches_eq_false hgroup b hmem] at htouches'
      exact absurd htouches' Bool.false_ne_true
termination_by sizeOf ts
decreasing_by
  have := List.sizeOf_lt_of_mem hmem
  simp only [group.sizeOf_spec] at this
  omega

/-! ### The literal around a body -/

lemma Continues.alternates (h : Continues size b ts) :
    (.body b :: ts).IsChain fun a a' => a.body?.isSome = !a'.body?.isSome := by
  induction h with
  | last => exact .singleton _
  | cut => simp [body?]
  | resumed _ _ _ ih => simpa [body?] using ih

lemma Continues.isFirst_eq_false (h : Continues size b ts) :
    ∀ b', .body b' ∈ ts → b'.isFirst = false := by
  induction h with
  | last | cut => simp
  | resumed _ hb' _ ih => simpa [hb'] using ih

/-- No body of a literal but the last target ends it. If none does, it ends with a group that ends
with the text. -/
lemma Continues.exists_concat (h : Continues size b ts) :
    ∃ init a, .body b :: ts = init ++ [a] ∧ (∀ b', .body b' ∈ init → b'.isLast = false) ∧
      (Place.isLast a = true ∨ ∃ g inside, a = .group g inside ∧ g.span.stop = size) := by
  induction h with
  | @last b hb => exact ⟨[], .body b, rfl, by simp, .inl hb⟩
  | @cut b g inside hb hsize =>
    exact ⟨[.body b], .group g inside, rfl, by simpa using hb, .inr ⟨g, inside, rfl, hsize⟩⟩
  | @resumed b b' g inside ts hb _ _ ih =>
    obtain ⟨init, a, heq, hinit, ha⟩ := ih
    exact ⟨.body b :: .group g inside :: init, a, by simp [heq], by simpa [hb] using hinit, ha⟩

end Target

namespace Place

variable {p : Place}

/-- Whether the literal of a place is one whole literal: a stretch of the list around the body that
goes to the nearest body that opens a literal on one side, and to the nearest one that ends it on
the other. -/
structure IsWhole (size : Nat) (p : Place) (pre front back post : List Target) : Prop where
  before_eq : p.before = pre ++ front
  after_eq : p.after = back ++ post
  literal_eq : p.literal = front ++ .body p.body :: back
  /-- Bodies and groups come in turn. -/
  alternates : p.literal.IsChain fun a a' => a.body?.isSome = !a'.body?.isSome
  /-- The first target is the only body that opens a literal. -/
  opens : ∃ head tail, p.literal = .body head :: tail ∧ head.isFirst = true ∧
    ∀ b, .body b ∈ tail → b.isFirst = false
  /-- No body but the last target ends a literal. If the last target is none, then the text ends in
  it. -/
  ends : ∃ init a, p.literal = init ++ [a] ∧ (∀ b, .body b ∈ init → b.isLast = false) ∧
    (isLast a = true ∨ post = [] ∧ ∃ g inside, a = .group g inside ∧ g.span.stop = size)

lemma exists_isWhole {source : Text} {path : List Nat}
    (hpath : Target.inside? (Document.read source).targets path = some p.targets) :
    ∃ pre front back post, p.IsWhole source.size pre front back post := by
  obtain ⟨head, tail, hliteral, hfirst, htail⟩ := exists_continues hpath
  obtain ⟨pre, front, back, post, hbefore, hafter, heq, hpost⟩ := p.exists_literal_eq_of_ends
  obtain ⟨init, a, hconcat, hinit, ha⟩ := htail.exists_concat
  refine ⟨pre, front, back, post, hbefore, hafter, heq, ?_, ?_, ?_⟩
  · rw [hliteral]
    exact htail.alternates
  · exact ⟨head, tail, hliteral, hfirst, htail.isFirst_eq_false⟩
  · refine ⟨init, a, hliteral.trans hconcat, hinit, ha.imp_right ?_⟩
    rintro ⟨g, inside, rfl, hsize⟩
    refine ⟨hpost.resolve_right ?_, g, inside, rfl, hsize⟩
    rintro ⟨a', ha', hlast⟩
    rw [hliteral, hconcat, List.getLast?_concat] at ha'
    obtain rfl := Option.some.inj ha'
    simp [isLast, Target.body?] at hlast

end Place

namespace Document

/-- A cursor finds a string exactly if it touches one. It finds the first one of the deepest that it
touches, with its whole literal. Searching for the body alone, or for the literal alone, gives the
same. -/
theorem find?_isInnermost (source : Text) (offset : Nat) :
    Target.bodyUnder? offset (read source).targets
        = (Place.find? offset (read source).targets).map Place.body ∧
      Target.literalUnder? offset (read source).targets
        = (Place.find? offset (read source).targets).map Place.literal ∧
      ((∃ place, Place.find? offset (read source).targets = some place) ↔
        ∃ b ∈ Target.bodiesOf (read source).targets, b.span.touches offset = true) ∧
      ∀ place, Place.find? offset (read source).targets = some place →
        place.IsInnermost offset (read source).targets ∧
          ∃ pre front back post, place.IsWhole source.size pre front back post := by
  refine ⟨Target.bodyUnder?_eq _ _, Target.literalUnder?_eq _ _, ?_, ?_⟩
  · rw [← Option.ne_none_iff_exists', ne_eq, find?_eq_none_iff]
    simp
  · intro place hfind
    obtain ⟨stop, l, hchain, -⟩ := chain_read source
    obtain ⟨path, hpath⟩ := Place.exists_path_of_find? hfind
    exact ⟨Target.Chain.isInnermost _ hchain (ordered_bodiesOf_read source).2 hfind,
      Place.exists_isWhole hpath⟩

/-- A cursor between a template and a string in its interpolation. -/
theorem find?_isInnermost_nested :
    Place.find? 4 (read "`a$\x7b'b'\x7d`".toList).targets
        = some ⟨[], ⟨.quoted .single true, ['b'], ⟨4, 7⟩⟩, []⟩ ∧
      Place.IsInnermost 4 (read "`a$\x7b'b'\x7d`".toList).targets
        ⟨[], ⟨.quoted .single true, ['b'], ⟨4, 7⟩⟩, []⟩ ∧
      ∃ pre front back post, Place.IsWhole (Text.size "`a$\x7b'b'\x7d`".toList)
        ⟨[], ⟨.quoted .single true, ['b'], ⟨4, 7⟩⟩, []⟩ pre front back post := by
  have h : Place.find? 4 (read "`a$\x7b'b'\x7d`".toList).targets
      = some ⟨[], ⟨.quoted .single true, ['b'], ⟨4, 7⟩⟩, []⟩ := by
    cbv
  exact ⟨h, (find?_isInnermost _ 4).2.2.2 _ h⟩

end Document

end Requote
