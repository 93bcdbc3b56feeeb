import Requote.Proofs.Paths

/-!
# What a cursor finds

The search under a cursor goes down the tree: a group is looked into only if the cursor touches it.
The bodies inside a group lie between its two ends, so no body that the cursor touches is left out.
The bodies of a document do not overlap, so a cursor between the two ends of a body finds that body
and no other.
-/

namespace Requote

namespace Place

variable {offset : Nat} {ts inside : List Target} {p : Place} {g : Group}

lemma bodyAt?_eq_none_iff :
    bodyAt? offset ts = none ↔ ∀ b, .body b ∈ ts → b.span.touches offset = false := by
  fun_induction bodyAt? offset ts with
  | case1 => simp
  | case2 b ts h => simp [h]
  | case3 b ts h ih => simp_all
  | case4 g inside ts ih => simp [ih]

lemma insideGroups?_eq_none_iff :
    insideGroups? offset ts = none ↔ ∀ a ∈ ts, insideGroup? offset a = none := by
  induction ts with
  | nil => simp [insideGroups?]
  | cons a ts ih => simp [insideGroups?, ih]

lemma find?_eq_none_iff : find? offset ts = none ↔ (∀ a ∈ ts, insideGroup? offset a = none) ∧
    ∀ b, .body b ∈ ts → b.span.touches offset = false := by
  rw [find?, Option.or_eq_none_iff, insideGroups?_eq_none_iff, bodyAt?_eq_none_iff]

/-- Nothing is found in two lists together exactly if nothing is found in either. -/
lemma find?_append_eq_none_iff {ts' : List Target} :
    find? offset (ts ++ ts') = none ↔ find? offset ts = none ∧ find? offset ts' = none := by
  simp only [find?_eq_none_iff, List.mem_append]
  grind

/-- A group is searched like a document, if the cursor touches it. -/
lemma insideGroup?_group (offset : Nat) (g : Group) (inside : List Target) :
    insideGroup? offset (.group g inside)
      = if g.span.touches offset then find? offset inside else none := rfl

lemma touches_of_bodyAt? (h : bodyAt? offset ts = some p) : p.body.span.touches offset = true := by
  fun_induction bodyAt? offset ts generalizing p with
  | case1 => simp at h
  | case2 b ts hb =>
    obtain rfl := Option.some.inj h
    exact hb
  | case3 b ts _ ih | case4 g inside ts ih =>
    obtain ⟨p', hp', rfl⟩ := Option.map_eq_some_iff.mp h
    simpa [push] using ih hp'

mutual

lemma touches_of_insideGroup? {a : Target} {p : Place} (h : insideGroup? offset a = some p) :
    p.body.span.touches offset = true := by
  match a with
  | .body b => simp [insideGroup?] at h
  | .group g inside =>
    simp only [insideGroup?] at h
    split at h
    · rcases Option.or_eq_some_iff.mp h with h | ⟨-, h⟩
      · exact touches_of_insideGroups? h
      · exact touches_of_bodyAt? h
    · simp at h

lemma touches_of_insideGroups? {ts : List Target} {p : Place}
    (h : insideGroups? offset ts = some p) :
    p.body.span.touches offset = true := by
  match ts with
  | [] => simp [insideGroups?] at h
  | a :: ts =>
    rw [insideGroups?] at h
    rcases Option.or_eq_some_iff.mp h with h | ⟨-, h⟩
    · exact touches_of_insideGroup? h
    · exact touches_of_insideGroups? h

end

/-- The cursor touches the body that it finds. -/
lemma touches_of_find? (h : find? offset ts = some p) : p.body.span.touches offset = true := by
  rcases Option.or_eq_some_iff.mp h with h | ⟨-, h⟩
  · exact touches_of_insideGroups? h
  · exact touches_of_bodyAt? h

end Place

namespace Target

variable {size start stop offset : Nat} {closed : Group → List Target → Body → Prop}
  {ts : List Target} {l : Link}

/-- The bodies of a list, those inside its groups included, lie where the list does. -/
lemma Chain.bodies_within (h : Chain size closed start ts stop l) :
    ∀ b ∈ bodiesOf ts, start ≤ b.span.start ∧ b.span.stop ≤ stop := by
  induction h with
  | nil => simp [bodiesOf]
  | @first start stop ts b h _ hle hlt ih =>
    have hstart := h.start_le
    intro a ha
    rw [bodiesOf_append, List.mem_append] at ha
    rcases ha with ha | ha
    · have := ih a ha
      omega
    · obtain rfl : a = b := by simpa [bodiesOf, bodies] using ha
      omega
  | @resumed start stop ts inside g b h hin hle _ hstart hlt _ ih ihin =>
    have := h.start_le
    have := hin.start_le
    intro a ha
    simp only [bodiesOf_append, bodiesOf, bodies, List.mem_append, List.append_nil,
      List.mem_singleton] at ha
    rcases ha with ha | ha | rfl
    · have := ih a ha
      omega
    · have := ihin a ha
      omega
    · omega
  | @cut start stop ts inside g l h hin _ hle _ ih ihin =>
    have := h.start_le
    have := hin.start_le
    intro a ha
    simp only [bodiesOf_append, bodiesOf, bodies, List.mem_append, List.append_nil] at ha
    rcases ha with ha | ha
    · have := ih a ha
      omega
    · have := ihin a ha
      omega

/-- A body inside a group is touched only if the group is, so searching the group finds it. -/
lemma touches_eq_false_of_group {g : Group} {inside : List Target} {b : Body} {stop : Nat}
    (hg : Place.insideGroup? offset (.group g inside) = none)
    (hb : g.span.start ≤ b.span.start ∧ b.span.stop ≤ stop) (hle : stop ≤ g.span.stop)
    (hin : Place.find? offset inside = none → b.span.touches offset = false) :
    b.span.touches offset = false := by
  rw [Place.insideGroup?_group] at hg
  by_contra htouches
  have htouches := Span.touches_iff.mp (eq_true_of_ne_false htouches)
  have hgroup : g.span.touches offset = true := Span.touches_iff.mpr (by omega)
  rw [if_pos hgroup] at hg
  rw [Span.touches_iff.mpr htouches] at hin
  exact absurd (hin hg) (by simp)

/-- Where a cursor finds nothing it touches no body, at any depth. -/
lemma Chain.touches_eq_false (h : Chain size closed start ts stop l)
    (hfind : Place.find? offset ts = none) :
    ∀ b ∈ bodiesOf ts, b.span.touches offset = false := by
  induction h with
  | nil => simp [bodiesOf]
  | @first start stop ts b _ _ _ _ ih =>
    obtain ⟨hts, hb⟩ := Place.find?_append_eq_none_iff.mp hfind
    have hb := (Place.find?_eq_none_iff.mp hb).2 b (by simp)
    intro a ha
    simp only [bodiesOf_append, bodiesOf, bodies, List.append_nil, List.mem_append,
      List.mem_singleton] at ha
    rcases ha with ha | rfl
    · exact ih hts a ha
    · exact hb
  | @resumed start stop ts inside g b _ hin hle _ _ _ _ ih ihin =>
    obtain ⟨hts, hgb⟩ := Place.find?_append_eq_none_iff.mp hfind
    obtain ⟨hg, hb⟩ := Place.find?_eq_none_iff.mp hgb
    intro a ha
    simp only [bodiesOf_append, bodiesOf, bodies, List.append_nil, List.mem_append,
      List.mem_singleton] at ha
    rcases ha with ha | ha | rfl
    · exact ih hts a ha
    · exact touches_eq_false_of_group (hg _ (by simp)) (hin.bodies_within a ha) hle
        fun h => ihin h a ha
    · exact hb a (by simp)
  | @cut start stop ts inside g l _ hin _ hle _ ih ihin =>
    obtain ⟨hts, hg⟩ := Place.find?_append_eq_none_iff.mp hfind
    have hg := (Place.find?_eq_none_iff.mp hg).1 (.group g inside) (by simp)
    intro a ha
    simp only [bodiesOf_append, bodiesOf, bodies, List.append_nil, List.mem_append] at ha
    rcases ha with ha | ha
    · exact ih hts a ha
    · exact touches_eq_false_of_group hg (hin.bodies_within a ha) hle fun h => ihin h a ha

end Target

namespace Document

/-- A cursor finds no string exactly if it touches none, at any depth. -/
lemma find?_eq_none_iff {source : Text} {offset : Nat} :
    Place.find? offset (read source).targets = none ↔
      ∀ b ∈ Target.bodiesOf (read source).targets, b.span.touches offset = false := by
  constructor
  · intro hfind
    obtain ⟨stop, l, hchain, -⟩ := chain_read source
    exact hchain.touches_eq_false hfind
  · intro h
    by_contra hfind
    obtain ⟨p, hp⟩ := Option.ne_none_iff_exists'.mp hfind
    have htouches := Place.touches_of_find? hp
    rw [h _ (Place.mem_bodiesOf_of_find? hp)] at htouches
    exact Bool.false_ne_true htouches

/-- A cursor between the two ends of a string that is longer than one character finds it: no other
string gets that close. -/
lemma find?_of_mem_bodiesOf {source : Text} {offset : Nat} {b : Body}
    (hb : b ∈ Target.bodiesOf (read source).targets) (hstart : b.span.start < offset)
    (hstop : offset < b.span.stop) :
    ∃ place, Place.find? offset (read source).targets = some place ∧ place.body = b := by
  have htouches : b.span.touches offset = true := by
    rw [Span.touches_iff]
    omega
  match hfind : Place.find? offset (read source).targets with
  | none =>
    rw [find?_eq_none_iff.mp hfind b hb] at htouches
    exact absurd htouches Bool.false_ne_true
  | some place =>
    have hplace := Span.touches_iff.mp (Place.touches_of_find? hfind)
    refine ⟨place, rfl, ?_⟩
    by_contra hne
    have := disjoint_of_ne (Place.mem_bodiesOf_of_find? hfind) hb hne
    omega

end Document

namespace Command

/-- The edit that gives a body another kind puts the new text in its place. -/
lemma applyAll?_replaceBody {before : Text} {b : Body} (after : Text)
    (hspan : b.span = ⟨before.size, before.size + (b.delimiters.wrap b.text).size⟩) (kind : Kind) :
    Edit.applyAll? (before ++ (b.delimiters.wrap b.text ++ after)) [replaceBody b kind]
      = some (before ++ (Escape.convertAndWrap b.kind kind true true b.text ++ after)) :=
  (Edit.Splices.cons (by simp [replaceBody, hspan]) (by simp [replaceBody, hspan])
    (.nil _ _)).applyAll?

end Command

end Requote
