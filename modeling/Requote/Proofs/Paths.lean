import Requote.Command
import Requote.Proofs.Shape
import Requote.Proofs.Splicing

/-!
# The lists of a tree of targets

Every list of targets in the tree of a document, at any depth, has the same shape. A path names such
a list by the groups that lead to it. The shape is carried down a path from the chain that the
targets of the whole document form: each group on the way gives the chain of the targets inside it.

The bodies of a document, with the text between them, are the whole source text.
-/

namespace Requote

namespace Target

variable {size start stop : Nat} {closed : Group → List Target → Body → Prop}
  {ts ts' inside : List Target} {path : List Nat} {g : Group} {b : Body} {l : Link}

/-! ### Paths -/

/-- Where the targets at the end of a path have to lie: in the last group on the path. -/
def room (outer : Span) (targets : List Target) : List Nat → Span
  | []         => outer
  | i :: steps =>
    match targets[i]? with
    | some (group g inside) => room g.span inside steps
    | _                     => outer

/-- Whether the text ends inside every group on a path: each is the last target of its list, and
goes up to the end of the text. -/
def CutAlong (size : Nat) (targets : List Target) : List Nat → Prop
  | []         => True
  | i :: steps =>
    match targets[i]? with
    | some (group g inside) =>
      i + 1 = targets.length ∧ g.span.stop = size ∧ CutAlong size inside steps
    | _                     => False

/-- A path goes into a group first, or ends at once. -/
lemma inside?_cons {i : Nat} (h : inside? ts (i :: path) = some ts') :
    ∃ g inside, ts[i]? = some (.group g inside) ∧ inside? inside path = some ts' := by
  simp only [inside?] at h
  split at h
  · rename_i g inside hg
    exact ⟨g, inside, hg, h⟩
  · simp at h

lemma mem_bodiesOf_of_getElem? {i : Nat} (hg : ts[i]? = some (.group g inside))
    (hb : b ∈ bodiesOf inside) : b ∈ bodiesOf ts := by
  obtain ⟨before, after, rfl⟩ := List.append_of_mem (List.mem_of_getElem? hg)
  simp [bodiesOf, bodies, hb]

/-- The bodies of a list in the tree are bodies of the tree. -/
lemma mem_bodiesOf_of_inside? (h : inside? ts path = some ts') (hb : .body b ∈ ts') :
    b ∈ bodiesOf ts := by
  induction path generalizing ts with
  | nil =>
    obtain rfl : ts = ts' := by simpa [inside?] using h
    obtain ⟨before, after, rfl⟩ := List.append_of_mem hb
    simp [bodiesOf, bodies]
  | cons i path ih =>
    obtain ⟨g, inside, hg, hin⟩ := inside?_cons h
    exact mem_bodiesOf_of_getElem? hg (ih hin)

/-- The targets at the end of a path form a chain, in the room that the path leaves. If the text
ends inside one of them, it ends inside all groups on the path. -/
lemma Chain.inside? (outer : Span) (h : Chain size closed start ts stop l) (hl : l ≠ .opened)
    (hstart : outer.start ≤ start) (hstop : stop ≤ outer.stop) (hts : inside? ts path = some ts') :
    ∃ start' stop' l', Chain size closed start' ts' stop' l' ∧ l' ≠ .opened ∧
      (room outer ts path).start ≤ start' ∧ stop' ≤ (room outer ts path).stop ∧
      (l' = .cut → l = .cut ∧ CutAlong size ts path) := by
  induction path generalizing ts start stop l outer with
  | nil =>
    obtain rfl : ts = ts' := by simpa [Target.inside?] using hts
    exact ⟨start, stop, l, h, hl, hstart, hstop, fun hcut => ⟨hcut, trivial⟩⟩
  | cons i path ih =>
    obtain ⟨g, inside, hg, hin⟩ := inside?_cons hts
    obtain ⟨-, -, stop₁, l₁, hchain, hl₁, hle, hcut₁⟩ := h.of_group hg
    obtain ⟨start', stop', l', hchain', hl', hstart', hstop', hcut'⟩ :=
      ih g.span hchain hl₁ (Nat.le_refl _) hle hin
    refine ⟨start', stop', l', hchain', hl', ?_, ?_, ?_⟩
    · simpa only [room, hg] using hstart'
    · simpa only [room, hg] using hstop'
    · intro hcut
      obtain ⟨hl₁', halong⟩ := hcut' hcut
      obtain ⟨hl', hlast, hsize⟩ := hcut₁ hl₁'
      exact ⟨hl', by simpa only [CutAlong, hg] using ⟨hlast, hsize, halong⟩⟩

end Target

/-! ### The body under a cursor -/

namespace Place

variable {offset : Nat} {p : Place}

@[simp] lemma targets_push (a : Target) (p : Place) : (p.push a).targets = a :: p.targets := rfl

/-- A body is found in the list that is searched. -/
lemma targets_of_bodyAt? {ts : List Target} (h : bodyAt? offset ts = some p) : p.targets = ts := by
  fun_induction bodyAt? offset ts generalizing p with
  | case1 => simp at h
  | case2 b ts _ =>
    obtain rfl := Option.some.inj h
    rfl
  | case3 b ts _ ih | case4 g inside ts ih =>
    obtain ⟨p', hp', rfl⟩ := Option.map_eq_some_iff.mp h
    rw [targets_push, ih hp']

mutual

/-- What is found inside a group stands in a list at the end of a path. -/
lemma exists_path_of_insideGroup? {a : Target} {p : Place} (h : insideGroup? offset a = some p) :
    ∃ g inside path, a = .group g inside ∧ Target.inside? inside path = some p.targets := by
  match a with
  | .body b => simp [insideGroup?] at h
  | .group g inside =>
    simp only [insideGroup?] at h
    split at h
    · rcases Option.or_eq_some_iff.mp h with h | ⟨-, h⟩
      · obtain ⟨i, path, hpath⟩ := exists_path_of_insideGroups? h
        exact ⟨g, inside, i :: path, rfl, hpath⟩
      · exact ⟨g, inside, [], rfl, by rw [Target.inside?, targets_of_bodyAt? h]⟩
    · simp at h

lemma exists_path_of_insideGroups? {ts : List Target} {p : Place}
    (h : insideGroups? offset ts = some p) :
    ∃ i path, Target.inside? ts (i :: path) = some p.targets := by
  match ts with
  | [] => simp [insideGroups?] at h
  | a :: ts =>
    rw [insideGroups?] at h
    rcases Option.or_eq_some_iff.mp h with h | ⟨-, h⟩
    · obtain ⟨g, inside, path, rfl, hpath⟩ := exists_path_of_insideGroup? h
      exact ⟨0, path, by simpa [Target.inside?] using hpath⟩
    · obtain ⟨i, path, hpath⟩ := exists_path_of_insideGroups? h
      exact ⟨i + 1, path, by simpa [Target.inside?] using hpath⟩

end

/-- The body under a cursor stands in a list of the tree. -/
lemma exists_path_of_find? {ts : List Target} (h : find? offset ts = some p) :
    ∃ path, Target.inside? ts path = some p.targets := by
  rcases Option.or_eq_some_iff.mp h with h | ⟨-, h⟩
  · obtain ⟨i, path, hpath⟩ := exists_path_of_insideGroups? h
    exact ⟨i :: path, hpath⟩
  · exact ⟨[], by rw [Target.inside?, targets_of_bodyAt? h]⟩

lemma mem_bodiesOf_of_find? {ts : List Target} (h : find? offset ts = some p) :
    p.body ∈ Target.bodiesOf ts := by
  obtain ⟨path, hpath⟩ := exists_path_of_find? h
  exact Target.mem_bodiesOf_of_inside? hpath (by simp [targets])

end Place

/-- A command only converts a string that is under the cursor. -/
lemma Command.find?_of_placeAt {source : Text} {document : Document} {offset : Nat} {place : Place}
    (h : placeAt source document offset = .ok place) :
    Place.find? offset document.targets = some place := by
  simp only [placeAt] at h
  split at h
  · rename_i hfind
    rw [hfind, Except.ok.inj h]
  · split at h <;> exact absurd h (by simp)

/-! ### The shape of every list -/

namespace Body

lemma closing?_eq_iff (b : Body) : b.delimiters.closing? = some ['$', '{'] ↔ b.isLast = false := by
  rcases b with ⟨⟨q, _ | _⟩ | ⟨o, _ | _ | _⟩, t, s⟩ <;>
    simp [Delimiters.closing?, isLast, Delimiters.isLast, Closing.text]

lemma opening_eq_iff (b : Body) : b.delimiters.opening = ['}'] ↔ b.isFirst = false := by
  rcases b with ⟨⟨_ | _, e⟩ | ⟨_ | _, e⟩, t, s⟩ <;>
    simp [Delimiters.opening, isFirst, Delimiters.isFirst, Opening.text, Quote.char]

end Body

namespace Target

variable {size start stop i : Nat} {closed : Group → List Target → Body → Prop}
  {ts inside : List Target} {g : Group} {b : Body} {l : Link} {a a' : Target}

lemma delimiters_of_isLast_eq_false (hb : b.isLast = false) :
    ∃ o, b.delimiters = .template o (some .interpolation) := by
  obtain ⟨_ | ⟨o, _ | _ | _⟩, t, s⟩ := b <;> simp_all [Body.isLast, Delimiters.isLast]

lemma Chain.adjacent (h : Chain size closed start ts stop l) (ha : ts[i]? = some a)
    (ha' : ts[i + 1]? = some a') : Adjacent a a' := by
  obtain ⟨hi, rfl⟩ := List.getElem?_eq_some_iff.mp ha
  obtain ⟨hi', rfl⟩ := List.getElem?_eq_some_iff.mp ha'
  exact List.isChain_iff_getElem.mp h.isChain i hi'

lemma Chain.ends_of_getElem? (h : Chain size closed start ts stop l) (ha : ts[i]? = some a)
    (hnext : ts[i + 1]? = none) : i + 1 = ts.length ∧ Ends size stop a l := by
  obtain ⟨hi, -⟩ := List.getElem?_eq_some_iff.mp ha
  have hlength : i + 1 = ts.length := Nat.le_antisymm hi (List.getElem?_eq_none_iff.mp hnext)
  refine ⟨hlength, h.ends a ?_⟩
  rw [List.getLast?_eq_getElem?, ← hlength]
  exact ha

/-- The targets of a list stand in order. -/
lemma Chain.le_of_getElem? {j : Nat} (h : Chain size closed start ts stop l) (ha : ts[i]? = some a)
    (ha' : ts[j]? = some a') (hij : i < j) : a.span.stop ≤ a'.span.start := by
  obtain ⟨hi, rfl⟩ := List.getElem?_eq_some_iff.mp ha
  obtain ⟨hj, rfl⟩ := List.getElem?_eq_some_iff.mp ha'
  exact List.pairwise_iff_getElem.mp h.inOrder.1 i j hi hj hij

/-- The group of an interpolation follows the body that opens it. -/
lemma Chain.next_of_body (h : Chain size closed start ts stop l) (hl : l ≠ .opened)
    (hb : ts[i]? = some (.body b)) :
    (b.isLast = false ↔ ∃ g inside, ts[i + 1]? = some (.group g inside)) ∧
      ∀ g inside, ts[i + 1]? = some (.group g inside) → g.span.start = b.span.stop := by
  match hnext : ts[i + 1]? with
  | none =>
    obtain ⟨-, hends⟩ := h.ends_of_getElem? hb hnext
    match l, hends with
    | .free, hlast => simp [show b.isLast = true from hlast]
    | .opened, _ => exact absurd rfl hl
  | some (.body b') =>
    obtain ⟨hlast, -⟩ := h.adjacent hb hnext
    simp [hlast]
  | some (.group g inside) =>
    obtain ⟨hlast, hstart⟩ := h.adjacent hb hnext
    refine ⟨by simp [hlast], ?_⟩
    intro g' inside' heq
    obtain ⟨rfl, rfl⟩ : g = g' ∧ inside = inside' := by simpa using heq
    exact hstart

/-- The group of an interpolation stands in front of the body that resumes the template. -/
lemma Chain.previous_of_body (h : Chain size closed start ts stop l)
    (hb : ts[i]? = some (.body b)) :
    (b.isFirst = false ↔ ∃ j g inside, i = j + 1 ∧ ts[j]? = some (.group g inside)) ∧
      ∀ j g inside, i = j + 1 → ts[j]? = some (.group g inside) → g.span.stop = b.span.start := by
  cases i with
  | zero =>
    have hfirst := h.head?_isFirst (.body b) (by rw [List.head?_eq_getElem?]; exact hb)
    simp [show b.isFirst = true from hfirst]
  | succ j =>
    have hj : j < ts.length := by
      have := (List.getElem?_eq_some_iff.mp hb).1
      omega
    match hprev : ts[j]? with
    | none => simp [hj] at hprev
    | some (.body b') =>
      obtain ⟨-, hfirst⟩ := h.adjacent hprev hb
      refine ⟨by simp [hfirst, hprev], ?_⟩
      intro j' g inside hj' heq
      obtain rfl : j = j' := by omega
      simp [hprev] at heq
    | some (.group g inside) =>
      obtain ⟨hfirst, hstart⟩ := h.adjacent hprev hb
      refine ⟨by simp [hfirst, hprev], ?_⟩
      intro j' g' inside' hj' heq
      obtain rfl : j = j' := by omega
      obtain ⟨rfl, rfl⟩ : g = g' ∧ inside = inside' := by simpa [hprev] using heq
      exact hstart.symm

/-- A group stands behind the body that opens the interpolation. -/
lemma Chain.previous_of_group (h : Chain size closed start ts stop l)
    (hg : ts[i]? = some (.group g inside)) :
    ∃ j b, i = j + 1 ∧ ts[j]? = some (.body b) ∧ b.isLast = false ∧ g.span.start = b.span.stop := by
  cases i with
  | zero =>
    have hfirst := h.head?_isFirst (.group g inside) (by rw [List.head?_eq_getElem?]; exact hg)
    simp [Place.isFirst, body?] at hfirst
  | succ j =>
    have hj : j < ts.length := by
      have := (List.getElem?_eq_some_iff.mp hg).1
      omega
    have hprev : ts[j]? = some ts[j] := List.getElem?_eq_getElem hj
    have hadjacent := h.adjacent hprev hg
    cases hb : ts[j] with
    | body b =>
      rw [hb] at hprev hadjacent
      exact ⟨j, b, rfl, hprev, hadjacent⟩
    | group g' inside' =>
      rw [hb] at hadjacent
      exact absurd hadjacent id

/-- Two groups of one list do not touch, since a body stands between them. -/
lemma Chain.stop_lt_start_of_groups {g' : Group} {inside' : List Target} {j : Nat}
    (h : Chain size closed start ts stop l) (hlt : ∀ b, .body b ∈ ts → b.span.start < b.span.stop)
    (hg : ts[i]? = some (.group g inside)) (hg' : ts[j]? = some (.group g' inside')) (hij : i < j) :
    g.span.stop < g'.span.start := by
  obtain ⟨k, b, rfl, hb, -, hstart⟩ := h.previous_of_group hg'
  have hik : i < k := by
    refine Nat.lt_of_le_of_ne (Nat.le_of_lt_succ hij) ?_
    rintro rfl
    simp [hg] at hb
  have hle := h.le_of_getElem? hg hb hik
  simp only [span] at hle
  have := hlt b (List.mem_of_getElem? hb)
  omega

/-- A group that no body follows is the last target, and the text ends in it. -/
lemma Chain.cut_of_group (h : Chain size closed start ts stop l)
    (hg : ts[i]? = some (.group g inside)) (hnext : ∀ b, ts[i + 1]? ≠ some (.body b)) :
    i + 1 = ts.length ∧ g.span.stop = size ∧ l = .cut := by
  match hnext' : ts[i + 1]? with
  | none =>
    obtain ⟨hlast, hends⟩ := h.ends_of_getElem? hg hnext'
    match l, hends with
    | .cut, hsize => exact ⟨hlast, hsize, rfl⟩
  | some (.body b) => exact absurd hnext' (hnext b)
  | some (.group g' inside') => exact absurd (h.adjacent hg hnext') id

/-- The shape of a list of targets at the end of a path in the tree of a source text. -/
structure Shape (source : Text) (root : List Target) (path : List Nat) (ts : List Target) :
    Prop where
  /-- The targets stand in the order of the source text and do not overlap. -/
  ordered : ts.Pairwise fun a b => a.span.stop ≤ b.span.start
  /-- They lie inside the group around them, or just in the source text. -/
  within : ∀ a ∈ ts, (room ⟨0, source.size⟩ root path).start ≤ a.span.start ∧
    a.span.start ≤ a.span.stop ∧ a.span.stop ≤ (room ⟨0, source.size⟩ root path).stop
  /-- A body opens an interpolation exactly if a group is next, which then starts where it stops. -/
  opens : ∀ i b, ts[i]? = some (.body b) →
    (b.delimiters.closing? = some ['$', '{'] ↔ ∃ g inside, ts[i + 1]? = some (.group g inside)) ∧
      ∀ g inside, ts[i + 1]? = some (.group g inside) → g.span.start = b.span.stop
  /-- A body ends an interpolation exactly if a group is in front, which then stops where it
  starts. -/
  resumes : ∀ i b, ts[i]? = some (.body b) →
    (b.delimiters.opening = ['}'] ↔ ∃ j g inside, i = j + 1 ∧ ts[j]? = some (.group g inside)) ∧
      ∀ j g inside, i = j + 1 → ts[j]? = some (.group g inside) → g.span.stop = b.span.start
  /-- A group that no body follows is cut off by the end of the text, with all groups around it. -/
  cutOff : ∀ i g inside, ts[i]? = some (.group g inside) → (∀ b, ts[i + 1]? ≠ some (.body b)) →
    i + 1 = ts.length ∧ g.span.stop = source.size ∧ CutAlong source.size root path
  /-- A body stands in the source text as it was read. -/
  texts : ∀ b, .body b ∈ ts → source.slice? b.span.start b.span.stop
    = some (b.delimiters.opening ++ b.text ++ b.delimiters.closing)

end Target

/-! ### The bodies of a document -/

namespace Document

variable {source : Text} {b : Body}

/-- The targets of every list of a document form a chain. -/
lemma exists_chain_of_inside? {path : List Nat} {ts : List Target}
    (hts : Target.inside? (read source).targets path = some ts) :
    ∃ start stop l, Target.Chain source.size (Closes source) start ts stop l ∧ l ≠ .opened := by
  obtain ⟨stop, l, hroot, hl, hle⟩ := chain_read source
  obtain ⟨start', stop', l', hchain, hl', -⟩ :=
    hroot.inside? ⟨0, source.size⟩ hl (Nat.le_refl _) hle hts
  exact ⟨start', stop', l', hchain, hl'⟩

/-- Every body of a document was read from a token, in some state on the way. -/
lemma exists_reads_of_mem_bodiesOf_read (hb : b ∈ Target.bodiesOf (read source).targets) :
    ∃ ys r after zs, Reader.Reads {} source ys r (b.delimiters.wrap b.text ++ after) ∧
      r.offset = (Token.textOf ys).size ∧
      b.span = ⟨r.offset, r.offset + (b.delimiters.wrap b.text).size⟩ ∧
      Token.next? r.previous r.resumes (b.delimiters.wrap b.text ++ after)
        = some (.body b.delimiters b.text, after) ∧
      Reader.Reads (r.step (.body b.delimiters b.text)) after zs (Reader.run {} source) [] := by
  rw [bodiesOf_read] at hb
  obtain ⟨xs, h⟩ := Reader.exists_reads {} source
  rcases h.mem_found hb with hb | ⟨ys, r, u, after, zs, hys, hx, hspan, hzs⟩
  · simp [Reader.found, Target.bodiesOf] at hb
  · obtain rfl : b.delimiters.wrap b.text ++ after = u := (Token.next?_eq_some hx).1
    exact ⟨ys, r, after, zs, hys, by simpa using hys.offset_eq, hspan, hx, hzs⟩

/-- Every body of a document is a piece of the source text, at its span. -/
lemma split_of_mem_bodiesOf_read (hb : b ∈ Target.bodiesOf (read source).targets) :
    ∃ before after, source = before ++ (b.delimiters.wrap b.text ++ after) ∧
      b.span = ⟨before.size, before.size + (b.delimiters.wrap b.text).size⟩ := by
  obtain ⟨ys, r, after, zs, hys, hoffset, hspan, -, -⟩ := exists_reads_of_mem_bodiesOf_read hb
  exact ⟨Token.textOf ys, after, hys.text_append.symm, by rw [hspan, hoffset]⟩

/-- The bodies of a document stand in source order, and none is empty. -/
lemma ordered_bodiesOf_read (source : Text) :
    (Target.bodiesOf (read source).targets).Pairwise (fun a b => a.span.stop ≤ b.span.start) ∧
      ∀ b ∈ Target.bodiesOf (read source).targets, b.span.start < b.span.stop := by
  obtain ⟨xs, h⟩ := Reader.exists_reads {} source
  obtain ⟨hpair, hlt⟩ := h.ordered (by simp [Reader.Ordered, Reader.found, Target.bodiesOf])
  rw [bodiesOf_read]
  exact ⟨hpair, fun b hb => (hlt b hb).1⟩

lemma nodup_bodiesOf_read (source : Text) : (Target.bodiesOf (read source).targets).Nodup := by
  obtain ⟨hpair, hlt⟩ := ordered_bodiesOf_read source
  refine hpair.imp_of_mem ?_
  rintro a b ha - hab rfl
  have := hlt a ha
  omega

/-- Two bodies of a document do not overlap. -/
lemma disjoint_of_ne {b' : Body} (hb : b ∈ Target.bodiesOf (read source).targets)
    (hb' : b' ∈ Target.bodiesOf (read source).targets) (hne : b ≠ b') :
    b.span.stop ≤ b'.span.start ∨ b'.span.stop ≤ b.span.start := by
  have hsymm : Std.Symm fun b b' : Body =>
      b.span.stop ≤ b'.span.start ∨ b'.span.stop ≤ b.span.start := ⟨fun _ _ => Or.symm⟩
  have hpair : (Target.bodiesOf (read source).targets).Pairwise fun b b' =>
      b.span.stop ≤ b'.span.start ∨ b'.span.stop ≤ b.span.start :=
    (ordered_bodiesOf_read source).1.imp .inl
  exact hpair.forall hb hb' hne

/-- The source text again: bodies with their delimiters, and the text in front of each of them. -/
def rebuild? (source : Text) (offset : Nat) : List Body → Option Text
  | []      => source.slice? offset source.size
  | b :: bs => do
    let between ← source.slice? offset b.span.start
    let rest ← rebuild? source b.span.stop bs
    return between ++ b.delimiters.wrap b.text ++ rest

/-- Bodies that stand in order behind a place rebuild the text from there on. -/
lemma rebuild?_eq_some {bs : List Body} (front back : Text)
    (hpair : bs.Pairwise fun a b => a.span.stop ≤ b.span.start)
    (hle : ∀ b ∈ bs, front.size ≤ b.span.start)
    (hsplit : ∀ b ∈ bs, ∃ before after,
      front ++ back = before ++ (b.delimiters.wrap b.text ++ after) ∧
      b.span = ⟨before.size, before.size + (b.delimiters.wrap b.text).size⟩) :
    rebuild? (front ++ back) front.size bs = some back := by
  induction bs generalizing front back with
  | nil => simpa [rebuild?] using Text.slice?_append front back []
  | cons b bs ih =>
    obtain ⟨before, after, heq, hspan⟩ := hsplit b (by simp)
    have hfront : front.size ≤ before.size := by simpa [hspan] using hle b (by simp)
    obtain ⟨between, rfl, rfl⟩ := Text.append_eq_append_of_size_le heq hfront
    have hslice : (front ++ (between ++ (b.delimiters.wrap b.text ++ after))).slice? front.size
        b.span.start = some between := by
      rw [hspan, Text.size_append]
      exact Text.slice?_append _ _ _
    have hrest := ih (front ++ between ++ b.delimiters.wrap b.text) after
      (List.pairwise_cons.mp hpair).2
      (by
        intro b' hb'
        have := (List.pairwise_cons.mp hpair).1 b' hb'
        simpa [hspan, Nat.add_assoc] using this)
      (by
        intro b' hb'
        obtain ⟨before', after', heq', hspan'⟩ := hsplit b' (by simp [hb'])
        exact ⟨before', after', by simpa using heq', hspan'⟩)
    have hstop : (front ++ between ++ b.delimiters.wrap b.text).size = b.span.stop := by
      rw [hspan, Text.size_append]
    rw [hstop, List.append_assoc, List.append_assoc] at hrest
    simp [rebuild?, hslice, hrest]

/-- Every list of targets of a document, at any depth, is in shape, and the bodies of the document
with the text between them are the source text. -/
theorem shape_read (source : Text) :
    (∀ path ts, Target.inside? (read source).targets path = some ts →
        Target.Shape source (read source).targets path ts) ∧
      rebuild? source 0 (Target.bodiesOf (read source).targets) = some source := by
  constructor
  · intro path ts hts
    obtain ⟨stop, l, hroot, hl, hle⟩ := chain_read source
    obtain ⟨start', stop', l', hchain, hl', hstart', hstop', hcut⟩ :=
      hroot.inside? ⟨0, source.size⟩ hl (Nat.le_refl _) hle hts
    obtain ⟨hordered, hwithin⟩ := hchain.inOrder
    refine ⟨hordered, ?_, ?_, ?_, ?_, ?_⟩
    · intro a ha
      have := hwithin a ha
      omega
    · intro i b hb
      rw [Body.closing?_eq_iff]
      exact hchain.next_of_body hl' hb
    · intro i b hb
      rw [Body.opening_eq_iff]
      exact hchain.previous_of_body hb
    · intro i g inside hg hnext
      obtain ⟨hlast, hsize, hl'⟩ := hchain.cut_of_group hg hnext
      exact ⟨hlast, hsize, (hcut hl').2⟩
    · intro b hb
      obtain ⟨before, after, heq, hspan⟩ :=
        split_of_mem_bodiesOf_read (Target.mem_bodiesOf_of_inside? hts hb)
      have hslice := Text.slice?_append before (b.delimiters.wrap b.text) after
      rw [← heq] at hslice
      rw [hspan]
      exact hslice
  · have hrebuild := rebuild?_eq_some [] source (ordered_bodiesOf_read source).1
      (fun b _ => Nat.zero_le _) (fun b hb => split_of_mem_bodiesOf_read hb)
    exact hrebuild

/-- A text that ends in an interpolation of an interpolation. -/
theorem shape_read_nested :
    Target.inside? (read "\x60a$\x7b\x60b$\x7bc".toList).targets [1]
        = some [.body ⟨.template .backtick (some .interpolation), ['b'], ⟨4, 8⟩⟩,
          .group ⟨false, ⟨8, 8⟩, ⟨9, 9⟩, ⟨8, 9⟩⟩ []] ∧
      Target.Shape "\x60a$\x7b\x60b$\x7bc".toList (read "\x60a$\x7b\x60b$\x7bc".toList).targets [1]
        [.body ⟨.template .backtick (some .interpolation), ['b'], ⟨4, 8⟩⟩,
          .group ⟨false, ⟨8, 8⟩, ⟨9, 9⟩, ⟨8, 9⟩⟩ []] := by
  have h : Target.inside? (read "\x60a$\x7b\x60b$\x7bc".toList).targets [1]
      = some [.body ⟨.template .backtick (some .interpolation), ['b'], ⟨4, 8⟩⟩,
        .group ⟨false, ⟨8, 8⟩, ⟨9, 9⟩, ⟨8, 9⟩⟩ []] := by
    cbv
  exact ⟨h, (shape_read _).1 _ _ h⟩

end Document

end Requote
