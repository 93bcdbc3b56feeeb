import Requote.Proofs.Outcomes

/-!
# Which targets are flattened

Targets are checked one by one before they are flattened: bodies and groups come in turn, the first
body opens a literal, the last one closes it, and those between do neither. No two of them are
compared. So the pieces of several literals pass if they are put together in the right way, and one
piece passes any number of times.

Where the targets stand would tell. They are a literal of the source text exactly if each of them
ends where the next one starts.
-/

namespace Requote

/-! ### Complete literals -/

namespace Target

/-- Bodies and groups in turn, from a body with some opening to one that a backtick closes. -/
inductive Completes : Opening → List Target → Prop where
  | last {o : Opening} {b : Body} (hb : b.delimiters = .template o (some .backtick)) :
      Completes o [.body b]
  | next {o : Opening} {b : Body} {g : Group} {inside ts : List Target}
      (hb : b.delimiters = .template o (some .interpolation)) (h : Completes .brace ts) :
      Completes o (.body b :: .group g inside :: ts)

/-- Whether a target ends where another one starts. -/
def Meets (a b : Target) : Prop :=
  a.span.stop = b.span.start

variable {o : Opening} {b : Body} {ts : List Target}

lemma Completes.length_mod_two (h : Completes o ts) : ts.length % 2 = 1 := by
  induction h with
  | last => rfl
  | next _ _ ih =>
    simp only [List.length_cons]
    omega

/-- A complete literal starts with a body. -/
lemma Completes.exists_body (h : Completes o ts) :
    ∃ b e rest, ts = .body b :: rest ∧ b.delimiters = .template o e := by
  cases h with
  | last hb | next hb => exact ⟨_, _, _, rfl, hb⟩

end Target

namespace Concatenation

open Target (Completes isBlankGroup)

variable {o : Opening} {b : Body} {g : Group} {inside ts : List Target}
  {first last : Bool} {q : Quote}

/-! ### What is accepted -/

lemma isPiece_iff : isPiece b first last = true ↔ b.delimiters = .ofKind .template first last := by
  obtain ⟨_ | ⟨_ | _, _ | _ | _⟩, t, s⟩ := b <;> cases first <;> cases last <;>
    simp [isPiece, Body.kind, Delimiters.kind, Kind.isTemplate, Body.isFirst, Delimiters.isFirst,
      Body.isLast, Delimiters.isLast, Body.isTerminated, Delimiters.isTerminated,
      Delimiters.closing?, Delimiters.ofKind]

/-- The bodies of a complete literal are pieces of it. -/
lemma isPiece_of_completes (first : Bool)
    (h : Completes (if first then .backtick else .brace) (.body b :: ts)) :
    isPiece b first ts.isEmpty = true := by
  rw [isPiece_iff]
  cases h with
  | last hb | next hb => exact hb

lemma exists_readTail_cons_iff :
    (∃ tail, readTail (.group g inside :: .body b :: ts) = .ok tail) ↔
      isBlankGroup g inside = false ∧ isPiece b false ts.isEmpty = true ∧
        ∃ tail, readTail ts = .ok tail := by
  cases hblank : isBlankGroup g inside <;> cases hpiece : isPiece b false ts.isEmpty <;>
    cases htail : readTail ts <;>
      simp [readTail, hblank, hpiece, htail, bind, Except.bind, pure, Except.pure, throw, throwThe,
        MonadExceptOf.throw]

/-- What is accepted behind a body completes the literal. -/
lemma completes_of_readTail (first : Bool) (b : Body) (ts : List Target)
    (hpiece : isPiece b first ts.isEmpty = true) (h : ∃ tail, readTail ts = .ok tail) :
    Completes (if first then .backtick else .brace) (.body b :: ts) := by
  have hb := isPiece_iff.mp hpiece
  match ts with
  | [] => exact .last hb
  | .body b' :: ts =>
    obtain ⟨tail, h⟩ := h
    simp [readTail, throw, throwThe, MonadExceptOf.throw] at h
  | [.group g inside] | .group g inside :: .group g' inside' :: ts =>
    obtain ⟨tail, h⟩ := h
    simp only [readTail] at h
    split at h <;> simp [throw, throwThe, MonadExceptOf.throw] at h
  | .group g inside :: .body b' :: ts =>
    obtain ⟨hpiece', h'⟩ := (exists_readTail_cons_iff.mp h).2
    exact .next hb (completes_of_readTail false b' ts hpiece' h')

lemma completes_of_edits {es : List Edit} (h : edits ts (.normal q) = .ok es) :
    Completes .backtick ts := by
  match ts with
  | [] => simp [edits, readFragments, bind, Except.bind, throw, throwThe, MonadExceptOf.throw] at h
  | .group g inside :: ts =>
    by_cases hlength : (ts.length + 1) % 2 = 0 <;>
      simp [edits, readFragments, hlength, bind, Except.bind, throw, throwThe,
        MonadExceptOf.throw] at h
  | .body b :: ts =>
    by_cases hlength : (ts.length + 1) % 2 = 0 <;> cases hpiece : isPiece b true ts.isEmpty <;>
      cases htail : readTail ts <;>
        simp [edits, readFragments, hlength, hpiece, htail, bind, Except.bind, pure, Except.pure,
          throw, throwThe, MonadExceptOf.throw] at h
    exact completes_of_readTail true b ts hpiece ⟨_, htail⟩

/-- Nothing but a blank group can be wrong with a complete literal. -/
lemma readTail_of_completes (h : Completes o ts) :
    ((∀ g inside, .group g inside ∈ ts → isBlankGroup g inside = false) ∧
        ∃ tail, readTail ts.tail = .ok tail) ∨
      (∃ g inside, .group g inside ∈ ts ∧ isBlankGroup g inside = true) ∧
        ∃ start, readTail ts.tail = .error (.emptyInterpolation start) := by
  induction h with
  | last => exact .inl ⟨by simp, [], rfl⟩
  | @next o b g inside ts _ h ih =>
    obtain ⟨b', e, rest, rfl, -⟩ := h.exists_body
    have hpiece := isPiece_of_completes false h
    rw [List.tail_cons] at ih ⊢
    cases hblank : isBlankGroup g inside with
    | true =>
      refine .inr ⟨⟨g, inside, by simp, hblank⟩, g.span.start, ?_⟩
      simp [readTail, hblank, throw, throwThe, MonadExceptOf.throw, bind, Except.bind]
    | false =>
      have hread : readTail (.group g inside :: .body b' :: rest)
          = (readTail rest).map ((g, b') :: ·) := by
        cases htail : readTail rest <;>
          simp [readTail, hblank, hpiece, htail, bind, Except.bind, pure, Except.pure, Except.map]
      rw [hread]
      rcases ih with ⟨hnone, tail, htail⟩ | ⟨⟨g', inside', hg', hblank'⟩, start, htail⟩
      · refine .inl ⟨?_, (g, b') :: tail, by rw [htail]; rfl⟩
        intro g' inside' hg'
        rcases List.mem_append.mp (show _ ∈ [_, _] ++ _ from hg') with hg' | hg'
        · obtain ⟨rfl, rfl⟩ : g' = g ∧ inside' = inside := by simpa using hg'
          exact hblank
        · exact hnone g' inside' hg'
      · refine .inr ⟨⟨g', inside', ?_, hblank'⟩, start, by rw [htail]; rfl⟩
        exact List.mem_cons_of_mem _ (List.mem_cons_of_mem _ hg')

/-- A complete literal is flattened unless one of its groups is blank. -/
lemma edits_of_completes (h : Completes .backtick ts) (q : Quote) :
    ((∀ g inside, .group g inside ∈ ts → isBlankGroup g inside = false) ∧
        ∃ es, edits ts (.normal q) = .ok es) ∨
      (∃ g inside, .group g inside ∈ ts ∧ isBlankGroup g inside = true) ∧
        ∃ start, edits ts (.normal q) = .error (.emptyInterpolation start) := by
  have hlength := h.length_mod_two
  have htail := readTail_of_completes h
  obtain ⟨b, e, rest, rfl, -⟩ := h.exists_body
  have hpiece := isPiece_of_completes true h
  have hodd : (rest.length + 1) % 2 = 1 := hlength
  rcases htail with ⟨hnone, tail, htail⟩ | ⟨hblank, start, htail⟩
  · refine .inl ⟨hnone, editsFrom q none b tail, ?_⟩
    rw [List.tail_cons] at htail
    simp [edits, readFragments, hodd, hpiece, htail, bind, Except.bind, pure, Except.pure]
  · refine .inr ⟨hblank, start, ?_⟩
    rw [List.tail_cons] at htail
    simp [edits, readFragments, hodd, hpiece, htail, bind, Except.bind]

end Concatenation

/-! ### Complete literals that stand together -/

namespace Document

open Target (Completes Meets)

variable {source : Text} {path : List Nat} {ts inside : List Target}
  {b : Body} {g : Group} {i j : Nat}

/-- A group starts where a body that opens an interpolation ends exactly if it is next. -/
lemma meets_group_iff (hts : Target.inside? (read source).targets path = some ts)
    (hb : ts[i]? = some (.body b)) (hg : ts[j]? = some (.group g inside)) :
    Meets (.body b) (.group g inside) ↔ j = i + 1 := by
  obtain ⟨start, stop, l, hchain, -⟩ := exists_chain_of_inside? hts
  obtain ⟨i', b', rfl, hb', -, hstart⟩ := hchain.previous_of_group hg
  have hlt := (ordered_bodiesOf_read source).2 b
    (Target.mem_bodiesOf_of_inside? hts (List.mem_of_getElem? hb))
  have hlt' := (ordered_bodiesOf_read source).2 b'
    (Target.mem_bodiesOf_of_inside? hts (List.mem_of_getElem? hb'))
  constructor
  · intro hmeets
    have hstop : b.span.stop = b'.span.stop := hmeets.trans hstart
    -- of two bodies with the same end, none can stand in front of the other
    rcases Nat.lt_trichotomy i' i with hlt | rfl | hlt
    · have := hchain.le_of_getElem? hb' hb hlt
      simp only [Target.span] at this
      omega
    · rfl
    · have := hchain.le_of_getElem? hb hb' hlt
      simp only [Target.span] at this
      omega
  · intro heq
    obtain rfl : i' = i := by omega
    obtain rfl : b' = b := by simpa [hb] using hb'.symm
    exact hstart.symm

/-- A body that ends an interpolation starts where a group ends exactly if it is next. -/
lemma meets_body_iff (hts : Target.inside? (read source).targets path = some ts)
    (hg : ts[i]? = some (.group g inside)) (hb : ts[j]? = some (.body b))
    (hfirst : b.isFirst = false) :
    Meets (.group g inside) (.body b) ↔ j = i + 1 := by
  obtain ⟨start, stop, l, hchain, -⟩ := exists_chain_of_inside? hts
  obtain ⟨hprevious, hspan⟩ := hchain.previous_of_body hb
  obtain ⟨i', g', inside', rfl, hg'⟩ := hprevious.mp hfirst
  have hstart := hspan i' g' inside' rfl hg'
  have hlt : ∀ b, .body b ∈ ts → b.span.start < b.span.stop :=
    fun b hb => (ordered_bodiesOf_read source).2 b (Target.mem_bodiesOf_of_inside? hts hb)
  have hle : g.span.start ≤ g.span.stop := (hchain.inOrder.2 _ (List.mem_of_getElem? hg)).2.1
  have hle' : g'.span.start ≤ g'.span.stop := (hchain.inOrder.2 _ (List.mem_of_getElem? hg')).2.1
  constructor
  · intro hmeets
    have hstop : g.span.stop = g'.span.stop := hmeets.trans hstart.symm
    rcases Nat.lt_trichotomy i' i with hi | rfl | hi
    · have := hchain.stop_lt_start_of_groups hlt hg' hg hi
      omega
    · rfl
    · have := hchain.stop_lt_start_of_groups hlt hg hg' hi
      omega
  · intro heq
    obtain rfl : i' = i := by omega
    obtain ⟨rfl, rfl⟩ : g' = g ∧ inside' = inside := by simpa [hg] using hg'.symm
    exact hstart

/-- The targets of a complete literal meet exactly if they were picked in turn. -/
lemma isChain_meets_iff (hts : Target.inside? (read source).targets path = some ts) {o : Opening}
    (picks : List (Fin ts.length)) (h : Completes o (picks.map ts.get)) :
    (picks.map ts.get).IsChain Meets ↔ picks.IsChain fun i j => j.val = i.val + 1 := by
  match picks with
  | [] => simp
  | [i] => simp
  | [i, j] => exact absurd h.length_mod_two (by simp)
  | i :: j :: k :: picks =>
    have hget : ∀ {i : Fin ts.length} {a : Target}, ts.get i = a → ts[i.val]? = some a := by
      rintro i _ rfl
      simp
    generalize hl : (i :: j :: k :: picks).map ts.get = l at h
    cases h with
    | last => simp at hl
    | @next _ b g inside l hb h =>
      simp only [List.map_cons, List.cons.injEq] at hl
      obtain ⟨hi, hj, rfl⟩ := hl
      obtain ⟨b', e, rest, hrest, hb'⟩ := h.exists_body
      have hk : ts.get k = .body b' := (List.cons.inj hrest).1
      have hfirst : b'.isFirst = false := by simp [Body.isFirst, hb', Delimiters.isFirst]
      have ih := isChain_meets_iff hts (k :: picks) h
      simp only [List.map_cons, List.isChain_cons_cons] at ih ⊢
      rw [ih, hk, meets_group_iff hts (hget hi) (hget hj),
        meets_body_iff hts (hget hj) (hget hk) hfirst]

end Document

namespace Concatenation

open Target (Completes Meets isBlankGroup)

variable {source : Text} {path : List Nat} {ts : List Target}

/-- Targets picked from one list of a document are flattened exactly if they are a complete literal
without blank groups. Such a literal need not stand in the source text: it does, from the first pick
on, exactly if each target ends where the next one starts. -/
theorem exists_edits_iff_completes
    (hts : Target.inside? (Document.read source).targets path = some ts)
    (picks : List (Fin ts.length)) (q : Quote) :
    ((∃ es, edits (picks.map ts.get) (.normal q) = .ok es) ↔
        Completes .backtick (picks.map ts.get) ∧
          ∀ g inside, .group g inside ∈ picks.map ts.get → isBlankGroup g inside = false) ∧
      ∀ es, edits (picks.map ts.get) (.normal q) = .ok es →
        ((picks.IsChain fun i j => j.val = i.val + 1) ↔ (picks.map ts.get).IsChain Meets) := by
  refine ⟨?_, fun es hes => (Document.isChain_meets_iff hts picks (completes_of_edits hes)).symm⟩
  constructor
  · rintro ⟨es, hes⟩
    have h := completes_of_edits hes
    refine ⟨h, (edits_of_completes h q).elim And.left ?_⟩
    rintro ⟨-, start, hstart⟩
    simp [hes] at hstart
  · rintro ⟨h, hnone⟩
    refine (edits_of_completes h q).elim And.right ?_
    rintro ⟨⟨g, inside, hg, hblank⟩, -⟩
    simp [hnone g inside hg] at hblank

/-- A literal in the interpolation of another one, picked as it stands. -/
theorem exists_edits_iff_completes_nested :
    ∃ ts, Target.inside? (Document.read "`$\x7b`a$\x7bb\x7dc`\x7d`".toList).targets [1] = some ts ∧
      ∃ picks : List (Fin ts.length), picks.map Fin.val = [0, 1, 2] ∧
        ((∃ es, edits (picks.map ts.get) (.normal .single) = .ok es) ↔
          Completes .backtick (picks.map ts.get) ∧
            ∀ g inside, .group g inside ∈ picks.map ts.get → isBlankGroup g inside = false) ∧
        ∀ es, edits (picks.map ts.get) (.normal .single) = .ok es →
          ((picks.IsChain fun i j => j.val = i.val + 1) ↔ (picks.map ts.get).IsChain Meets) := by
  have h : Target.inside? (Document.read "`$\x7b`a$\x7bb\x7dc`\x7d`".toList).targets [1]
      = some [.body ⟨.template .backtick (some .interpolation), ['a'], ⟨3, 7⟩⟩,
        .group ⟨false, ⟨7, 7⟩, ⟨8, 8⟩, ⟨7, 8⟩⟩ [],
        .body ⟨.template .brace (some .backtick), ['c'], ⟨8, 11⟩⟩] := by
    cbv
  exact ⟨_, h, [⟨0, by decide⟩, ⟨1, by decide⟩, ⟨2, by decide⟩], rfl,
    exists_edits_iff_completes h _ .single⟩

/-- The first body of one literal, then the group of another, then the last body of the first: the
edits take away what stands between the two literals. -/
theorem exists_edits_of_mixture :
    ∃ ts,
      Target.inside? (Document.read "`a$\x7bb\x7dc`+`d$\x7be\x7df`".toList).targets [] = some ts ∧
      ∃ picks : List (Fin ts.length), picks.map Fin.val = [0, 4, 2] ∧
        edits (picks.map ts.get) (.normal .single)
          = .ok [⟨⟨0, 13⟩, "'a' + ".toList⟩, ⟨⟨14, 8⟩, " + 'c'".toList⟩] ∧
        ¬picks.IsChain fun i j => j.val = i.val + 1 := by
  have h : (Document.read "`a$\x7bb\x7dc`+`d$\x7be\x7df`".toList).targets
      = [.body ⟨.template .backtick (some .interpolation), ['a'], ⟨0, 4⟩⟩,
        .group ⟨false, ⟨4, 4⟩, ⟨5, 5⟩, ⟨4, 5⟩⟩ [],
        .body ⟨.template .brace (some .backtick), ['c'], ⟨5, 8⟩⟩,
        .body ⟨.template .backtick (some .interpolation), ['d'], ⟨9, 13⟩⟩,
        .group ⟨false, ⟨13, 13⟩, ⟨14, 14⟩, ⟨13, 14⟩⟩ [],
        .body ⟨.template .brace (some .backtick), ['f'], ⟨14, 17⟩⟩] := by
    cbv
  refine ⟨_, congrArg some h, [⟨0, by decide⟩, ⟨4, by decide⟩, ⟨2, by decide⟩], rfl, ?_, by decide⟩
  rfl

end Concatenation

end Requote
