import Mathlib
import Requote.Escape
import Requote.Token.Tiling

/-!
# Where a body ends

A body is a list of atoms, and the atoms tell where it ends. A quoted body that has a closing quote
is made of atoms that fit between two quotes, and atoms that fit are read up to the quote behind
them, whatever follows it. The same goes for a body of a template and its closing delimiter, where
no two neighbours run together into the start of an interpolation.
-/

namespace Requote

namespace Quote

variable {c : Char}

lemma char_ne (q : Quote) (hc : c ≠ '\'' ∧ c ≠ '"') : q.char ≠ c := by
  cases q with
  | single => exact hc.1.symm
  | double => exact hc.2.symm

lemma char_ne_other (q : Quote) : q.char ≠ q.other.char := by
  cases q <;> decide

lemma not_isTerminator_char (q : Quote) : Text.isTerminator q.char = false := by
  cases q <;> decide

end Quote

namespace Token

variable {q : Quote} {c : Char} {t : Text}

/-! ### One atom at a time -/

lemma readQuoted_plain (hslash : c ≠ '\\') (hquote : c ≠ q.char)
    (hend : Text.isTerminator c = false) :
    readQuoted q.char (c :: t) = (readQuoted q.char t).push [c] := by
  rw [readQuoted]
  · simp [hquote, hend]
  · intro t' h
    exact absurd h hslash
  · intro c' t' h
    exact absurd h hslash

lemma readQuoted_escape (h : c = '\r' → t.head? ≠ some '\n') :
    readQuoted q.char ('\\' :: c :: t) = (readQuoted q.char t).push ['\\', c] := by
  rw [readQuoted]
  rintro t' rfl rfl
  exact h rfl rfl

lemma readQuoted_close (q : Quote) (t : Text) :
    readQuoted q.char (q.char :: t) = ⟨[], true, t⟩ := by
  cases q <;> simp [readQuoted, Quote.char]

lemma readTemplate_plain (hslash : c ≠ '\\') (htick : c ≠ '\x60')
    (h : c = '$' → t.head? ≠ some '{') : readTemplate (c :: t) = (readTemplate t).push [c] := by
  rw [readTemplate]
  · intro t' h
    exact absurd h hslash
  · intro c' t' h
    exact absurd h hslash
  · exact htick
  · rintro t' rfl rfl
    exact h rfl rfl

/-- A line feed is nothing special in a template, so an escaped carriage return in front of it can
be read by itself. -/
lemma readTemplate_escape (c : Char) (t : Text) :
    readTemplate ('\\' :: c :: t) = (readTemplate t).push ['\\', c] := by
  by_cases h : ∃ t', c = '\r' ∧ t = '\n' :: t'
  · obtain ⟨t', rfl, rfl⟩ := h
    rw [readTemplate, readTemplate_plain (by decide) (by decide) (by simp)]
    rfl
  · rw [readTemplate]
    rintro t' rfl rfl
    exact h ⟨t', rfl, rfl⟩

lemma readTemplate_close (cl : Closing) (t : Text) :
    readTemplate (cl.text ++ t) = ⟨[], some cl, t⟩ := by
  cases cl <;> rfl

/-! ### What follows a closing delimiter does not matter -/

lemma Reading.push_eq_mk {ε : Type} {r : Reading ε} {before body rest : Text} {e : ε} :
    r.push before = ⟨body, e, rest⟩ ↔ ∃ b, body = before ++ b ∧ r = ⟨b, e, rest⟩ := by
  obtain ⟨b, e', rest'⟩ := r
  simp only [push, mk.injEq]
  constructor
  · rintro ⟨rfl, rfl, rfl⟩
    exact ⟨b, rfl, rfl, rfl, rfl⟩
  · rintro ⟨b', rfl, rfl, rfl, rfl⟩
    exact ⟨rfl, rfl, rfl⟩

lemma head?_append_append {a b : Text} (hb : b ≠ []) (t u : Text) :
    (a ++ (b ++ t)).head? = (a ++ (b ++ u)).head? := by
  match a, b with
  | [], [] => exact absurd rfl hb
  | [], d :: b => rfl
  | d :: a, b => rfl

/-- A quoted body ends at its quote or at a line terminator, whatever follows that character. -/
lemma readQuoted_stop {body rest w : Text} {e : Bool} {d : Char}
    (h : readQuoted q.char t = ⟨body, e, rest⟩) (ht : t = body ++ d :: w) (w' : Text) :
    readQuoted q.char (body ++ d :: w') = ⟨body, e, if e then w' else d :: w'⟩ := by
  fun_induction readQuoted q.char t generalizing body with
  | case1 => simp at ht
  | case2 t ih =>
    obtain ⟨b, rfl, hb⟩ := Reading.push_eq_mk.mp h
    simp [readQuoted, ih hb (by simpa using ht), Reading.push]
  | case3 c t hc ih =>
    obtain ⟨b, rfl, hb⟩ := Reading.push_eq_mk.mp h
    have ht' : t = b ++ d :: w := by simpa using ht
    simp only [List.cons_append, List.nil_append]
    rw [readQuoted_escape, ih hb ht']
    · rfl
    · rintro rfl hhead
      have : t.head? = some '\n' := by
        rw [ht', ← hhead]
        exact head?_append_append (b := [d]) (by simp) _ _
      obtain ⟨t', rfl⟩ := List.head?_eq_some_iff.1 this
      exact hc t' rfl rfl
  | case4 t =>
    simp only [Reading.mk.injEq] at h
    obtain ⟨rfl, rfl, rfl⟩ := h
    obtain ⟨rfl, -⟩ := List.cons.inj ht
    exact readQuoted_close q w'
  | case5 c t _ hc hquote hend =>
    simp only [Reading.mk.injEq] at h
    obtain ⟨rfl, rfl, rfl⟩ := h
    obtain ⟨rfl, -⟩ := List.cons.inj ht
    have hslash : c ≠ '\\' := by
      rintro rfl
      simp [Text.isTerminator] at hend
    rw [List.nil_append, readQuoted]
    · simp [hquote, hend]
    · intro t' h
      exact absurd h hslash
    · intro c' t' h
      exact absurd h hslash
  | case6 c t _ hc hquote hend ih =>
    obtain ⟨b, rfl, hb⟩ := Reading.push_eq_mk.mp h
    have ht' : t = b ++ d :: w := by simpa using ht
    -- a backslash that escapes nothing is the last character of the text
    have hslash : c ≠ '\\' := by
      rintro rfl
      cases t with
      | nil => simp at ht'
      | cons d t => exact hc d t rfl rfl
    simp only [List.cons_append, List.nil_append]
    rw [readQuoted_plain hslash hquote (by simpa using hend), ih hb ht']
    rfl

/-- A closed quoted body stays closed whatever follows it. -/
lemma readQuoted_closed {body rest : Text} (h : readQuoted q.char t = ⟨body, true, rest⟩)
    (rest' : Text) : readQuoted q.char (body ++ q.char :: rest') = ⟨body, true, rest'⟩ := by
  have happ := readQuoted_append q t
  rw [h] at happ
  exact readQuoted_stop h happ.symm rest'

/-- A quoted body that is cut off ends at the end of the text or in front of a line terminator. -/
lemma readQuoted_cut {body rest : Text} (h : readQuoted q.char t = ⟨body, false, rest⟩) :
    ∀ d ∈ rest.head?, Text.isTerminator d = true := by
  fun_induction readQuoted q.char t generalizing body with
  | case1 => simp_all
  | case2 t ih | case3 c t _ ih | case6 c t _ _ _ _ ih =>
    obtain ⟨b, -, hb⟩ := Reading.push_eq_mk.mp h
    exact ih hb
  | case4 t => simp at h
  | case5 c t _ _ _ hend =>
    simp only [Reading.mk.injEq] at h
    simp [← h.2.2, hend]

/-- A template body that is cut off goes on to the end of the text. -/
lemma readTemplate_cut {body rest : Text} (h : readTemplate t = ⟨body, none, rest⟩) :
    rest = [] := by
  fun_induction readTemplate t generalizing body with
  | case1 => simp_all
  | case2 t ih | case3 c t _ ih | case6 c t _ _ _ _ ih =>
    obtain ⟨b, -, hb⟩ := Reading.push_eq_mk.mp h
    exact ih hb
  | case4 t | case5 t => simp at h

end Token

/-! ### The atoms of a body -/

namespace Atom

variable {q : Quote} {c : Char} {t : Text} {a b : Atom} {as : List Atom}

lemma read_plain (hslash : c ≠ '\\') : read (c :: t) = plain c :: read t := by
  rw [read]
  · intro t' h
    exact absurd h hslash
  · intro c' t' h
    exact absurd h hslash
  · intro h
    exact absurd h hslash

lemma read_escape (h : c = '\r' → t.head? ≠ some '\n') :
    read ('\\' :: c :: t) = escape c :: read t := by
  rw [read]
  rintro t' rfl rfl
  exact h rfl rfl

/-- Induction along the atoms of a text. -/
@[elab_as_elim]
lemma read_induction {P : Text → Prop} (t : Text) (nil : P [])
    (returnFeed : ∀ t, P t → P ('\\' :: '\r' :: '\n' :: t))
    (escape : ∀ c t, (c = '\r' → t.head? ≠ some '\n') → P t → P ('\\' :: c :: t))
    (dangling : P ['\\']) (plain : ∀ c t, c ≠ '\\' → P t → P (c :: t)) : P t := by
  fun_induction read t with
  | case1 => exact nil
  | case2 t ih => exact returnFeed t ih
  | case3 c t hc ih =>
    refine escape c t ?_ ih
    rintro rfl hhead
    obtain ⟨t', rfl⟩ := List.head?_eq_some_iff.mp hhead
    exact hc t' rfl rfl
  | case4 => exact dangling
  | case5 c t _ hc hdangling ih =>
    refine plain c t ?_ ih
    rintro rfl
    cases t with
    | nil => exact hdangling rfl rfl
    | cons d t => exact hc d t rfl rfl

/-- A backslash is never an atom that stands for itself. -/
lemma ne_backslash_of_plain_mem_read (h : plain c ∈ read t) : c ≠ '\\' := by
  induction t using read_induction with
  | nil => simp [read] at h
  | returnFeed t ih => exact ih (by simpa [read] using h)
  | escape d t hd ih => exact ih (by simpa [read_escape hd] using h)
  | dangling => simp [read] at h
  | plain d t hd ih =>
    rw [read_plain hd, List.mem_cons, plain.injEq] at h
    rcases h with rfl | h
    · exact hd
    · exact ih h

lemma head?_read (t : Text) : ∀ a ∈ (read t).head?, a.text.head? = t.head? := by
  fun_cases read t <;> simp [text]

/-! ### Atoms that are read back -/

lemma spell_map_plain (t : Text) : spell (t.map plain) = t := by
  rw [spell, List.flatMap_map]
  exact List.flatMap_singleton' t

lemma spell_append (as bs : List Atom) : spell (as ++ bs) = spell as ++ spell bs :=
  List.flatMap_append

/-- Whether an atom can stand in front of another one: a backslash without anything to escape is the
last one, and a line feed belongs to an escaped carriage return in front of it. -/
def Precedes : Atom → Atom → Prop
  | dangling,    _          => False
  | escape '\r', plain '\n' => False
  | _,           _          => True

lemma precedes_iff : a.Precedes b ↔ a ≠ dangling ∧ ¬(a = escape '\r' ∧ b = plain '\n') := by
  simp only [Precedes]
  split <;> simp_all

lemma isChain_read (t : Text) : (read t).IsChain Precedes := by
  induction t using read_induction with
  | nil => exact .nil
  | returnFeed t ih =>
    rw [read]
    exact List.isChain_cons.mpr ⟨fun _ _ => trivial, ih⟩
  | escape c t hc ih =>
    rw [read_escape hc]
    refine List.isChain_cons.mpr ⟨fun a ha => precedes_iff.mpr ⟨by simp, ?_⟩, ih⟩
    rintro ⟨hreturn, rfl⟩
    exact hc (escape.inj hreturn) (head?_read t _ ha).symm
  | dangling => exact .singleton _
  | plain c t hc ih =>
    rw [read_plain hc]
    exact List.isChain_cons.mpr ⟨fun _ _ => trivial, ih⟩

/-- What is spelled starts with a character other than a backslash only if the first atom is it. -/
lemma head?_spell (hc : c ≠ '\\') (h : (spell as).head? = some c) : as.head? = some (plain c) := by
  match as with
  | [] => simp at h
  | plain d :: as => simpa [text] using h
  | escape d :: as | escapeReturnFeed :: as | dangling :: as =>
    exact absurd (by simpa [text] using h.symm) hc

/-- Atoms that can stand in front of each other are read back as they are spelled. -/
lemma read_spell_of_isChain (h : as.IsChain Precedes) (hslash : plain '\\' ∉ as) :
    read (spell as) = as := by
  induction as with
  | nil => rfl
  | cons a as ih =>
    obtain ⟨hhead, has⟩ := List.isChain_cons.mp h
    have ih := ih has fun hmem => hslash (List.mem_cons_of_mem a hmem)
    rw [spell_cons]
    cases a with
    | plain c =>
      have hc : c ≠ '\\' := by
        rintro rfl
        exact hslash List.mem_cons_self
      rw [text, List.singleton_append, read_plain hc, ih]
    | escape c =>
      have hfeed : c = '\r' → (spell as).head? ≠ some '\n' := by
        rintro rfl hfeed
        exact hhead _ (head?_spell (by decide) hfeed)
      rw [text, List.cons_append, List.singleton_append, read_escape hfeed, ih]
    | escapeReturnFeed => simp [text, read, ih]
    | dangling =>
      -- nothing follows a backslash that escapes nothing
      cases as with
      | nil => rfl
      | cons b as => exact absurd (hhead b rfl) id

/-! ### Atoms between two quotes -/

/-- Whether an atom can stand in a body that ends at `quote`. -/
def Fits (quote : Char) : Atom → Prop
  | plain c  => c ≠ '\\' ∧ c ≠ quote ∧ Text.isTerminator c = false
  | dangling => False
  | _        => True

/-- A closed quoted body holds no bare quote, no bare line terminator and no backslash without
something to escape. -/
lemma fits_of_readQuoted {body rest : Text} (h : Token.readQuoted q.char t = ⟨body, true, rest⟩) :
    ∀ a ∈ read body, a.Fits q.char := by
  fun_induction Token.readQuoted q.char t generalizing body with
  | case1 => simp at h
  | case2 t ih =>
    obtain ⟨b, rfl, hb⟩ := Token.Reading.push_eq_mk.mp h
    simpa [read, Fits] using ih hb
  | case3 c t hc ih =>
    obtain ⟨b, rfl, hb⟩ := Token.Reading.push_eq_mk.mp h
    have happ := Token.readQuoted_append q t
    rw [hb] at happ
    simp only [List.cons_append, List.nil_append]
    rw [read_escape]
    · simpa [Fits] using ih hb
    · rintro rfl hhead
      obtain ⟨b', rfl⟩ := List.head?_eq_some_iff.1 hhead
      exact hc _ rfl happ.symm
  | case4 t =>
    simp only [Token.Reading.mk.injEq] at h
    simp [← h.1, read]
  | case5 c t => simp at h
  | case6 c t _ hc hquote hend ih =>
    obtain ⟨b, rfl, hb⟩ := Token.Reading.push_eq_mk.mp h
    have hslash : c ≠ '\\' := by
      rintro rfl
      cases t with
      | nil => simp [Token.readQuoted] at hb
      | cons d t => exact hc d t rfl rfl
    simp only [List.cons_append, List.nil_append, read_plain hslash, List.mem_cons]
    rintro a (rfl | ha)
    · exact ⟨hslash, hquote, by simpa using hend⟩
    · exact ih hb a ha

/-- Nothing that can stand in a quoted body starts with a line feed. -/
lemma head?_spell_append (h : ∀ a ∈ as, a.Fits q.char) (t : Text) :
    (spell as ++ q.char :: t).head? ≠ some '\n' := by
  match as with
  | [] => simpa using q.char_ne (by decide)
  | plain c :: as =>
    have hend := (h _ List.mem_cons_self).2.2
    suffices c ≠ '\n' by simpa [text] using this
    rintro rfl
    simp [Text.isTerminator] at hend
  | escape c :: as | escapeReturnFeed :: as | dangling :: as => simp [text]

/-- Atoms that fit between two quotes are a body that ends at the quote. -/
lemma readQuoted_spell (h : ∀ a ∈ as, a.Fits q.char) (t : Text) :
    Token.readQuoted q.char (spell as ++ q.char :: t) = ⟨spell as, true, t⟩ := by
  induction as with
  | nil => exact Token.readQuoted_close q t
  | cons a as ih =>
    obtain ⟨ha, has⟩ := List.forall_mem_cons.mp h
    rw [spell_cons, List.append_assoc]
    cases a with
    | plain c =>
      obtain ⟨hslash, hquote, hend⟩ := ha
      simp only [text, List.cons_append, List.nil_append]
      rw [Token.readQuoted_plain hslash hquote hend, ih has]
      rfl
    | escape c =>
      simp only [text, List.cons_append, List.nil_append]
      rw [Token.readQuoted_escape (fun _ => head?_spell_append has t), ih has]
      rfl
    | escapeReturnFeed => simp [text, Token.readQuoted, ih has, Token.Reading.push]
    | dangling => exact absurd ha id

/-- They are read back one by one. -/
lemma read_spell (h : ∀ a ∈ as, a.Fits q.char) : read (spell as) = as := by
  apply read_spell_of_isChain
  · refine (List.pairwise_of_forall_mem_list fun a ha b hb => precedes_iff.mpr ⟨?_, ?_⟩).isChain
    · rintro rfl
      exact h _ ha
    · rintro ⟨-, rfl⟩
      exact absurd (h _ hb).2.2 (by decide)
  · exact fun hmem => (h _ hmem).1 rfl

/-! ### Atoms of a template -/

/-- Whether an atom can stand in a template body that has a closing delimiter. -/
def FitsTemplate : Atom → Prop
  | plain c  => c ≠ '\\' ∧ c ≠ '\x60'
  | dangling => False
  | _        => True

/-- Whether two neighbours would start an interpolation. -/
def Opens : Atom → Atom → Prop
  | plain '$', plain '{' => True
  | _,         _         => False

lemma opens_iff : a.Opens b ↔ a = plain '$' ∧ b = plain '{' := by
  constructor
  · simp only [Opens]
    split
    · exact fun _ => ⟨rfl, rfl⟩
    · exact False.elim
  · rintro ⟨rfl, rfl⟩
    trivial

/-- A template body with a closing delimiter holds no bare backtick, no backslash without something
to escape, and no start of an interpolation. -/
lemma fitsTemplate_of_readTemplate {body rest : Text} {cl : Closing}
    (h : Token.readTemplate t = ⟨body, some cl, rest⟩) :
    (∀ a ∈ read body, a.FitsTemplate) ∧ (read body).IsChain fun a b => ¬a.Opens b := by
  fun_induction Token.readTemplate t generalizing body with
  | case1 => simp at h
  | case2 t ih =>
    obtain ⟨b, rfl, hb⟩ := Token.Reading.push_eq_mk.mp h
    simpa [read, FitsTemplate, List.isChain_cons, Opens] using ih hb
  | case3 c t hc ih =>
    obtain ⟨b, rfl, hb⟩ := Token.Reading.push_eq_mk.mp h
    have happ := Token.readTemplate_append .backtick t
    rw [hb] at happ
    simp only [List.cons_append, List.nil_append]
    rw [read_escape]
    · simpa [FitsTemplate, List.isChain_cons, Opens] using ih hb
    · rintro rfl hhead
      obtain ⟨b', rfl⟩ := List.head?_eq_some_iff.1 hhead
      exact hc _ rfl happ.symm
  | case4 t | case5 t =>
    simp only [Token.Reading.mk.injEq] at h
    simp [← h.1, read]
  | case6 c t _ hc htick hdollar ih =>
    obtain ⟨b, rfl, hb⟩ := Token.Reading.push_eq_mk.mp h
    have happ := Token.readTemplate_append .backtick t
    rw [hb] at happ
    have hslash : c ≠ '\\' := by
      rintro rfl
      cases t with
      | nil => simp [Token.readTemplate] at hb
      | cons d t => exact hc d t rfl rfl
    obtain ⟨hfits, hchain⟩ := ih hb
    simp only [List.cons_append, List.nil_append, read_plain hslash, List.forall_mem_cons,
      List.isChain_cons]
    refine ⟨⟨⟨hslash, htick⟩, hfits⟩, ?_, hchain⟩
    intro a ha hopens
    obtain ⟨hdollar', rfl⟩ := opens_iff.mp hopens
    obtain rfl := plain.inj hdollar'
    have hhead : b.head? = some '{' := (head?_read b _ ha).symm
    obtain ⟨b', rfl⟩ := List.head?_eq_some_iff.1 hhead
    exact hdollar _ rfl happ.symm

/-- Atoms that can stand in a template are a body that ends at the closing delimiter. -/
lemma readTemplate_spell (h : ∀ a ∈ as, a.FitsTemplate) (hopens : as.IsChain fun a b => ¬a.Opens b)
    (cl : Closing) (t : Text) :
    Token.readTemplate (spell as ++ (cl.text ++ t)) = ⟨spell as, some cl, t⟩ := by
  induction as with
  | nil => exact Token.readTemplate_close cl t
  | cons a as ih =>
    obtain ⟨ha, has⟩ := List.forall_mem_cons.mp h
    obtain ⟨hhead, hchain⟩ := List.isChain_cons.mp hopens
    have ih := ih has hchain
    rw [spell_cons, List.append_assoc]
    cases a with
    | plain c =>
      have hbrace : c = '$' → (spell as ++ (cl.text ++ t)).head? ≠ some '{' := by
        rintro rfl hbrace
        match as with
        | [] => cases cl <;> simp [Closing.text] at hbrace
        | plain d :: as =>
          obtain rfl : d = '{' := by simpa [text] using hbrace
          exact hhead _ rfl trivial
        | escape d :: as | escapeReturnFeed :: as | dangling :: as => simp [text] at hbrace
      simp only [text, List.cons_append, List.nil_append]
      rw [Token.readTemplate_plain ha.1 ha.2 hbrace, ih]
      rfl
    | escape c => simp [text, Token.readTemplate_escape, ih, Token.Reading.push]
    | escapeReturnFeed => simp [text, Token.readTemplate, ih, Token.Reading.push]
    | dangling => exact absurd ha id

/-- The first atom of such a body is read back, unless it turns into an escaped line break. -/
lemma head?_of_head?_read_spell (h : ∀ a ∈ as, a.FitsTemplate) (hb : b ≠ escapeReturnFeed)
    (hhead : (read (spell as)).head? = some b) : as.head? = some b := by
  cases as with
  | nil => simp [read] at hhead
  | cons a as =>
    have ha := h a List.mem_cons_self
    rw [spell_cons] at hhead
    cases a with
    | plain c =>
      rw [text, List.singleton_append, read_plain ha.1] at hhead
      exact hhead
    | escape c =>
      rw [text, List.cons_append, List.singleton_append] at hhead
      by_cases hfeed : c = '\r' ∧ (spell as).head? = some '\n'
      · obtain ⟨rfl, hfeed⟩ := hfeed
        obtain ⟨t, ht⟩ := List.head?_eq_some_iff.mp hfeed
        rw [ht, read] at hhead
        exact absurd (Option.some.inj hhead).symm hb
      · rw [read_escape (not_and.mp hfeed)] at hhead
        exact hhead
    | escapeReturnFeed => exact absurd (Option.some.inj (by simpa [text, read] using hhead)).symm hb
    | dangling => exact absurd ha id

lemma dangling_not_mem_of_readTemplate {body rest : Text} {cl : Closing}
    (h : Token.readTemplate t = ⟨body, some cl, rest⟩) : dangling ∉ read body :=
  fun hmem => (fitsTemplate_of_readTemplate h).1 dangling hmem

end Atom

/-- A template body that has a closing delimiter ends there whatever follows. -/
lemma Token.readTemplate_closed {t body rest : Text} {cl : Closing}
    (h : readTemplate t = ⟨body, some cl, rest⟩) (rest' : Text) :
    readTemplate (body ++ (cl.text ++ rest')) = ⟨body, some cl, rest'⟩ := by
  obtain ⟨hfits, hopens⟩ := Atom.fitsTemplate_of_readTemplate h
  have hread := Atom.readTemplate_spell hfits hopens cl rest'
  rwa [Atom.spell_read] at hread

end Requote
