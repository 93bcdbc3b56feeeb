import Requote.Proofs.Lines
import Requote.Proofs.Reading
import Requote.Proofs.Splicing

/-!
# Scanning a text

Tokens can be read off a text one after another whatever is said about the closing braces: a flag
for each token tells whether such a brace ends an interpolation there. Scanning comes to an end,
since every token has a character of its own, and the tokens tile the text. The reader is one such
scan, with flags that depend on the interpolations that are open.
-/

namespace Requote

namespace Token

/-! ### One token after another -/

lemma length_next?_lt {previous : Option Char} {resumes : Bool} {t u : Text} {x : Token}
    (h : next? previous resumes t = some (x, u)) : u.length < t.length := by
  obtain ⟨happ, hne⟩ := next?_eq_some h
  have hpos := List.length_pos_iff.mpr hne
  rw [← happ, List.length_append]
  omega

/-- Reads tokens until there is none. The flags tell, token by token, whether a closing brace ends
an interpolation. -/
def scan (flags : Nat → Bool) (previous : Option Char) (t : Text) : List Token :=
  match _h : next? previous (flags 0) t with
  | none        => []
  | some (x, u) => x :: scan (fun n => flags (n + 1)) (x.text.getLast?.or previous) u
termination_by t.length
decreasing_by exact length_next?_lt _h

/-- A row of tokens from an offset on, each with the span that its characters fill. -/
def placed (offset : Nat) : List Token → List (Token × Span)
  | []      => []
  | x :: xs => (x, ⟨offset, offset + x.text.size⟩) :: placed (offset + x.text.size) xs

variable {flags : Nat → Bool} {previous : Option Char} {front rest t u : Text} {x : Token}
  {xs : List Token} {row : List (Token × Span)}

lemma scan_of_next?_eq_none (h : next? previous (flags 0) t = none) :
    scan flags previous t = [] := by
  rw [scan]
  split <;> simp_all

lemma scan_of_next? (h : next? previous (flags 0) t = some (x, u)) :
    scan flags previous t
      = x :: scan (fun n => flags (n + 1)) (x.text.getLast?.or previous) u := by
  rw [scan]
  split <;> simp_all

/-! ### Rows that tile a text -/

/-- A row of placed tokens that tiles a source text from an offset up to its end. -/
structure Tiles (source : Text) (start : Nat) (row : List (Token × Span)) : Prop where
  first    : ∀ p ∈ row.head?, p.2.start = start
  joined   : row.IsChain fun p q => q.2.start = p.2.stop
  last     : (row.getLast?.map fun p => p.2.stop).getD start = source.size
  nonempty : ∀ p ∈ row, p.2.start < p.2.stop
  boundary : ∀ p ∈ row, source.isBoundary p.2.stop = true
  text     : ∀ p ∈ row, source.slice? p.2.start p.2.stop = some p.1.text
  /-- The body of a string stands between a delimiter of one byte and its closing delimiter. -/
  body     : ∀ d t s, (.body d t, s) ∈ row → ∃ stop, s.start + 1 ≤ stop ∧ stop ≤ s.stop ∧
    source.slice? (s.start + 1) stop = some t ∧ source.slice? stop s.stop = some d.closing

lemma size_opening (d : Delimiters) : d.opening.size = 1 := by
  obtain ⟨_ | _, _⟩ | ⟨_ | _, _⟩ := d <;> rfl

/-- The parts of a string token stand one after the other. -/
lemma slices_of_body (front rest : Text) (d : Delimiters) (t : Text) :
    ∃ stop, front.size + 1 ≤ stop ∧ stop ≤ front.size + (d.wrap t).size ∧
      Text.slice? (front ++ (d.wrap t ++ rest)) (front.size + 1) stop = some t ∧
      Text.slice? (front ++ (d.wrap t ++ rest)) stop (front.size + (d.wrap t).size)
        = some d.closing := by
  have hopening := size_opening d
  have hsource :
      front ++ (d.wrap t ++ rest) = front ++ d.opening ++ (t ++ (d.closing ++ rest)) := by
    simp [Delimiters.wrap]
  have hbody := Text.slice?_append (front ++ d.opening) t (d.closing ++ rest)
  have hclosing := Text.slice?_append (front ++ d.opening ++ t) d.closing rest
  have hsize : (front ++ d.opening ++ t).size + d.closing.size = front.size + (d.wrap t).size := by
    simp only [Delimiters.wrap, Text.size_append]
    omega
  rw [hsize, Text.size_append, List.append_assoc, ← hsource] at hclosing
  rw [Text.size_append, hopening, ← hsource] at hbody
  rw [Text.size_append, hopening] at hclosing
  refine ⟨front.size + 1 + t.size, by omega, ?_, hbody, hclosing⟩
  simp only [Delimiters.wrap, Text.size_append]
  omega

lemma Tiles.nil (source : Text) : Tiles source source.size [] :=
  ⟨by simp, .nil, rfl, by simp, by simp, by simp, by simp⟩

/-- A token in front of a row that tiles the rest of the text. -/
lemma Tiles.cons (hx : x.text ≠ [])
    (h : Tiles (front ++ (x.text ++ rest)) (front.size + x.text.size) row) :
    Tiles (front ++ (x.text ++ rest)) front.size
      ((x, ⟨front.size, front.size + x.text.size⟩) :: row) := by
  have hpos := Text.size_pos hx
  refine ⟨by simp, List.isChain_cons.mpr ⟨h.first, h.joined⟩, ?_, ?_, ?_, ?_, ?_⟩
  · rw [← h.last, List.getLast?_cons]
    cases row.getLast? <;> rfl
  · refine List.forall_mem_cons.mpr ⟨?_, h.nonempty⟩
    simpa using hpos
  · refine List.forall_mem_cons.mpr ⟨?_, h.boundary⟩
    have hboundary := Text.isBoundary_append (front ++ x.text) rest
    rwa [Text.size_append, List.append_assoc] at hboundary
  · exact List.forall_mem_cons.mpr ⟨Text.slice?_append _ _ _, h.text⟩
  · intro d t s hmem
    rcases List.mem_cons.mp hmem with heq | hmem
    · obtain ⟨rfl, rfl⟩ := Prod.mk.inj heq
      exact slices_of_body front rest d t
    · exact h.body d t s hmem

lemma tiles_placed_scan (flags : Nat → Bool) (previous : Option Char) (front t : Text) :
    Tiles (front ++ t) front.size (placed front.size (scan flags previous t)) := by
  fun_induction scan flags previous t generalizing front with
  | case1 flags previous t h =>
    obtain rfl : t = [] := by
      cases t with
      | nil => rfl
      | cons c t => simp [next?] at h
    rw [List.append_nil]
    exact .nil front
  | case2 flags previous t x u h ih =>
    obtain ⟨rfl, hne⟩ := next?_eq_some h
    refine .cons hne ?_
    have htiles := ih (front ++ x.text)
    rwa [Text.size_append, List.append_assoc] at htiles

lemma length_scan_le (flags : Nat → Bool) (previous : Option Char) (t : Text) :
    (scan flags previous t).length ≤ t.length := by
  fun_induction scan flags previous t with
  | case1 => exact Nat.zero_le _
  | case2 flags previous t x u h ih =>
    have hlt := length_next?_lt h
    rw [List.length_cons]
    omega

/-- The tokens that the reader takes up to the end of a text are those of a scan. -/
lemma exists_scan_of_reads {r r' : Reader} (h : Reader.Reads r t xs r' []) :
    ∃ flags, scan flags r.previous t = xs := by
  generalize hv : ([] : Text) = v at h
  induction h with
  | nil r t =>
    subst hv
    exact ⟨fun _ => false, scan_of_next?_eq_none rfl⟩
  | @cons r r' t u v x xs hx _ ih =>
    obtain ⟨flags, hflags⟩ := ih hv
    refine ⟨fun n => if n = 0 then r.resumes else flags (n - 1), ?_⟩
    rw [scan_of_next? hx]
    exact congrArg _ hflags

/-- Tokens tile the source text, whatever the flags are, and there are no more of them than
characters. Reading a text to its end takes the tokens of such a scan. -/
theorem tiles_scan (source : Text) :
    (∀ flags, Tiles source 0 (placed 0 (scan flags none source)) ∧
        (scan flags none source).length ≤ source.length) ∧
      ∃ flags, Reader.Reads {} source (scan flags none source) (Reader.run {} source) [] := by
  refine ⟨fun flags => ⟨tiles_placed_scan flags none [] source, length_scan_le flags none source⟩,
    ?_⟩
  obtain ⟨xs, h⟩ := Reader.exists_reads {} source
  obtain ⟨flags, rfl⟩ := exists_scan_of_reads h
  exact ⟨flags, h⟩

end Token

end Requote
