/-!
# Text

A text is the list of its characters. Places in a text are byte offsets into its UTF-8 form, so a
text has a size in bytes, and it can be cut only where no character is split.
-/

namespace Requote

/-- A text is the list of its characters. -/
abbrev Text := List Char

namespace Text

/-! ### Size -/

/-- The number of bytes of the UTF-8 form. -/
def size : Text → Nat
  | []     => 0
  | c :: t => c.utf8Size + size t

@[simp]
theorem size_nil : size [] = 0 := rfl

@[simp]
theorem size_cons (c : Char) (t : Text) : size (c :: t) = c.utf8Size + size t := rfl

@[simp]
theorem size_append (s t : Text) : size (s ++ t) = size s + size t := by
  induction s with
  | nil => simp
  | cons c s ih => simp [ih, Nat.add_assoc]

/-! ### Cutting at byte offsets -/

/-- Cuts a text at a byte offset. There is no such cut past the end or inside a character. -/
def cut? : Text → Nat → Option (Text × Text)
  | t,      0     => some ([], t)
  | [],     _ + 1 => none
  | c :: t, n + 1 =>
    if c.utf8Size ≤ n + 1 then
      (cut? t (n + 1 - c.utf8Size)).map fun (before, after) => (c :: before, after)
    else
      none

/-- Whether a byte offset lies between two characters, or at either end. -/
def isBoundary (t : Text) (offset : Nat) : Bool :=
  (t.cut? offset).isSome

/-- The text between two byte offsets. -/
def slice? (t : Text) (start stop : Nat) : Option Text :=
  if start ≤ stop then do
    let (_, after) ← t.cut? start
    let (middle, _) ← after.cut? (stop - start)
    some middle
  else
    none

/-- The number of characters that start in the first `n` bytes. -/
def charsWithin : Text → Nat → Nat
  | [],     _     => 0
  | _ :: _, 0     => 0
  | c :: t, n + 1 => charsWithin t (n + 1 - c.utf8Size) + 1

@[simp]
theorem cut?_zero (t : Text) : cut? t 0 = some ([], t) := by
  cases t <;> rfl

/-- A cut loses nothing and falls where it was asked for. -/
theorem append_eq_of_cut? {t before after : Text} {n : Nat}
    (h : cut? t n = some (before, after)) : before ++ after = t ∧ size before = n := by
  induction t generalizing n before after with
  | nil =>
    cases n with
    | zero => simp_all [cut?]
    | succ n => simp [cut?] at h
  | cons c t ih =>
    cases n with
    | zero => simp_all [cut?]
    | succ n =>
      simp only [cut?] at h
      split at h
      · rename_i hc
        obtain ⟨⟨b, a⟩, hba, heq⟩ := Option.map_eq_some_iff.1 h
        simp only [Prod.mk.injEq] at heq
        obtain ⟨rfl, rfl⟩ := heq
        obtain ⟨rfl, hsize⟩ := ih hba
        simp only [List.cons_append, size_cons, hsize, true_and]
        omega
      · simp at h

/-- Every split of the characters is a cut. -/
theorem cut?_append (s t : Text) : cut? (s ++ t) (size s) = some (s, t) := by
  induction s with
  | nil => simp
  | cons c s ih =>
    have hc := c.utf8Size_pos
    obtain ⟨k, hk⟩ : ∃ k, c.utf8Size + size s = k + 1 := ⟨c.utf8Size + size s - 1, by omega⟩
    have hle : c.utf8Size ≤ k + 1 := by omega
    have hsub : k + 1 - c.utf8Size = size s := by omega
    simp [cut?, hk, hle, hsub, ih]

/-! ### Numbers and padding -/

/-- A number in decimal digits. -/
def ofNat (n : Nat) : Text :=
  Nat.toDigits 10 n

/-- A number in lower-case hexadecimal digits. -/
def ofNatHex (n : Nat) : Text :=
  Nat.toDigits 16 n

/-- Spaces in front of a text, up to a width. -/
def padLeft (width : Nat) (t : Text) : Text :=
  List.replicate (width - t.length) ' ' ++ t

/-! ### Order -/

/-- Whether a text comes before another in the order of code points, or is the same. -/
def notAfter : Text → Text → Bool
  | [],     _      => true
  | _ :: _, []     => false
  | a :: s, b :: t => a < b || (a == b && notAfter s t)

/-! ### Bytes -/

/-- The UTF-8 form of a text. -/
def toBytes (t : Text) : ByteArray :=
  (String.ofList t).toUTF8

/-- The text whose UTF-8 form the bytes are. -/
def ofBytes? (bytes : ByteArray) : Option Text :=
  (String.fromUTF8? bytes).map String.toList

end Text

end Requote
