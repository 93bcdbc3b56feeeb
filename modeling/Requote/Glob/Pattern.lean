import Requote.Text

/-!
# Glob patterns

A pattern is a path in whose components some characters stand for others: `?` for any character, `*`
for any run of characters, `[…]` for one of some characters and `[!…]` for any other. A component
that is `**` stands for any number of directories.
-/

namespace Requote.Glob

/-- A character, or the characters from one to another, inside brackets. -/
structure Interval where
  first : Char
  last  : Char
deriving DecidableEq, Repr

/-- A piece of a pattern. -/
inductive Piece where
  | char (c : Char)
  | anyChar
  | anyRun
  | anyDirectories
  | within (intervals : List Interval)
  | without (intervals : List Interval)
deriving DecidableEq, Repr

/-- What is wrong with a pattern. -/
inductive Fault where
  | stars
  | recursiveStars
  | brackets
deriving DecidableEq, Repr

/-- A fault and the index of the character that it is near to. -/
structure PatternError where
  position : Nat
  fault    : Fault
deriving DecidableEq, Repr

/-- The fault in words. -/
def Fault.message : Fault → Text
  | stars          => "wildcards are either regular `*` or recursive `**`".toList
  | recursiveStars => "recursive wildcards must form a single path component".toList
  | brackets       => "invalid range pattern".toList

/-- The fault and its place in words. -/
def PatternError.message (e : PatternError) : Text :=
  "Pattern syntax error near position ".toList ++ Text.ofNat e.position ++ ": ".toList
    ++ e.fault.message

/-! ### Reading -/

/-- The intervals between brackets. A hyphen between two characters makes an interval of them. -/
def readIntervals : Text → List Interval
  | a :: '-' :: b :: t => ⟨a, b⟩ :: readIntervals t
  | a :: t             => ⟨a, a⟩ :: readIntervals t
  | []                 => []

/-- Splits at the first closing bracket behind the first character: what stands before it, and the
text after it. -/
def splitBracket? : Text → Option (Text × Text)
  | []     => none
  | c :: t =>
    match t.dropWhile (· ≠ ']') with
    | []        => none
    | _ :: rest => some (c :: t.takeWhile (· ≠ ']'), rest)

/-- The piece made by brackets, after the opening one, and the text after the closing one. -/
def readBrackets? : Text → Option (Piece × Text)
  | '!' :: t => (splitBracket? t).map fun (inside, rest) => (.without (readIntervals inside), rest)
  | t        => (splitBracket? t).map fun (inside, rest) => (.within (readIntervals inside), rest)

theorem length_splitBracket? {t inside rest : Text} (h : splitBracket? t = some (inside, rest)) :
    rest.length < t.length := by
  cases t with
  | nil => simp [splitBracket?] at h
  | cons c t =>
    simp only [splitBracket?] at h
    split at h
    · simp at h
    · rename_i x r hr
      simp only [Option.some.injEq, Prod.mk.injEq] at h
      obtain ⟨-, rfl⟩ := h
      have hle := (List.dropWhile_sublist (fun c => decide (c ≠ ']')) (l := t)).length_le
      rw [hr] at hle
      simp only [List.length_cons] at hle ⊢
      omega

theorem length_readBrackets? {t rest : Text} {p : Piece} (h : readBrackets? t = some (p, rest)) :
    rest.length < t.length := by
  unfold readBrackets? at h
  split at h
  · obtain ⟨⟨inside, r⟩, hs, heq⟩ := Option.map_eq_some_iff.1 h
    simp only [Prod.mk.injEq] at heq
    obtain ⟨-, rfl⟩ := heq
    have := length_splitBracket? hs
    simp only [List.length_cons]
    omega
  · obtain ⟨⟨inside, r⟩, hs, heq⟩ := Option.map_eq_some_iff.1 h
    simp only [Prod.mk.injEq] at heq
    obtain ⟨-, rfl⟩ := heq
    exact length_splitBracket? hs

/-- The pieces of a pattern, from the character with an index on. `previous` is the one in front. -/
def readPieces (position : Nat) (previous : Option Char) :
    Text → Except PatternError (List Piece)
  | []             => .ok []
  | '*' :: '*' :: t =>
    if t.head? = some '*' then
      .error ⟨position + 2, .stars⟩
    else if previous.any (· ≠ '/') then
      .error ⟨position - 1, .recursiveStars⟩
    else
      match t with
      | []       => .ok [.anyDirectories]
      | '/' :: t => do return .anyDirectories :: (← readPieces (position + 3) (some '/') t)
      | _        => .error ⟨position + 2, .recursiveStars⟩
  | '*' :: t => do return .anyRun :: (← readPieces (position + 1) (some '*') t)
  | '?' :: t => do return .anyChar :: (← readPieces (position + 1) (some '?') t)
  | '[' :: t =>
    match h : readBrackets? t with
    | none            => .error ⟨position, .brackets⟩
    | some (p, rest)  => do
      return p :: (← readPieces (position + 1 + (t.length - rest.length)) (some ']') rest)
  | c :: t => do return .char c :: (← readPieces (position + 1) (some c) t)
termination_by t => t.length
decreasing_by
  · simp only [List.length_cons]
    omega
  · exact Nat.lt_succ_self _
  · exact Nat.lt_succ_self _
  · exact Nat.lt_trans (length_readBrackets? h) (Nat.lt_succ_self _)
  · exact Nat.lt_succ_self _

/-! ### Matching a name -/

/-- Whether a character is in one of the intervals. -/
def isWithin (intervals : List Interval) (c : Char) : Bool :=
  intervals.any fun i => i.first ≤ c && c ≤ i.last

/-- Whether a piece can stand for a character. A run of characters is matched one by one. -/
def Piece.accepts : Piece → Char → Bool
  | char a,            c => a = c
  | anyChar,           _ => true
  | anyRun,            _ => true
  | anyDirectories,    _ => true
  | within intervals,  c => isWithin intervals c
  | without intervals, c => !isWithin intervals c

/-- Whether a piece can stand for any number of characters. -/
def Piece.isRun : Piece → Bool
  | anyRun | anyDirectories => true
  | _                       => false

/-- Whether some end of a name, itself included, has a property. -/
def anyEnd (p : Text → Bool) : Text → Bool
  | []        => p []
  | c :: name => p (c :: name) || anyEnd p name

/-- Whether pieces stand for a name. -/
def Piece.standFor : List Piece → Text → Bool
  | [],      name => name.isEmpty
  | p :: ps, name =>
    if p.isRun then
      anyEnd (standFor ps) name
    else
      match name with
      | []        => false
      | c :: name => p.accepts c && standFor ps name

/-- The characters of a component that stands for itself only. -/
def Piece.literal? (pieces : List Piece) : Option Text :=
  pieces.mapM fun
    | .char c => some c
    | _       => none

end Requote.Glob
