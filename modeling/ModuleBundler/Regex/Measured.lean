import ModuleBundler.Regex.Basic

/-!
How much a regular expression asks for. Expressions are accepted up to a depth of nesting, and up
to a number of bytes that the states of a machine for them take, which reads texts byte by byte
from their end. Only what makes the difference is counted: each byte of a character is a state, the
bytes that members of a set begin with share their states, and a repetition with counts repeats the
states of its body.
-/

set_option autoImplicit false

namespace ModuleBundler.Regex

/-! ## Limits -/

/-- How deep expressions may nest. -/
def depthLimit : Nat := 250

/-- How many bytes the states of an expression may take. -/
def sizeLimit : Nat := 10 * 0x100000

/-- The sum of some sizes. -/
def total (sizes : List Nat) : Nat := sizes.foldl (· + ·) 0

/-- The greatest of some depths. -/
def deepest (depths : List Nat) : Nat := depths.foldl max 0

/-- The bytes of a state. -/
def stateSize : Nat := 32

/-- The bytes of one way out of a state that has several. -/
def branchSize : Nat := 4

/-- The bytes of a state that tells several bytes apart, for each of them. -/
def transitionSize : Nat := 8

/-- The bytes of a state with two ways out. -/
def forkSize : Nat := stateSize + 2 * branchSize

/-! ## The size of sets -/

/-- The bytes of a code point in a text. -/
def bytes (n : Nat) : List UInt8 := String.utf8EncodeChar (Char.ofNat n)

/-- Where a range of code points has to be cut so that the encodings of its members are all that
take, place by place, a byte between that of the first member and that of the last one: its members
have to be equally long, and where they differ in a byte, the bytes after it have to take all
values. Yields the last member of the first part. -/
def cut? (first last : Nat) : Option Nat :=
  ([0x7F, 0x7FF, 0xFFFF].find? fun bound => first ≤ bound && bound < last).or <|
    if last ≤ 0x7F then none
    else [0x40, 0x1000, 0x40000].findSome? fun unit =>
      if first / unit = last / unit then none
      else if first % unit ≠ 0 then some (first - first % unit + unit - 1)
      else if last % unit ≠ unit - 1 then some (last - last % unit - 1)
      else none

/-- The encodings of the members of a range, as ranges of bytes; `fuel` bounds how often a part is
cut again. -/
def encodings : Nat → Nat → Nat → List (List (UInt8 × UInt8))
  | 0, _, _ => []
  | fuel + 1, first, last =>
    match cut? first last with
    | some bound => encodings fuel first bound ++ encodings fuel (bound + 1) last
    | none => [(bytes first).zip (bytes last)]

/-- No part of a range is cut more often than this. -/
def cutDepth : Nat := 24

/-- How many elements two lists begin with alike. -/
def sharedLength {α : Type} [BEq α] : List α → List α → Nat
  | a :: as, b :: bs => if a == b then sharedLength as bs + 1 else 0
  | _, _ => 0

/-- The size of encodings in order, of which each shares states with the one before. -/
def encodingsSize (before : List (UInt8 × UInt8)) : List (List (UInt8 × UInt8)) → Nat
  | [] => 0
  | e :: rest =>
    stateSize * (e.length - sharedLength before e) + branchSize + encodingsSize e rest

/-- The size of a set: a single character is a chain of states, ASCII characters take a single
state, and others a choice among encodings. -/
def setSize (s : Text.CharSet) : Nat :=
  let runs := (s.minus (.range 0xD800 0xDFFF)).runs
  let isAscii := runs.all fun r => r.2 ≤ 0x80
  match runs with
  | [] => stateSize
  | [r] =>
    if r.2 = r.1 + 1 then stateSize * (bytes r.1).length
    else if isAscii then 2 * stateSize + transitionSize
    else 2 * stateSize + encodingsSize [] (encodings cutDepth r.1 (r.2 - 1))
  | runs =>
    if isAscii then 2 * stateSize + transitionSize * runs.length
    else 2 * stateSize +
      encodingsSize [] (runs.flatMap fun r => encodings cutDepth r.1 (r.2 - 1))

/-! ## Measured expressions -/

/-- An expression with its measures. -/
structure Measured where
  regex : Regex
  depth : Nat
  size : Nat

/-- The form of an expression lets it match nothing but the empty text. -/
def isHollow : Regex → Bool
  | .empty => true
  | .one _ => false
  | .assertion _ => true
  | .sequence a b => a.isHollow && b.isHollow
  | .choice a b => a.isHollow && b.isHollow
  | .repetition body _ most => body.isHollow || most == some 0

namespace Measured

/-- One of a set of characters; a set in brackets may nest. -/
def ofSet (s : Text.CharSet) (depth : Nat) : Measured := ⟨.one s, depth, setSize s⟩

/-- A condition. -/
def ofAssertion (a : Assertion) : Measured := ⟨.assertion a, 0, stateSize⟩

/-- An expression in parentheses, which may be numbered or named. -/
def group (captures : Bool) (m : Measured) : Measured :=
  ⟨m.regex, m.depth + 1, m.size + (if captures then 2 * stateSize else 0)⟩

/-- A repetition. More than one round of what matches only the empty text adds nothing. -/
def repetition (m : Measured) (least : Nat) (most : Option Nat) : Measured :=
  let (least, most) :=
    if m.regex.isHollow then (min least 1, some (min (most.getD 1) 1)) else (least, most)
  let size := match most with
    | none => max least 1 * m.size + forkSize
    | some most =>
      if most = 0 then stateSize
      else if most = least then most * m.size
      else most * m.size + (most - least) * forkSize + stateSize
  ⟨.repetition m.regex least most, m.depth + 1, size⟩

/-- One expression after another. What sets flags is a part, but matches nothing. -/
def sequence (parts : List (Option Measured)) : Measured :=
  let ms := parts.filterMap id
  let depth := deepest (ms.map (·.depth))
  { regex := match ms.reverse with
      | [] => .empty
      | last :: before => before.foldl (fun after m => .sequence m.regex after) last.regex
    depth := if parts.length ≤ 1 then depth else depth + 1
    size := if ms.isEmpty then stateSize else total (ms.map (·.size)) }

/-- One of several expressions. -/
def choice : List Measured → Measured
  | [] => sequence []
  | [m] => m
  | m :: ms =>
    { regex := ms.foldl (fun before m => .choice before m.regex) m.regex
      depth := deepest ((m :: ms).map (·.depth)) + 1
      size := total ((m :: ms).map fun m => m.size + branchSize) + 2 * stateSize }

/-- The expression stays within the limits. -/
def isAcceptable (m : Measured) : Bool := m.depth ≤ depthLimit && m.size ≤ sizeLimit

end Measured

end ModuleBundler.Regex
