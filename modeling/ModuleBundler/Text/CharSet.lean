/-!
Sets of code points as runs. A set is written as alternating gaps and lengths in base 36:
"5 2 3 1" is the set holding 5, 6 and 10, for a gap of 5 is followed by a run of 2, and after
another gap of 3 comes a run of 1.
-/

set_option autoImplicit false

namespace ModuleBundler.Text

/-- A set of code points: runs from a first member up to a bound that is no longer one. -/
structure CharSet where
  runs : List (Nat × Nat)
deriving Repr, DecidableEq

namespace CharSet

/-- Some run holds the code point. -/
def has (s : CharSet) (n : Nat) : Bool := s.runs.any fun r => r.1 ≤ n && n < r.2

/-- Membership of a character. -/
def contains (s : CharSet) (c : Char) : Bool := s.has c.toNat

/-- The value of a base 36 digit, lower case. -/
def digitValue (c : Char) : Nat :=
  if '0' ≤ c && c ≤ '9' then c.toNat - '0'.toNat else c.toNat - 'a'.toNat + 10

/-- The numbers of a text, separated by single blanks. -/
def numbers (cs : List Char) (acc : Nat) : List Nat :=
  match cs with
  | [] => [acc]
  | ' ' :: rest => acc :: numbers rest 0
  | c :: rest => numbers rest (acc * 36 + digitValue c)

/-- Runs from alternating gaps and lengths, beginning at a code point. -/
def runsFrom (start : Nat) : List Nat → List (Nat × Nat)
  | gap :: len :: rest => (start + gap, start + gap + len) :: runsFrom (start + gap + len) rest
  | _ => []

/-- The numbers of several lines. -/
def numbersOf (lines : List String) : List Nat := lines.flatMap fun line => numbers line.toList 0

/-- Reads the written form of a set, in one or more lines. -/
def ofLines (lines : List String) : CharSet := ⟨runsFrom 0 (numbersOf lines)⟩

/-! ## Combining sets -/

/-- The code points from a first to a last one. -/
def range (first last : Nat) : CharSet := ⟨[(first, last + 1)]⟩

/-- The members of several sets. -/
def unions (sets : List CharSet) : CharSet := ⟨sets.flatMap (·.runs)⟩

/-- Joins runs that touch or overlap, given in the order they begin in. -/
def joined : List (Nat × Nat) → List (Nat × Nat)
  | r :: q :: rest =>
    if q.1 ≤ r.2 then joined ((r.1, max r.2 q.2) :: rest) else r :: joined (q :: rest)
  | rs => rs
termination_by rs => rs.length

/-- The same set with its runs in order, none of which touches the next. -/
def ordered (s : CharSet) : CharSet := ⟨joined (s.runs.mergeSort fun r q => r.1 ≤ q.1)⟩

/-- What lies between runs that are in order, from a code point up to the last one there is. -/
def gaps (start : Nat) : List (Nat × Nat) → List (Nat × Nat)
  | [] => [(start, 0x110000)]
  | r :: rest => (start, r.1) :: gaps r.2 rest

/-- All other code points. -/
def complement (s : CharSet) : CharSet :=
  ⟨(gaps 0 s.ordered.runs).filter fun r => r.1 < r.2⟩

/-- The members of a set that are none of another. -/
def minus (s t : CharSet) : CharSet := (unions [s.complement, t]).complement

/-- The members that two sets share. -/
def intersection (s t : CharSet) : CharSet := s.minus t.complement

/-- The members that are ASCII characters. -/
def ascii (s : CharSet) : CharSet := s.intersection (range 0 0x7F)

end CharSet

/-- A set in its written form, and the names it has. -/
structure NamedSet where
  names : List String
  lines : List String

namespace NamedSet

def set (s : NamedSet) : CharSet := .ofLines s.lines

/-- The set of a name. -/
def find? (table : List NamedSet) (name : String) : Option CharSet :=
  (table.find? (·.names.contains name)).map (·.set)

end NamedSet

end ModuleBundler.Text
