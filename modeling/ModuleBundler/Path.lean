/-!
File paths as text. A path is a text whose pieces lie between separators. Empty pieces and `.`
name no step and are passed over, except that a leading `.` and a leading separator are kept:
they say where the path starts. So a path is its start followed by pieces, and what is asked of
its end (parent, file name, stem) is asked of the last piece that names a step.
-/

set_option autoImplicit false

namespace ModuleBundler

/-- A path, as the text it was given in. -/
structure Path where
  text : List Char
deriving DecidableEq, Repr, Inhabited

namespace Path

def ofString (s : String) : Path := ⟨s.toList⟩

def toString (p : Path) : String := String.ofList p.text

instance : ToString Path := ⟨toString⟩

/-! ## Pieces -/

/-- The pieces of a text between separators; there is always at least one. -/
def splitPieces : List Char → List (List Char)
  | [] => [[]]
  | c :: rest =>
    if c = '/' then [] :: splitPieces rest
    else match splitPieces rest with
      | piece :: more => (c :: piece) :: more
      | [] => [[c]]

/-- Pieces put back together with separators between them. -/
def joinPieces : List (List Char) → List Char
  | [] => []
  | [piece] => piece
  | piece :: rest => piece ++ '/' :: joinPieces rest

/-- A text has at least one piece. -/
theorem splitPieces_ne_nil (s : List Char) : splitPieces s ≠ [] := by
  cases s with
  | nil => simp [splitPieces]
  | cons c rest =>
    unfold splitPieces
    split
    · simp
    · split <;> simp

/-- Splitting a text and joining the pieces gives the text back. -/
theorem joinPieces_splitPieces (s : List Char) : joinPieces (splitPieces s) = s := by
  induction s with
  | nil => rfl
  | cons c rest ih =>
    obtain ⟨piece, more, hs⟩ := List.exists_cons_of_ne_nil (splitPieces_ne_nil rest)
    rw [hs] at ih
    by_cases h : c = '/'
    · simp [splitPieces, h, hs, joinPieces, ih]
    · cases more <;> simp_all [splitPieces, joinPieces]

/-- A piece that names no step. -/
def isIdle (piece : List Char) : Bool := piece == [] || piece == ['.']

/-- Where a path starts. -/
inductive Start where
  /-- At the root: the text begins with a separator. -/
  | root
  /-- At the working directory, said by a leading `.`. -/
  | here
  /-- At the working directory, unsaid. -/
  | implicit
deriving DecidableEq, Repr

/-- The text that says where a path starts. -/
def Start.text : Start → List Char
  | .root => ['/']
  | .here => ['.']
  | .implicit => []

/-- Where a path starts, and the text after that. -/
def start (p : Path) : Start × List Char :=
  match p.text with
  | '/' :: body => (.root, body)
  | ['.'] => (.here, [])
  | '.' :: '/' :: body => (.here, '/' :: body)
  | text => (.implicit, text)

/-- The pieces after the start from the last one back, idle ones at the end left out. -/
def backward (p : Path) : List (List Char) :=
  (splitPieces p.start.2).reverse.dropWhile isIdle

/-- A path from its start and the pieces after it, from the last one back. -/
def ofBackward (s : Start) (pieces : List (List Char)) : Path :=
  ⟨s.text ++ joinPieces (pieces.dropWhile isIdle).reverse⟩

/-- The path without its last step. Neither the root nor the empty path has one. -/
def parent? (p : Path) : Option Path :=
  match p.backward, p.start.1 with
  | _ :: before, s => some (ofBackward s before)
  | [], .here => some ⟨[]⟩
  | [], _ => none

/-- The name at the end of the path, unless that is no name but a step up. -/
def fileName? (p : Path) : Option (List Char) :=
  match p.backward with
  | piece :: _ => if piece == ['.', '.'] then none else some piece
  | [] => none

/-- A name without its extension: what stands before the last dot, unless nothing does. -/
def stemOf (name : List Char) : List Char :=
  match name.reverse.dropWhile (· != '.') with
  | [] => name
  | _dot :: before => if before.isEmpty then name else before.reverse

/-- The file name without its extension. -/
def fileStem? (p : Path) : Option (List Char) := p.fileName?.map stemOf

/-- Starts at the root. -/
def isAbsolute (p : Path) : Bool := p.text.head? == some '/'

/-- One path after another; an absolute one takes the place of what is before it. -/
def join (base p : Path) : Path :=
  if p.isAbsolute then p
  else if base.text.isEmpty || base.text.getLast? == some '/' then ⟨base.text ++ p.text⟩
  else ⟨base.text ++ '/' :: p.text⟩

/-- The path with another file name; a path without one gets it joined on. -/
def withFileName (p : Path) (name : List Char) : Path :=
  let base := if p.fileName?.isSome then p.parent?.getD p else p
  base.join ⟨name⟩

end Path

end ModuleBundler
