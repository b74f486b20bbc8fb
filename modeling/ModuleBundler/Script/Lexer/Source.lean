import ModuleBundler.Script.SyntaxError

/-!
Sources, and steps that take characters from them. A source is the text that is left with the
position of its first character. A step may complain and may fail; either way what it took stays
taken, so after a failure the source says where the text broke off.

Every loop over a source is bounded by `fuel`, the number of characters there are.
-/

set_option autoImplicit false

namespace ModuleBundler

/-! ## Blanks and line breaks -/

namespace Text

/-- Line breaks: line feed, carriage return, line separator, paragraph separator. They end a line
of a script, and may end a statement. -/
def isLineBreak (c : Char) : Bool :=
  c == '\n' || c == '\r' || c == '\u2028' || c == '\u2029'

/-- Blanks: tab, vertical tab, form feed, the byte order mark and every space separator. They only
separate. -/
def isBlank (c : Char) : Bool :=
  c == ' ' || c == '\t' || c == '\x0b' || c == '\x0c' || c == '\xa0' || c == '\ufeff' ||
    c == '\u1680' || ('\u2000' ≤ c && c ≤ '\u200a') || c == '\u202f' || c == '\u205f' ||
    c == '\u3000'

end Text

/-! ## Sources -/

namespace Script

/-- A text that is left to read, and where it stands. -/
structure Source where
  rest : List Char
  position : Position
deriving Repr, Inhabited

namespace Source

/-- A whole text. A byte order mark at its start does not count. -/
def ofText (cs : List Char) : Source :=
  match cs with
  | '\ufeff' :: rest => ⟨rest, ⟨1, 1⟩⟩
  | cs => ⟨cs, ⟨1, 1⟩⟩

/-- The source after one character. -/
def next (s : Source) : Source :=
  match s.rest with
  | c :: rest => ⟨rest, s.position.after c⟩
  | [] => s

/-- The source after several characters. -/
def drop (s : Source) : Nat → Source
  | 0 => s
  | n + 1 => s.next.drop n

/-- The source goes on with a text. -/
def startsWith (s : Source) (text : String) : Bool := text.toList.isPrefixOf s.rest

end Source

/-- How far scanning has come. -/
structure Scanner where
  source : Source
  complaints : List Fault := []

/-- A step of scanning. -/
abbrev Scan := ExceptT Fault (StateM Scanner)

namespace Scan

/-- The source that is left. -/
def source : Scan Source := return (← get).source

/-- The characters that are left. -/
def rest : Scan (List Char) := return (← get).source.rest

/-- The next character. -/
def next? : Scan (Option Char) := return (← get).source.rest.head?

/-- Where the next character stands. -/
def position : Scan Position := return (← get).source.position

/-- A bound on the steps that are left. -/
def fuel : Scan Nat := return (← get).source.rest.length + 1

/-- Takes characters. -/
def skip (n : Nat) : Scan Unit := modify fun s => { s with source := s.source.drop n }

/-- Takes the characters of a kind that stand at the start. -/
def takeWhile (p : Char → Bool) : Scan (List Char) := do
  let taken := (← rest).takeWhile p
  skip taken.length
  return taken

/-- Takes a character if it is the next one. -/
def accept (c : Char) : Scan Bool := do
  if (← next?) == some c then
    skip 1
    return true
  return false

/-- Ends scanning with an error at a position. -/
def failAt {α : Type} (e : SyntaxError) (p : Position) : Scan α := throw ⟨e, p⟩

/-- Notes an error and goes on. -/
def complain (e : SyntaxError) (p : Position) : Scan Unit :=
  modify fun s => { s with complaints := s.complaints ++ [⟨e, p⟩] }

/-- The characters that a step takes, with what it yields. -/
def taken {α : Type} (x : Scan α) : Scan (List Char × α) := do
  let before ← rest
  let a ← x
  return (before.take (before.length - (← rest).length), a)

end Scan

end Script

end ModuleBundler
