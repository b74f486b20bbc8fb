import ModuleBundler.Text.Property

/-!
Regular expressions over characters, and what they match. Matching does not pick one match: it
computes every place where a match that begins here can end, so greedy and lazy repetitions are
the same thing, and a repetition is the closure of its body under "one more round". A place is
the text that is left together with the character before it, which the assertions look at.
-/

set_option autoImplicit false

namespace ModuleBundler

namespace Regex

/-- White space of any writing system. -/
def isSpace (c : Char) : Bool := Text.whiteSpace.contains c

/-- What holds between two characters. What words are made of is part of an assertion about them. -/
inductive Assertion where
  | textStart
  | textEnd
  | lineStart
  | lineEnd
  /-- Lines may also end in a carriage return, or in one and a line feed after it. -/
  | anyLineStart
  | anyLineEnd
  | wordBoundary (words : Text.CharSet)
  | noWordBoundary (words : Text.CharSet)
  | wordStart (words : Text.CharSet)
  | wordEnd (words : Text.CharSet)
  /-- No word comes before. -/
  | wordStartHalf (words : Text.CharSet)
  /-- No word comes after. -/
  | wordEndHalf (words : Text.CharSet)
deriving Repr, DecidableEq

end Regex

/-- A regular expression. -/
inductive Regex where
  | empty
  | one (s : Text.CharSet)
  | assertion (a : Regex.Assertion)
  | sequence (a b : Regex)
  | choice (a b : Regex)
  | repetition (body : Regex) (least : Nat) (most : Option Nat)
deriving Repr, DecidableEq

namespace Regex

/-! ## Places -/

/-- A place in a text. -/
structure Place where
  before : Option Char
  rest : List Char
deriving Repr, DecidableEq

/-- The place one character further. -/
def Place.next? (p : Place) : Option (Char × Place) :=
  match p.rest with
  | c :: rest => some (c, ⟨some c, rest⟩)
  | [] => none

/-- The character before a place is one of a set. -/
def Place.follows (p : Place) (s : Text.CharSet) : Bool := p.before.elim false s.contains

/-- The character after a place is one of a set. -/
def Place.precedes (p : Place) (s : Text.CharSet) : Bool := p.rest.head?.elim false s.contains

/-- What an assertion says about a place. -/
def Assertion.holds (a : Assertion) (p : Place) : Bool :=
  let next := p.rest.head?
  match a with
  | .textStart => p.before.isNone
  | .textEnd => p.rest.isEmpty
  | .lineStart => p.before.isNone || p.before == some '\n'
  | .lineEnd => p.rest.isEmpty || next == some '\n'
  | .anyLineStart =>
    p.before.isNone || p.before == some '\n' || (p.before == some '\r' && next != some '\n')
  | .anyLineEnd =>
    p.rest.isEmpty || next == some '\r' || (next == some '\n' && p.before != some '\r')
  | .wordBoundary words => p.follows words != p.precedes words
  | .noWordBoundary words => p.follows words == p.precedes words
  | .wordStart words => !p.follows words && p.precedes words
  | .wordEnd words => p.follows words && !p.precedes words
  | .wordStartHalf words => !p.follows words
  | .wordEndHalf words => !p.precedes words

/-- Places of one text, each once. -/
def distinct (ps : List Place) : List Place :=
  ps.foldl (fun seen p =>
    if seen.any (·.rest.length == p.rest.length) then seen else seen ++ [p]) []

/-- Exactly so many rounds from some places. A round that leads back to where it began is the last
one that has to be taken. -/
def rounds (round : Place → List Place) : Nat → List Place → List Place
  | 0, ps => ps
  | n + 1, ps =>
    let next := distinct (ps.flatMap round)
    if next = ps then ps else rounds round n next

/-- At most so many rounds from some places. -/
def upTo (round : Place → List Place) : Nat → List Place → List Place
  | 0, ps => ps
  | n + 1, ps =>
    let more := distinct (ps ++ ps.flatMap round)
    if more.length = ps.length then ps else upTo round n more

/-- Where a match that begins at a place can end. A text has one place more than it has
characters, so that many rounds reach all that any number of rounds reaches. -/
def ends : Regex → Place → List Place
  | .empty, p => [p]
  | .one s, p =>
    match p.next? with
    | some (c, q) => if s.contains c then [q] else []
    | none => []
  | .assertion a, p => if a.holds p then [p] else []
  | .sequence a b, p => distinct ((a.ends p).flatMap b.ends)
  | .choice a b, p => distinct (a.ends p ++ b.ends p)
  | .repetition body least most, p =>
    let free := match most with
      | some most => most - least
      | none => p.rest.length + 1
    upTo body.ends free (rounds body.ends least [p])

/-- A match begins at a place or later. -/
def matchesFrom (r : Regex) (before : Option Char) : List Char → Bool
  | [] => !(r.ends ⟨before, []⟩).isEmpty
  | c :: rest => !(r.ends ⟨before, c :: rest⟩).isEmpty || matchesFrom r (some c) rest

/-- The text holds a match. -/
def isMatch (r : Regex) (text : List Char) : Bool := r.matchesFrom none text

end Regex

end ModuleBundler
