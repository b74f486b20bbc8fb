import ModuleBundler.Regex.Basic
import ModuleBundler.Text.Unicode.LetterCase

/-!
Flags of regular expressions, and what they say about reading: whether case counts, whether
characters beyond ASCII are known, and whether blanks and comments stand between the signs of an
expression.
-/

set_option autoImplicit false

namespace ModuleBundler.Regex

/-- How atoms are read. -/
structure Flags where
  ignoreCase : Bool := false
  multiLine : Bool := false
  dotAll : Bool := false
  anyLineEnd : Bool := false
  unicode : Bool := true
  free : Bool := false
deriving Repr, DecidableEq

namespace Flags

/-- Sets or clears one flag; the flag that swaps greedy and lazy has no effect on what matches. -/
def with? (f : Flags) (c : Char) (on : Bool) : Option Flags :=
  match c with
  | 'i' => some { f with ignoreCase := on }
  | 'm' => some { f with multiLine := on }
  | 's' => some { f with dotAll := on }
  | 'R' => some { f with anyLineEnd := on }
  | 'u' => some { f with unicode := on }
  | 'x' => some { f with free := on }
  | 'U' => some f
  | _ => none

/-- Reads flags up to the character that ends them. No flag may be written twice, and something
has to follow the minus that clears flags. -/
def read (f : Flags) (on : Bool) (seen : List Char) :
    List Char → Option (Flags × List Char × Char × List Char)
  | [] => none
  | c :: rest =>
    if c = ')' || c = ':' then
      if seen.head? == some '-' then none else some (f, seen, c, rest)
    else if seen.contains c then none
    else if c = '-' then f.read false (c :: seen) rest
    else match f.with? c on with
      | some f => f.read on (c :: seen) rest
      | none => none

/-! ## Sets -/

/-- The characters that a set stands for. Where only ASCII is known, only the case of its letters
can be ignored. -/
def fold (f : Flags) (s : Text.CharSet) : Text.CharSet :=
  if !f.ignoreCase then s
  else if f.unicode then s.folded
  else .unions [s, s.ascii.folded.ascii]

/-- As much of a set as is known. -/
def known (f : Flags) (s : Text.CharSet) : Text.CharSet := if f.unicode then s else s.ascii

/-- What words are made of. -/
def words (f : Flags) : Text.CharSet := f.known Text.Property.words

/-! ## Blanks -/

/-- Skips blanks and comments where they mean nothing. -/
def skip (f : Flags) (cs : List Char) : List Char :=
  if f.free then go cs.length cs else cs
where
  go : Nat → List Char → List Char
    | fuel + 1, c :: rest =>
      if isSpace c then go fuel rest
      else if c = '#' then go fuel (rest.dropWhile (· != '\n'))
      else c :: rest
    | _, cs => cs

/-- The text up to the next sign that ends it, without what is skipped, and what follows that
sign; `fuel` bounds the characters. -/
def upTo (f : Flags) (stop : Char) : Nat → List Char → Option (List Char × List Char)
  | 0, _ => none
  | fuel + 1, cs =>
    match f.skip cs with
    | [] => none
    | c :: rest =>
      if c = stop then some ([], rest)
      else (f.upTo stop fuel rest).map fun (text, rest) => (c :: text, rest)

/-- The longest run of characters that pass a test, without what is skipped between them and after
them; `fuel` bounds the characters. -/
def takeWhile (f : Flags) (test : Char → Bool) : Nat → List Char → List Char × List Char
  | fuel + 1, c :: rest =>
    if test c then
      let (text, rest) := f.takeWhile test fuel (f.skip rest)
      (c :: text, rest)
    else ([], c :: rest)
  | _, cs => ([], cs)

end Flags

end ModuleBundler.Regex
