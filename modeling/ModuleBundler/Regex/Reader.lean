import ModuleBundler.Regex.Bracket
import ModuleBundler.Regex.Measured

/-!
The written form of regular expressions. An expression is a choice of sequences of repeated atoms;
flags written in a group hold to its end. A text that is no expression, or one beyond the limits,
is refused without saying why. Look-around and references to groups are refused.
-/

set_option autoImplicit false

namespace ModuleBundler.Regex

/-! ## Repetitions -/

/-- Skips blanks between the signs of a count, and what is skipped everywhere. -/
def skipBlanks (f : Flags) (cs : List Char) : List Char := f.skip (cs.dropWhile isSpace)

/-- A decimal number between blanks. -/
def readCount (f : Flags) (cs : List Char) : Option (Nat × List Char) :=
  let cs := skipBlanks f cs
  let (digits, rest) := f.takeWhile Text.isAsciiDigit cs.length cs
  let n := digits.foldl (fun n c => n * 10 + Text.decimalValue c) 0
  if digits.isEmpty || 0x100000000 ≤ n then none else some (n, skipBlanks f rest)

/-- The counts of a repetition after its brace. -/
def readCounts (f : Flags) (cs : List Char) : Option (Nat × Option Nat × List Char) := do
  let (least, rest) ← readCount f cs
  match rest with
  | '\x7d' :: rest => some (least, some least, f.skip rest)
  | ',' :: rest =>
    match f.skip rest with
    | '\x7d' :: rest => some (least, none, f.skip rest)
    | rest =>
      match ← readCount f rest with
      | (most, '\x7d' :: rest) =>
        if least ≤ most then some (least, some most, f.skip rest) else none
      | _ => none
  | _ => none

/-- A mark that makes a repetition lazy changes nothing. -/
def skipLazy : List Char → List Char
  | '?' :: rest => rest
  | cs => cs

/-- A repetition by its sign: how often at least and at most, and the rest of the text. The outer
result says whether there is such a sign, and the inner one whether it is used right. -/
def readRepetition (f : Flags) : List Char → Option (Option (Nat × Option Nat × List Char))
  | '*' :: rest => some (some (0, none, skipLazy rest))
  | '+' :: rest => some (some (1, none, skipLazy rest))
  | '?' :: rest => some (some (0, some 1, skipLazy rest))
  | '\x7b' :: rest =>
    some ((readCounts f rest).map fun (least, most, rest) => (least, most, skipLazy rest))
  | _ => none

/-! ## Drafts -/

/-- What has been read of a group: finished alternatives, and the items of the current one, each
from the last back. Flags leave an item that cannot be repeated. -/
structure Draft where
  choices : List Measured := []
  items : List (Option Measured) := []

namespace Draft

/-- The draft with the current alternative finished. -/
def next (d : Draft) : Draft := ⟨Measured.sequence d.items.reverse :: d.choices, []⟩

/-- All alternatives. -/
def finish (d : Draft) : Measured := Measured.choice d.next.choices.reverse

/-- The draft with one more item. -/
def push (d : Draft) (m : Measured) : Draft := { d with items := some m :: d.items }

/-- The draft with flags as one more item. -/
def pushFlags (d : Draft) : Draft := { d with items := none :: d.items }

/-- Repeats the last item. -/
def repeat? (d : Draft) (least : Nat) (most : Option Nat) : Option Draft :=
  match d.items with
  | some m :: before => some { d with items := some (m.repetition least most) :: before }
  | _ => none

end Draft

/-! ## Atoms -/

/-- The name of a group, up to its closing bracket. -/
def readGroupName (names : List (List Char)) (cs : List Char) :
    Option (List (List Char) × List Char) :=
  let name := cs.takeWhile (· != '>')
  match name, cs.drop name.length with
  | first :: more, _ :: rest =>
    let isStart (c : Char) : Bool := c == '_' || Text.Property.alphabetic.contains c
    let isPart (c : Char) : Bool :=
      isStart c || ".[]".toList.contains c || Text.Property.numbers.contains c
    if isStart first && more.all isPart && !names.contains name then some (name :: names, rest)
    else none
  | _, _ => none

/-- A character that stands for itself. -/
def literal (f : Flags) (c : Char) : Measured := .ofSet (f.fold (.range c.toNat c.toNat)) 0

/-- Any character, the ends of lines apart unless flags say otherwise. Where only ASCII is known,
that would be parts of characters too. -/
def anyCharacter? (f : Flags) : Option Measured :=
  let lineFeed : Text.CharSet := .range 0x0A 0x0A
  let lineEnds : Text.CharSet :=
    if f.dotAll then .unions []
    else if f.anyLineEnd then .unions [lineFeed, .range 0x0D 0x0D]
    else lineFeed
  if f.unicode then some (.ofSet lineEnds.complement 0) else none

/-- What a caret says. -/
def caret (f : Flags) : Assertion :=
  if !f.multiLine then .textStart else if f.anyLineEnd then .anyLineStart else .lineStart

/-- What a dollar sign says. -/
def dollar (f : Flags) : Assertion :=
  if !f.multiLine then .textEnd else if f.anyLineEnd then .anyLineEnd else .lineEnd

/-- An atom that is no group. -/
def readAtom (f : Flags) : List Char → Option (Measured × List Char)
  | [] => none
  | '[' :: rest =>
    (Bracket.read f (rest.length + 1) rest).map fun (b, rest) => (.ofSet b.set b.depth, rest)
  | '\\' :: rest =>
    (Escape.read f rest).map fun (e, rest) =>
      (match e with
        | .char c => literal f c
        | .set s => .ofSet s 0
        | .assertion a => .ofAssertion a, rest)
  | '.' :: rest => (anyCharacter? f).map fun m => (m, rest)
  | '^' :: rest => some (.ofAssertion (caret f), rest)
  | '$' :: rest => some (.ofAssertion (dollar f), rest)
  | c :: rest => some (literal f c, rest)

/-! ## Expressions -/

/-- The expression of a group up to its end: a closing parenthesis inside a group, the end of the
text outside of all. Every call takes at least one character; `fuel` bounds them. -/
def readBody : Nat → Flags → Bool → List (List Char) → Draft → List Char →
    Option (Measured × List (List Char) × List Char)
  | 0, _, _, _, _, _ => none
  | fuel + 1, f, inside, names, d, cs =>
    let cs := f.skip cs
    match readRepetition f cs with
    | some (some (least, most, rest)) =>
      match d.repeat? least most with
      | some d => readBody fuel f inside names d rest
      | none => none
    | some none => none
    | none =>
      match cs with
      | [] => if inside then none else some (d.finish, names, [])
      | ')' :: rest => if inside then some (d.finish, names, rest) else none
      | '|' :: rest => readBody fuel f inside names d.next rest
      | '(' :: rest =>
        let group (captures : Bool) (g : Flags) (names : List (List Char)) (rest : List Char) :=
          match readBody fuel g true names {} rest with
          | some (m, names, rest) => readBody fuel f inside names (d.push (m.group captures)) rest
          | none => none
        let named (rest : List Char) :=
          match readGroupName names rest with
          | some (names, rest) => group true f names rest
          | none => none
        match f.skip rest with
        | '?' :: 'P' :: '<' :: rest => named rest
        | '?' :: '<' :: rest => named rest
        | '?' :: rest =>
          match f.read true [] rest with
          | some (g, _, ':', rest) => group false g names rest
          | some (g, seen, _, rest) =>
            if seen.isEmpty then none else readBody fuel g inside names d.pushFlags rest
          | none => none
        | rest => group true f names rest
      | cs =>
        match readAtom f cs with
        | some (m, rest) => readBody fuel f inside names (d.push m) rest
        | none => none

/-- Reads a regular expression. -/
def ofText? (text : List Char) : Option Regex := do
  let (m, _) ← readBody (text.length + 1) {} false [] {} text
  if m.isAcceptable then some m.regex else none

end ModuleBundler.Regex
