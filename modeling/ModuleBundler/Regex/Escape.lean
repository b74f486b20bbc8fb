import ModuleBundler.Regex.Flags
import ModuleBundler.Text.Classes
import ModuleBundler.Text.Digit

/-!
Escapes of regular expressions: what a backslash and the signs after it stand for.
-/

set_option autoImplicit false

namespace ModuleBundler.Regex

/-- What an escape stands for. -/
inductive Escape where
  | char (c : Char)
  | set (s : Text.CharSet)
  | assertion (a : Assertion)

namespace Escape

/-! ## Characters -/

/-- The character of a code point. -/
def charOf? (n : Nat) : Option Char :=
  if n < 0xD800 || (0xDFFF < n && n < 0x110000) then some (Char.ofNat n) else none

/-- A fixed number of characters, without what is skipped before each of them. -/
def takeExactly (f : Flags) : Nat → List Char → Option (List Char × List Char)
  | 0, cs => some ([], cs)
  | n + 1, cs =>
    match f.skip cs with
    | [] => none
    | c :: rest => (takeExactly f n rest).map fun (text, rest) => (c :: text, rest)

/-- A character by its code point: between braces, or with a fixed number of digits. Two digits
stand for a byte where only ASCII is known, and that has to be a character. -/
def readCode (f : Flags) (count : Nat) (cs : List Char) : Option (Char × List Char) :=
  match f.skip cs with
  | '\x7b' :: rest => do
    let (digits, rest) ← f.upTo '\x7d' (rest.length + 1) rest
    if digits.isEmpty then none
    else return (← charOf? (← Text.hexNumber? digits), rest)
  | cs => do
    let (digits, rest) ← takeExactly f count cs
    let c ← charOf? (← Text.hexNumber? digits)
    if !f.unicode && count = 2 && 0x7F < c.toNat then none
    else return (c, rest)

/-- Characters that may be escaped to stand for themselves: all of ASCII but letters, digits and
angle brackets. -/
def isEscapable (c : Char) : Bool :=
  c.toNat < 0x80 && !(Text.isAsciiLetter c || Text.isAsciiDigit c || c == '<' || c == '>')

/-! ## Properties -/

/-- What stands before the first of some signs, and what follows it. -/
def splitAt? (sign : List Char) : List Char → Option (List Char × List Char)
  | [] => none
  | c :: rest =>
    if sign.isPrefixOf (c :: rest) then some ([], (c :: rest).drop sign.length)
    else (splitAt? sign rest).map fun (before, after) => (c :: before, after)

/-- The characters with a property: one that characters have or have not, or a property and a
value of it. Which of three signs stands between the two makes no difference. -/
def property? (name : List Char) : Option Text.CharSet :=
  let parts := (splitAt? "!=".toList name).or
    ((splitAt? [':'] name).or (splitAt? ['='] name))
  match parts with
  | some (property, value) => Text.Property.ofValue? property value
  | none => Text.Property.ofName? name

/-- A set by the name of a property: a name in braces, or a single letter. -/
def readProperty (f : Flags) (cs : List Char) : Option (Text.CharSet × List Char) :=
  match f.skip cs with
  | [] => none
  | '\x7b' :: rest => do
    let (name, rest) ← f.upTo '\x7d' (rest.length + 1) rest
    return (f.fold (← property? name), rest)
  | c :: rest => do return (f.fold (← property? [c]), rest)

/-! ## Assertions -/

/-- An assertion about words, by its name in braces after `b`. What stands in the braces is such a
name if it begins with a letter or a hyphen; otherwise the braces are a repetition. -/
def readWordAssertion (f : Flags) (cs : List Char) : Option (Assertion × List Char) :=
  let isNamePart (c : Char) : Bool := Text.isAsciiLetter c || c == '-'
  match cs with
  | '\x7b' :: rest =>
    let (name, rest) := f.takeWhile isNamePart (rest.length + 1) (f.skip rest)
    match name, rest with
    | [], [] => none
    | [], _ => some (.wordBoundary f.words, cs)
    | name, '\x7d' :: rest =>
      match String.ofList name with
      | "start" => some (.wordStart f.words, rest)
      | "end" => some (.wordEnd f.words, rest)
      | "start-half" => some (.wordStartHalf f.words, rest)
      | "end-half" => some (.wordEndHalf f.words, rest)
      | _ => none
    | _, _ => none
  | cs => some (.wordBoundary f.words, cs)

/-! ## All escapes -/

/-- An escape after its backslash. Where only ASCII is known, no set may be turned around: it
would hold parts of characters. -/
def read (f : Flags) : List Char → Option (Escape × List Char)
  | [] => none
  | c :: rest =>
    let set (s : Text.CharSet) := some (Escape.set (f.known s), rest)
    let others (s : Text.CharSet) :=
      if f.unicode then some (Escape.set s.complement, rest) else none
    let property :=
      if f.unicode then readProperty f rest else none
    if isEscapable c then some (.char c, rest)
    else match c with
      | 'd' => set Text.decimalNumbers
      | 'D' => others Text.decimalNumbers
      | 's' => set Text.whiteSpace
      | 'S' => others Text.whiteSpace
      | 'w' => set Text.Property.words
      | 'W' => others Text.Property.words
      | 'A' => some (.assertion .textStart, rest)
      | 'z' => some (.assertion .textEnd, rest)
      | 'p' => property.map fun (s, rest) => (.set s, rest)
      | 'P' => property.map fun (s, rest) => (.set s.complement, rest)
      | '<' => some (.assertion (.wordStart f.words), rest)
      | '>' => some (.assertion (.wordEnd f.words), rest)
      | 'b' => (readWordAssertion f rest).map fun (a, rest) => (.assertion a, rest)
      | 'B' => some (.assertion (.noWordBoundary f.words), rest)
      | 'a' => some (.char '\x07', rest)
      | 'f' => some (.char '\x0c', rest)
      | 't' => some (.char '\t', rest)
      | 'n' => some (.char '\n', rest)
      | 'r' => some (.char '\r', rest)
      | 'v' => some (.char '\x0b', rest)
      | 'x' => (readCode f 2 rest).map fun (c, rest) => (.char c, rest)
      | 'u' => (readCode f 4 rest).map fun (c, rest) => (.char c, rest)
      | 'U' => (readCode f 8 rest).map fun (c, rest) => (.char c, rest)
      | _ => none

end Escape

end ModuleBundler.Regex
