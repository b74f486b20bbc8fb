import ModuleBundler.Script.Node
import ModuleBundler.Text.Digit

/-!
The text of literals. A literal that was written is printed as it was, templates apart: the escapes
in a template are looked at once more, and some of those that begin with `\0` change.
-/

set_option autoImplicit false

namespace ModuleBundler.Script

/-! ## Strings -/

/-- One character of a string literal that was not written. -/
def escapedChar (c : Char) : List Char :=
  match c with
  | '\x08' => ['\\', 'b']
  | '\x0c' => ['\\', 'f']
  | '\n' => ['\\', 'n']
  | '\r' => ['\\', 'r']
  | '\t' => ['\\', 't']
  | '\x0b' => ['\\', 'v']
  | '"' => ['\\', '"']
  | '\\' => ['\\', '\\']
  | '\u2028' => "\\u2028".toList
  | '\u2029' => "\\u2029".toList
  | _ =>
    if c.toNat < 0x20 || (0x7f ≤ c.toNat && c.toNat ≤ 0xff) then
      ['\\', 'x', Text.hexDigit (c.toNat / 16), Text.hexDigit (c.toNat % 16)]
    else [c]

/-- The characters of a string literal that was not written. A backslash before a null character
stays alone, and the null character is lost. -/
def escaped : List Char → List Char
  | '\\' :: '\x00' :: rest => '\\' :: escaped rest
  | c :: rest => escapedChar c ++ escaped rest
  | [] => []

/-- The text of a string literal. -/
def StringLiteral.text (s : StringLiteral) : List Char :=
  match s.raw with
  | some raw => raw.toList
  | none => '"' :: escaped s.value.toList ++ ['"']

/-! ## Integers -/

/-- The text of an integer literal of any size. -/
def bigText (i : Int) : List Char := Text.decimalInt i ++ ['n']

/-! ## Templates -/

/-- The radix that a letter after `\0` marks, and how many digits it has at most. -/
def radixMark? (c : Char) : Option (Nat × Option Nat) :=
  match c with
  | 'b' => some (2, none)
  | 'o' => some (8, none)
  | 'x' => some (16, some 2)
  | _ => none

/-- The digits of a radix at the start of a text, at most so many. -/
def leadingDigits (radix : Nat) (limit : Option Nat) (cs : List Char) : List Nat :=
  let ds := (cs.takeWhile fun c => (Text.hexValue? c).any (· < radix)).filterMap Text.hexValue?
  limit.elim ds ds.take

/-- An escape with a radix mark; its number has 32 bits. -/
def radixEscape (mark : Char) (radix : Nat) (ds : List Nat) : List Char :=
  let n := ds.foldl (fun n d => n * radix + d) 0 % 0x100000000
  '\\' :: mark :: (if n = 0 ∧ radix = 16 then ['0', '0'] else Nat.toDigits radix n)

/-- The text of a piece of a template, of no more than so many characters. Of a line that ends in
two characters the second one is kept. What follows an escape that begins with `\0` is not looked
at. -/
def templateTextFrom : Nat → List Char → List Char
  | 0, cs => cs
  | fuel + 1, cs =>
    match cs with
    | '\r' :: '\n' :: rest => '\n' :: templateTextFrom fuel rest
    | '\\' :: '0' :: c :: rest =>
      match radixMark? c with
      | some (radix, limit) =>
        let ds := leadingDigits radix limit rest
        radixEscape c radix ds ++ (rest.drop ds.length).take 1 ++
          templateTextFrom fuel (rest.drop (ds.length + 1))
      | none => '\\' :: '0' :: c :: templateTextFrom fuel rest
    | '\\' :: c :: rest => '\\' :: c :: templateTextFrom fuel rest
    | c :: rest => c :: templateTextFrom fuel rest
    | [] => []

/-- The text of a piece of a template. -/
def templateText (raw : String) : List Char := templateTextFrom raw.toList.length raw.toList

end ModuleBundler.Script
