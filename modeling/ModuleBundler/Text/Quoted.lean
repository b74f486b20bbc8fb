import ModuleBundler.Text.Classes

/-!
Quoted text for messages and listings: a text or a single character between quotes, in which
everything a reader could not see or could mistake is written as an escape. The two forms differ
only in the quote that has to be escaped.
-/

set_option autoImplicit false

namespace ModuleBundler.Text

/-- One character inside quotes of the given kind. -/
def quotedChar (quote c : Char) : List Char :=
  if c == quote || c == '\\' then ['\\', c]
  else match c with
    | '\t' => ['\\', 't']
    | '\r' => ['\\', 'r']
    | '\n' => ['\\', 'n']
    | '\x00' => ['\\', '0']
    | _ =>
      if isExtending c || !isPrintable c then
        ['\\', 'u', '\x7b'] ++ Nat.toDigits 16 c.toNat ++ ['\x7d']
      else [c]

/-- A text between double quotes. -/
def quoted (s : List Char) : List Char := '"' :: s.flatMap (quotedChar '"') ++ ['"']

/-- A character between single quotes. -/
def quotedAlone (c : Char) : List Char := '\'' :: quotedChar '\'' c ++ ['\'']

end ModuleBundler.Text
