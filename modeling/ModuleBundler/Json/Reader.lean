import ModuleBundler.Json.Value

/-!
Reading documents. A document is one value between blanks, nested less than 128 deep. A reading
step takes the text that is left and gives a value with the text after it, or nothing; why a text
is no document is not told apart.

A number is read the way a 64-bit machine word allows: its digits are gathered as long as they fit
64 bits, and the value is that significand times or divided by a power of ten, both of them
rounded before the operation rounds once more.
-/

set_option autoImplicit false

namespace ModuleBundler.Json

/-- A reading step. -/
abbrev Step (α : Type) := List Char → Option (α × List Char)

/-! ## Blanks and literals -/

/-- A character that may stand between tokens. -/
def isSpace (c : Char) : Bool := c == ' ' || c == '\t' || c == '\n' || c == '\r'

def skipSpace (cs : List Char) : List Char := cs.dropWhile isSpace

/-- The text after a literal. -/
def literal (text : List Char) (v : Value) : Step Value := fun cs =>
  if text.isPrefixOf cs then some (v, cs.drop text.length) else none

/-! ## Strings -/

/-- Four hexadecimal digits. -/
def hexFour : Step Nat
  | a :: b :: c :: d :: rest => do
    let a ← Text.hexValue? a
    let b ← Text.hexValue? b
    let c ← Text.hexValue? c
    let d ← Text.hexValue? d
    return (((a * 16 + b) * 16 + c) * 16 + d, rest)
  | _ => none

/-- The rest of an escape after the backslash. A high surrogate has to be followed by a low one. -/
def escape : Step Char
  | '"' :: rest => some ('"', rest)
  | '\\' :: rest => some ('\\', rest)
  | '/' :: rest => some ('/', rest)
  | 'b' :: rest => some ('\x08', rest)
  | 'f' :: rest => some ('\x0c', rest)
  | 'n' :: rest => some ('\n', rest)
  | 'r' :: rest => some ('\r', rest)
  | 't' :: rest => some ('\t', rest)
  | 'u' :: rest => do
    let (n, rest) ← hexFour rest
    if n < 0xD800 || 0xDFFF < n then return (Char.ofNat n, rest)
    else if 0xDC00 ≤ n then none
    else match rest with
      | '\\' :: 'u' :: rest =>
        let (m, rest) ← hexFour rest
        if 0xDC00 ≤ m && m ≤ 0xDFFF then
          return (Char.ofNat (0x10000 + (n - 0xD800) * 0x400 + (m - 0xDC00)), rest)
        else none
      | _ => none
  | _ => none

/-- The rest of a string after its opening quote; `fuel` bounds the number of characters. -/
def stringBody : Nat → List Char → Step (List Char)
  | _, acc, '"' :: rest => some (acc.reverse, rest)
  | fuel + 1, acc, '\\' :: rest =>
    match escape rest with
    | some (c, rest) => stringBody fuel (c :: acc) rest
    | none => none
  | fuel + 1, acc, c :: rest => if c.toNat < 0x20 then none else stringBody fuel (c :: acc) rest
  | _, _, _ => none

/-- A string, its opening quote already taken. -/
def string (cs : List Char) : Option (String × List Char) :=
  (stringBody cs.length [] cs).map fun (s, rest) => (String.ofList s, rest)

/-! ## Numbers -/

def isDigit (c : Char) : Bool := '0' ≤ c && c ≤ '9'

/-- The bound of a 64-bit word. -/
def wordBound : Nat := 0x10000000000000000

/-- Gathers digits while the significand fits a word; says how many of them did not. -/
def gather (significand : Nat) : List Char → Nat × Nat
  | [] => (significand, 0)
  | c :: rest =>
    let next := significand * 10 + Text.decimalValue c
    if next < wordBound then gather next rest else (significand, rest.length + 1)

/-- The greatest power of ten that is a finite value. -/
def greatestTen : Nat := 308

/-- A significand scaled by a power of ten, or nothing if the result is infinite. Powers beyond the
greatest one are taken off in steps; `fuel` bounds their number. -/
def scaled (fuel : Nat) (value : Binary64) (power : Int) : Option Binary64 :=
  if power.natAbs ≤ greatestTen then
    let ten := Binary64.ofNat (tenTo power.natAbs)
    if 0 ≤ power then
      let product := value.mul ten
      if product.isInfinite then none else some product
    else some (value.div ten)
  else if value == .zero then some value
  else if 0 ≤ power then none
  else match fuel with
    | 0 => some .zero
    | fuel + 1 => scaled fuel (value.div (Binary64.ofNat (tenTo greatestTen))) (power + greatestTen)

/-- Powers beyond this bound overflow the exponent's own 32-bit word. -/
def powerBound : Int := 0x80000000

/-- The value of the parts of a number. -/
def numberValue (negative : Bool) (whole fraction : List Char)
    (exponent : Option (Bool × List Char)) : Option Value :=
  let (significand, skipped) := gather 0 whole
  if fraction.isEmpty && exponent.isNone && skipped = 0 then
    if negative then
      if significand = 0 || 0x8000000000000000 < significand then
        some (.real (Binary64.ofNat significand).neg)
      else some (.integer (-significand))
    else some (.integer significand)
  else
    let (significand, dropped) := gather significand fraction
    let base : Int := (skipped : Int) - (fraction.length - dropped : Nat)
    let finish (power : Int) : Option Value :=
      (scaled 8 (Binary64.ofNat significand) power).map fun r =>
        .real (if negative then r.neg else r)
    match exponent with
    | none => finish base
    | some (down, digits) =>
      let e : Int := digits.foldl (fun n c => n * 10 + Text.decimalValue c) 0
      if powerBound ≤ e then
        if significand ≠ 0 && !down then none
        else some (.real (if negative then Binary64.zero.neg else .zero))
      else finish (if down then base - e else base + e)

/-- The exponent of a number, if there is one. -/
def exponent : Step (Option (Bool × List Char))
  | c :: rest =>
    if c = 'e' || c = 'E' then
      let (down, rest) := match rest with
        | '-' :: rest => (true, rest)
        | '+' :: rest => (false, rest)
        | _ => (false, rest)
      let digits := rest.takeWhile isDigit
      if digits.isEmpty then none else some (some (down, digits), rest.dropWhile isDigit)
    else some (none, c :: rest)
  | [] => some (none, [])

/-- A number, its sign already taken. A leading zero stands alone. -/
def number (negative : Bool) (cs : List Char) : Option (Value × List Char) := do
  let whole := cs.takeWhile isDigit
  let rest := cs.dropWhile isDigit
  if whole.isEmpty || (whole.head? == some '0' && whole.length ≠ 1) then none
  let (fraction, rest) ← match rest with
    | '.' :: rest =>
      let digits := rest.takeWhile isDigit
      if digits.isEmpty then none else some (digits, rest.dropWhile isDigit)
    | _ => some ([], rest)
  let (e, rest) ← exponent rest
  let v ← numberValue negative whole fraction e
  return (v, rest)

/-! ## Values -/

/-- The elements of an array after its bracket and at least one value to come; `fuel` bounds their
number. -/
def elements (value : Step Value) : Nat → List Value → Step (List Value)
  | 0, _, _ => none
  | fuel + 1, acc, cs => do
    let (v, rest) ← value cs
    match skipSpace rest with
    | ',' :: rest => elements value fuel (v :: acc) rest
    | ']' :: rest => some ((v :: acc).reverse, rest)
    | _ => none

/-- The fields of an object after its brace and at least one field to come. -/
def fields (value : Step Value) : Nat → List (String × Value) → Step (List (String × Value))
  | 0, _, _ => none
  | fuel + 1, acc, cs => do
    match skipSpace cs with
    | '"' :: rest =>
      let (k, rest) ← string rest
      match skipSpace rest with
      | ':' :: rest =>
        let (v, rest) ← value rest
        match skipSpace rest with
        | ',' :: rest => fields value fuel ((k, v) :: acc) rest
        | '\x7d' :: rest => some (((k, v) :: acc).reverse, rest)
        | _ => none
      | _ => none
    | _ => none

/-- A value nested at most `depth` deep. -/
def value : Nat → Step Value
  | depth, cs =>
    match skipSpace cs with
    | 'n' :: rest => literal "ull".toList .null rest
    | 't' :: rest => literal "rue".toList (.bool true) rest
    | 'f' :: rest => literal "alse".toList (.bool false) rest
    | '"' :: rest => (string rest).map fun (s, rest) => (.string s, rest)
    | '-' :: rest => number true rest
    | '[' :: rest =>
      match depth with
      | 0 => none
      | depth + 1 =>
        match skipSpace rest with
        | ']' :: rest => some (.array [], rest)
        | rest =>
          (elements (value depth) rest.length [] rest).map fun (vs, rest) => (.array vs, rest)
    | '\x7b' :: rest =>
      match depth with
      | 0 => none
      | depth + 1 =>
        match skipSpace rest with
        | '\x7d' :: rest => some (.object [], rest)
        | rest =>
          (fields (value depth) rest.length [] rest).map fun (fs, rest) => (.object fs, rest)
    | rest => number false rest

/-- How deep a document may be nested. -/
def depthLimit : Nat := 127

/-- Reads a whole document. -/
def Value.ofText? (cs : List Char) : Option Value :=
  match value depthLimit cs with
  | some (v, rest) => if (skipSpace rest).isEmpty then some v else none
  | none => none

end ModuleBundler.Json
