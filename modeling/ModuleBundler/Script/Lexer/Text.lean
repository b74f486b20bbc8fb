import ModuleBundler.Script.Lexer.Number

/-!
Escapes and the texts that hold them: strings and the pieces of templates.

A string has a value and a written form. A piece of a template has a written form alone, and an
escape in it may mean nothing; there a hexadecimal escape `\xHH` is kept as `\0xHH`, and separators
among its digits are dropped.
-/

set_option autoImplicit false

namespace ModuleBundler.Script

namespace Escape

/-- A fixed number of hexadecimal digits. -/
def hexDigits (count : Nat) (start : Position) : Scan Nat := do
  let ds ← Digits.takeAtMost 16 count
  if ds.length = count then return Digits.value 16 ds
  Scan.failAt (.expectedHexDigits count) start

/-- The greatest code point. -/
def greatestCodePoint : Nat := 0x10FFFF

/-- The code point of a unicode escape after its `u`: four digits, or any number of them in
braces, of which 32 bits count. -/
def unicode (start : Position) : Scan Nat := do
  unless ← Scan.accept '\x7b' do return ← hexDigits 4 start
  let inside ← Scan.position
  let ds ← Digits.take 16
  let n := Digits.value 16 ds % twoTo 32
  if ds.isEmpty || greatestCodePoint < n then Scan.failAt .invalidCodePoint inside
  unless ← Scan.accept '\x7d' do Scan.failAt .invalidUnicodeEscape start
  return n

/-- The second half of a surrogate pair, if an escape of one follows. -/
def lowSurrogate? (start : Position) : Scan (Option Nat) := do
  let before ← get
  if before.source.startsWith "\\u" then
    Scan.skip 2
    let low ← tryCatch (some <$> unicode start) fun _ => pure none
    if low.any fun n => 0xDC00 ≤ n && n ≤ 0xDFFF then return low
    set before
  return none

/-- The character of a code point. A surrogate pair written as two escapes is one character. -/
def character (start : Position) (n : Nat) : Scan Char := do
  unless 0xD800 ≤ n && n ≤ 0xDBFF do return Char.ofNat n
  match ← lowSurrogate? start with
  | some low => return Char.ofNat (0x10000 + (n - 0xD800) * 0x400 + (low - 0xDC00))
  | none => return Char.ofNat n

/-- The character of octal digits, at most three of them and below 256. -/
def octal : Scan Char := do
  let ds := ((← Scan.rest).take 3).filterMap (Digits.valueOf? 8 ·)
  let run := (((← Scan.rest).take 3).takeWhile fun c => (Digits.valueOf? 8 c).isSome).length
  let n := if Digits.value 8 (ds.take run) < 256 then run else 2
  Scan.skip n
  return Char.ofNat (Digits.value 8 (ds.take n))

/-- What the character after a backslash stands for, where it stands for a control character. -/
def control? (c : Char) : Option Char :=
  match c with
  | 'n' => some '\n'
  | 'r' => some '\r'
  | 't' => some '\t'
  | 'b' => some '\x08'
  | 'v' => some '\x0b'
  | 'f' => some '\x0c'
  | _ => none

/-- An octal digit. -/
def isOctal (c : Char) : Bool := '0' ≤ c && c ≤ '7'

/-- Takes an escape, its backslash included, and yields what it stands for. An escaped end of line
stands for nothing. -/
def scan (strict : Bool) : Scan (List Char) := do
  let start ← Scan.position
  Scan.skip 1
  match ← Scan.rest with
  | [] => Scan.failAt .unterminatedEscape start
  | '\r' :: '\n' :: _ =>
    Scan.skip 2
    return []
  | 'x' :: _ =>
    Scan.skip 1
    return [Char.ofNat (← hexDigits 2 start)]
  | 'u' :: _ =>
    Scan.skip 1
    return [← character start (← unicode start)]
  | c :: after =>
    if Text.isLineBreak c then
      Scan.skip 1
      return []
    else if isOctal c then
      if c == '0' && !(after.head?.any isOctal) then
        Scan.skip 1
        return ['\x00']
      if strict then Scan.complain .legacyOctal start
      return [← octal]
    else
      Scan.skip 1
      return [(control? c).getD c]

/-- The form in which a piece of a template keeps an escape. -/
def keptForm (written : List Char) : List Char :=
  match written with
  | '\\' :: 'x' :: ds => '\\' :: '0' :: 'x' :: ds.filter (· != '_')
  | '\\' :: 'u' :: ds => '\\' :: 'u' :: ds.filter (· != '_')
  | written => written

/-- Takes an escape in a template, whether it means something or not. -/
def scanKept : Scan (List Char) := do
  let (written, _) ← Scan.taken (tryCatch (scan false) fun _ => pure [])
  return keptForm written

end Escape

namespace Token

/-! ## Strings -/

/-- Takes a string after its opening quote; yields its value, from the last character back. -/
def scanStringBody (strict : Bool) (quote : Char) (start : Position) :
    Nat → List Char → Scan (List Char)
  | 0, _ => Scan.failAt .unterminatedString start
  | fuel + 1, value => do
    match ← Scan.next? with
    | none => Scan.failAt .unterminatedString start
    | some c =>
      if c = quote then
        Scan.skip 1
        return value
      else if c = '\\' then
        scanStringBody strict quote start fuel ((← Escape.scan strict).reverse ++ value)
      else if c = '\n' || c = '\r' then Scan.failAt .unterminatedString start
      else
        Scan.skip 1
        scanStringBody strict quote start fuel (c :: value)

/-- A string. Its written form is the text it was read from. -/
def scanString (strict : Bool) (quote : Char) : Scan Token := do
  let start ← Scan.position
  let (raw, value) ← Scan.taken do
    Scan.skip 1
    scanStringBody strict quote start (← Scan.fuel) []
  return .string ⟨String.ofList value.reverse, some (String.ofList raw)⟩

/-! ## Templates -/

/-- Takes a piece of a template up to the mark that ends it; yields its text, from the last
character back. A lone carriage return ends a line as a line feed does. -/
def scanTemplateBody (start : Position) : Nat → List Char → Scan (List Char)
  | 0, _ => Scan.failAt .unterminatedTemplate start
  | fuel + 1, raw => do
    match ← Scan.rest with
    | [] => Scan.failAt .unterminatedTemplate start
    | '`' :: _ => return raw
    | '$' :: '\x7b' :: _ => return raw
    | '\\' :: _ => scanTemplateBody start fuel ((← Escape.scanKept).reverse ++ raw)
    | '\r' :: '\n' :: _ =>
      Scan.skip 2
      scanTemplateBody start fuel ('\n' :: '\r' :: raw)
    | c :: _ =>
      Scan.skip 1
      scanTemplateBody start fuel ((if c = '\r' then '\n' else c) :: raw)

/-- A token of a template: a piece of it, or the mark after a piece. -/
def scanTemplate (start : Position) (afterPiece : Bool) : Scan Token := do
  match afterPiece, ← Scan.rest with
  | true, '`' :: _ =>
    Scan.skip 1
    return .punctuator "`"
  | true, '$' :: '\x7b' :: _ =>
    Scan.skip 2
    return .punctuator "$\x7b"
  | _, _ =>
    let raw ← scanTemplateBody start (← Scan.fuel) []
    return .templateText (String.ofList raw.reverse)

end Token

end ModuleBundler.Script
