import ModuleBundler.Script.Context
import ModuleBundler.Script.Lexer.Text

/-!
Words, regular expressions and punctuators.
-/

set_option autoImplicit false

namespace ModuleBundler.Script.Token

/-! ## Words -/

/-- A character that may continue a word. Two invisible joiners may, too. -/
def continuesWord (c : Char) : Bool := Text.isNameContinue c || c == '\u200c' || c == '\u200d'

/-- Takes a word; yields its characters, from the last one back, and whether it holds escapes. -/
def scanWordBody : Nat → List Char → Bool → Scan (List Char × Bool)
  | 0, name, escaped => return (name, escaped)
  | fuel + 1, name, escaped => do
    let start ← Scan.position
    match ← Scan.rest with
    | '\\' :: after =>
      Scan.skip 1
      unless after.head? == some 'u' do Scan.failAt .expectedUnicodeEscape start
      Scan.skip 1
      let c := Char.ofNat (← Escape.unicode start)
      unless (if name.isEmpty then Text.isNameStart c else continuesWord c) do
        Scan.complain .invalidNameCharacter start
      scanWordBody fuel (c :: name) true
    | c :: _ =>
      if continuesWord c then
        Scan.skip 1
        scanWordBody fuel (c :: name) escaped
      else return (name, escaped)
    | [] => return (name, escaped)

/-- A word. One that the context reserves may not hold escapes. -/
def scanWord (ctx : Context) : Scan Token := do
  let start ← Scan.position
  let (name, escaped) ← scanWordBody (← Scan.fuel) [] false
  let name := String.ofList name.reverse
  if escaped && ctx.reserves name then Scan.failAt (.escapeInReservedWord name) start
  return .word name

/-! ## Regular expressions -/

/-- Takes a regular expression after its opening slash, up to its closing one; yields its text,
from the last character back. In a class a slash closes nothing. -/
def scanRegexBody (start : Position) : Nat → Bool → Bool → List Char → Scan (List Char)
  | 0, _, _, _ => Scan.failAt .unterminatedRegex start
  | fuel + 1, escaped, inClass, body => do
    match ← Scan.next? with
    | none => Scan.failAt .unterminatedRegex start
    | some c =>
      if Text.isLineBreak c then Scan.failAt .unterminatedRegex start
      if c = '/' && !escaped && !inClass then
        Scan.skip 1
        return body
      Scan.skip 1
      let inClass :=
        if escaped then inClass else if c = '[' then true else if c = ']' then false else inClass
      scanRegexBody start fuel (c == '\\' && !escaped) inClass (c :: body)

/-- The flags of a regular expression, if a word follows it. -/
def scanFlags : Scan (List Char) := do
  match ← Scan.next? with
  | some c =>
    if Text.isNameStart c then return (← scanWordBody (← Scan.fuel) [] false).1
    return []
  | none => return []

/-- A regular expression. -/
def scanRegex : Scan Token := do
  let start ← Scan.position
  Scan.skip 1
  let body ← scanRegexBody start (← Scan.fuel) false false []
  let flags ← scanFlags
  return .regex (String.ofList body.reverse) (String.ofList flags.reverse)

/-! ## Punctuators -/

/-- All punctuators; of two that fit the longer one comes first. -/
def punctuators : List String :=
  [">>>=", "...", "===", "!==", "**=", "<<=", ">>=", ">>>", "&&=", "||=", "??=", "=>", "==", "!=",
    "<=", ">=", "++", "--", "**", "<<", ">>", "&&", "||", "??", "+=", "-=", "*=", "/=", "%=", "&=",
    "|=", "^=", "\x7b", "\x7d", "(", ")", "[", "]", ".", ";", ",", "<", ">", "+", "-", "*", "/",
    "%", "&", "|", "^", "!", "~", "?", ":", "=", "@", "#", "`"]

/-- A punctuator. -/
def scanPunctuator : Scan Token := do
  let s ← Scan.source
  match punctuators.find? s.startsWith with
  | some p =>
    Scan.skip p.length
    return .punctuator p
  | none =>
    Scan.skip 1
    Scan.failAt (.unexpectedCharacter (s.rest.headD ' ')) s.position

/-! ## Any token -/

/-- A token outside of templates that begins where the source stands. A slash begins a regular
expression where an operand is due. -/
def scan (ctx : Context) (operandDue : Bool) : Scan Token := do
  match ← Scan.rest with
  | [] => return .endOfInput
  | c :: after =>
    if c = '"' || c = '\'' then scanString ctx.strict c
    else if Text.isAsciiDigit c then scanNumber ctx.strict
    else if c = '.' && after.head?.any Text.isAsciiDigit then scanNumber ctx.strict
    else if Text.isNameStart c || c = '\\' then scanWord ctx
    else if c = '/' && operandDue then scanRegex
    else scanPunctuator

end ModuleBundler.Script.Token
