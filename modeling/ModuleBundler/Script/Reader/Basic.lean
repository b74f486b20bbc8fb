import ModuleBundler.Script.Lexer

/-!
What all reading of scripts shares: the context that a part is read in, the tokens that are looked
at, and the complaints so far.

Tokens are scanned when they are looked at, in the context of that moment, and held until they are
taken; no more than two are held. A token that cannot be scanned is held like others. `look` and
the questions about the current token see that it is none of those the grammar asks for; `current`
leaves it behind and ends the reading. The state outlives a failure: where reading may go on, it
goes on after what has been taken.
-/

set_option autoImplicit false

namespace ModuleBundler.Script.Reader

/-! ## Reading -/

/-- How far the reading has come. -/
structure State where
  /-- The text after the tokens that are held. -/
  lexer : Lexer
  /-- The current token, if it has been looked at. -/
  current : Option Lexeme := none
  /-- The token after it, if it has been looked at. -/
  following : Option Lexeme := none
  /-- Where the token taken last starts, and where it stops. -/
  lastStart : Position := ⟨1, 1⟩
  lastStop : Position := ⟨1, 1⟩
  lastIsComma : Bool := false
  complaints : List Fault := []

/-- A reading step. -/
abbrev Reading := ReaderT Context (ExceptT Fault (StateM State))

/-- Notes errors and goes on. -/
def complainAll (faults : List Fault) : Reading Unit :=
  modify fun s => { s with complaints := s.complaints ++ faults }

/-- Notes an error and goes on. -/
def complain (e : SyntaxError) (p : Position) : Reading Unit := complainAll [⟨e, p⟩]

/-- Notes an error in strict code. -/
def complainStrict (e : SyntaxError) (p : Position) : Reading Unit := do
  if (← read).strict then complain e p

/-! ## The current token -/

/-- Scans a token after those that are held. -/
def scanNext : Reading Lexeme := do
  let ctx ← read
  let s ← get
  let (l, lexer) := s.lexer.next ctx
  set { s with lexer }
  complainAll l.complaints
  return l

/-- The current token, broken or not. -/
def look : Reading Lexeme := do
  let s ← get
  match s.current, s.following with
  | some l, _ => return l
  | none, some l =>
    set { s with current := some l, following := none }
    return l
  | none, none =>
    let l ← scanNext
    modify fun s => { s with current := some l }
    return l

/-- The token after the current one, broken or not. -/
def peek : Reading Lexeme := do
  let _ ← look
  match (← get).following with
  | some l => return l
  | none =>
    let l ← scanNext
    modify fun s => { s with following := some l }
    return l

/-- Takes the current token. -/
def advance : Reading Unit := do
  let l ← look
  modify fun s =>
    { s with
      current := none
      lastStart := l.start
      lastStop := l.stop
      lastIsComma := l.token.is "," }

/-- The current token. A broken one is left behind and ends the reading. -/
def current : Reading Lexeme := do
  let l ← look
  match l.fault with
  | some e =>
    advance
    throw e
  | none => return l

/-- Ends the reading with a fault, or with that of the current token if it is broken. -/
def fail {α : Type} (f : Fault) : Reading α := do
  let _ ← current
  throw f

/-- Ends the reading with an error at a position. -/
def failAt {α : Type} (e : SyntaxError) (p : Position) : Reading α := fail ⟨e, p⟩

/-- Where the current token starts; at the end of the text, where the last token stops. -/
def here : Reading Position := do
  let l ← look
  if l.token.isEnd then return (← get).lastStop else return l.start

/-- Where the current token starts; at the end of the text, where the last token starts. -/
def blame : Reading Position := do
  let l ← look
  if l.token.isEnd then return (← get).lastStart else return l.start

/-- The current token is this word or punctuator. -/
def at? (text : String) : Reading Bool := return (← look).token.is text

/-- The current token is one of these words and punctuators. -/
def atAny? (texts : List String) : Reading Bool := do
  let t := (← look).token
  return texts.any t.is

/-- The text has ended. A broken token ends the reading. -/
def atEnd? : Reading Bool := return (← current).token.isEnd

/-- A line ends before the current token. -/
def afterLineBreak? : Reading Bool := return (← look).afterLineBreak

/-- A bound on the tokens that are left. -/
def tokensLeft : Reading Nat := return 2 * (← get).lexer.source.rest.length + 4

/-- Takes the current token if it is this word or punctuator. -/
def accept (text : String) : Reading Bool := do
  if ← at? text then
    advance
    return true
  return false

/-! ## Tokens that are due -/

/-- Fails because the text has ended too early. -/
def failEnd {α : Type} : Reading α := do failAt .unexpectedEnd (← get).lastStop

/-- The current token, which has to be there. -/
def required : Reading Lexeme := do
  if ← atEnd? then failEnd
  current

/-- Fails because the current token is not the one that is due. -/
def failExpected {α : Type} (what : String) : Reading α := do
  failAt (.expected what (← current).token.shown) (← blame)

/-- Fails because the current token begins nothing that is wanted. -/
def failUnexpected {α : Type} (wanted : String) : Reading α := do
  failAt (.unexpected (← current).token.shown wanted) (← blame)

/-- Fails with an error at the current token, or because there is none. -/
def failHere {α : Type} (e : SyntaxError) : Reading α := do failAt e (← required).start

/-- Takes a word or punctuator that is due. -/
def expect (text : String) : Reading Unit := do
  unless ← accept text do failExpected text

/-- A statement may end here without a semicolon: before a closing brace and at the end of a
line. -/
def endsStatement? : Reading Bool := do
  let l ← look
  return l.token.is ";" || l.token.is "\x7d" || l.afterLineBreak

/-- Takes the semicolon of a statement, if there is one; otherwise the statement has to end. -/
def acceptEnd : Reading Bool := do
  if ← accept ";" then return true
  endsStatement?

/-- Takes the end of a statement that is due. -/
def expectEnd : Reading Unit := do
  unless ← acceptEnd do failExpected ";"

/-- Reads where `in` is an operator. -/
def withIn {α : Type} (x : Reading α) : Reading α :=
  withReader (fun ctx => { ctx with inAllowed := true }) x

/-! ## Names -/

/-- The current word. -/
def word? : Reading (Option String) := do
  match (← look).token with
  | .word w => return some w
  | _ => return none

/-- The current token is a word that can be read as a name. -/
def atName? : Reading Bool := return (← word?).any (!(← read).reserves ·)

/-- A word in a position where any word is a name. -/
def anyName : Reading String := do
  match (← required).token with
  | .word w =>
    advance
    return w
  | _ => failHere .expectedName

/-- A name that is no reserved word, `yield` and `await` being names or not. What is wrong with it
is noticed after it is taken. -/
def name (yieldAllowed awaitAllowed : Bool) : Reading String := do
  let start ← here
  let w ← anyName
  if strictlyUnbound.contains w || w == "enum" then complainStrict .strictReservedName start
  if alwaysReserved.contains w then failAt .expectedName start
  if w == "await" && ((← read).isModule || !awaitAllowed) then failAt .expectedName start
  if w == "yield" && !yieldAllowed then failAt .expectedName start
  return w

/-- A name that is used. -/
def usedName : Reading String := do
  let ctx ← read
  name (!ctx.inGenerator) (!ctx.inAsync)

/-- A name that is bound. Where `yield` and `await` are operators they are complained of. -/
def bindingName : Reading String := do
  let start ← here
  let w ← name true true
  let ctx ← read
  if w == "eval" || w == "arguments" then complainStrict .restrictedBinding start
  if w == "await" && ctx.inAsync then complain .expectedName start
  if w == "yield" && ctx.inGenerator then complain .expectedName start
  return w

/-! ## Lists -/

/-- A comma before the current closing token: the last visible character before it is one. -/
def afterComma? : Reading Bool := do
  let l ← look
  match l.commentBefore with
  | some c => return c == ','
  | none => return (← get).lastIsComma

/-- Items with commas between them, up to a closing token or the end of the text. A comma may stand
after the last one. -/
def separatedFrom {α : Type} (close : String) (item : Reading α) :
    Nat → List α → Reading (List α)
  | 0, _ => failEnd
  | fuel + 1, items => do
    if (← atEnd?) || (← at? close) then return items.reverse
    unless items.isEmpty do
      expect ","
      if ← at? close then return items.reverse
    let i ← item
    separatedFrom close item fuel (i :: items)

/-- Items with commas between them, and the closing token after them. -/
def separated {α : Type} (close : String) (item : Reading α) : Reading (List α) := do
  let items ← separatedFrom close item (← tokensLeft) []
  expect close
  return items

/-- Items up to a closing token, each but the last with a comma after it. -/
def terminatedFrom {α : Type} (close : String) (item : Reading α) :
    Nat → List α → Reading (List α)
  | 0, _ => failEnd
  | fuel + 1, items => do
    if ← at? close then return items.reverse
    let i ← item
    unless ← at? close do expect ","
    terminatedFrom close item fuel (i :: items)

/-- Items, each but the last with a comma after it, and the closing token after them; the mark says
whether a comma stands after the last one, too. -/
def terminated {α : Type} (close : String) (item : Reading α) : Reading (List α × Bool) := do
  let items ← terminatedFrom close item (← tokensLeft) []
  let trailing ← afterComma?
  expect close
  return (items, trailing)

end ModuleBundler.Script.Reader
