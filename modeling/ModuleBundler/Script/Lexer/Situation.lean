import ModuleBundler.Script.Token
import ModuleBundler.Script.SyntaxError

/-!
What the tokens so far say about the next one: whether a slash divides or begins a regular
expression, and whether the text goes on inside a template.

The situation keeps what is open, from the inside out, and whether an operand is due. It knows
tokens alone and no grammar, so it tells a block from an object by what stands before the brace.
-/

set_option autoImplicit false

namespace ModuleBundler.Script

/-- Something that is open. -/
inductive Enclosure where
  | block
  | object
  /-- The place of a value in a template. -/
  | valuePlace
  /-- The parentheses of a statement, of a `for` or another one. -/
  | condition (isFor : Bool)
  | parentheses
  /-- A template that began at a position. -/
  | template (start : Position)
  /-- A function that is a value. -/
  | functionValue
deriving Repr, DecidableEq

/-- What encloses something that ends as an operand does. -/
def Enclosure.isOperand : Enclosure → Bool
  | .block | .condition _ => false
  | .object | .valuePlace | .parentheses | .template _ | .functionValue => true

def Enclosure.isTemplate : Enclosure → Bool
  | .template _ => true
  | _ => false

/-- What the tokens so far say. -/
structure Situation where
  /-- What is open, from the inside out. The whole text counts as a block. -/
  enclosing : List Enclosure := [.block]
  /-- The last token. -/
  last : Option Token := none
  /-- An operand is due. -/
  operandDue : Bool := true

namespace Situation

/-- The innermost thing that is open. -/
def inside (s : Situation) : Option Enclosure := s.enclosing.head?

/-- Where the template began that the text goes on in, if it does. -/
def template? (s : Situation) : Option Position :=
  match s.inside with
  | some (.template start) => some start
  | _ => none

/-- The last token is this word or punctuator. -/
def follows (s : Situation) (text : String) : Bool := s.last.any (·.is text)

/-- The last token is one of these words and punctuators. -/
def followsAny (s : Situation) (texts : List String) : Bool := texts.any s.follows

/-- A brace here opens a block. After a colon that depends on what the colon belongs to, after
`return` and `yield` on the line. -/
def opensBlock (s : Situation) (afterLineBreak : Bool) : Bool :=
  let usual : Bool :=
    if s.followsAny ["return", "yield"] then afterLineBreak
    else
      s.last.isNone || s.followsAny ["else", ";", ")", "\x7b", "<", ">", "=>"] || !s.operandDue
  if s.follows ":" then
    match s.inside with
    | some .block => true
    | some .object => false
    | _ => usual
  else usual

/-- The situation with something more open. -/
def enter (s : Situation) (e : Enclosure) (operandDue : Bool) : Situation :=
  { s with enclosing := e :: s.enclosing, operandDue }

/-- The situation after the innermost thing closes. A block that closes a function that is a value
closes that, too. -/
def leave (s : Situation) : Situation :=
  match s.enclosing with
  | .block :: .functionValue :: outer => { s with enclosing := outer, operandDue := false }
  | .valuePlace :: outer =>
    if outer.isEmpty then { s with operandDue := true }
    else { s with enclosing := outer, operandDue := !(outer.head?.any (·.isTemplate)) }
  | e :: next :: outer => { s with enclosing := next :: outer, operandDue := !e.isOperand }
  | _ => { s with operandDue := true }

/-- What parentheses enclose here. -/
def parenthesis (s : Situation) : Enclosure :=
  if s.follows "for" then .condition true
  else if s.followsAny ["if", "while", "with"] then .condition false
  else .parentheses

/-- The situation after a token that is taken by itself, before it counts as the last one. The
marks say whether a line ends before the token, and before the one that came before it. -/
def step (s : Situation) (t : Token) (start : Position) (afterLineBreak lastAfterLineBreak : Bool) :
    Situation :=
  match t with
  | .punctuator ")" | .punctuator "\x7d" => s.leave
  | .punctuator "\x7b" => s.enter (if s.opensBlock afterLineBreak then .block else .object) true
  | .punctuator "$\x7b" => s.enter .valuePlace true
  | .punctuator "(" => s.enter s.parenthesis true
  | .punctuator "++" | .punctuator "--" => s
  | .punctuator "`" =>
    if s.template?.isSome then { s with enclosing := s.enclosing.drop 1, operandDue := false }
    else s.enter (.template start) false
  | .word w =>
    if isKeyword w && s.follows "." then { s with operandDue := false }
    else if w = "function" then
      if s.operandDue && !s.opensBlock afterLineBreak then s.enter .functionValue false
      else { s with operandDue := false }
    else if isKeyword w || valueWords.contains w then { s with operandDue := t.precedesOperand }
    else if w = "of" && s.inside == some (.condition true) then
      { s with operandDue := !(s.last.any (·.precedesOperand)) }
    else
      { s with operandDue := lastAfterLineBreak && s.followsAny ["let", "const", "var"] }
  | t => { s with operandDue := t.precedesOperand }

/-- The situation after a token. -/
def after (s : Situation) (t : Token) (start : Position)
    (afterLineBreak lastAfterLineBreak : Bool) : Situation :=
  { s.step t start afterLineBreak lastAfterLineBreak with last := some t }

end Situation

end ModuleBundler.Script
