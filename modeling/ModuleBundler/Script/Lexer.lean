import ModuleBundler.Script.Lexer.Gap
import ModuleBundler.Script.Lexer.Situation
import ModuleBundler.Script.Lexer.Word

/-!
From text to tokens. A lexer is a source with the situation that the tokens before it left; asked
for the next token in a context, it yields one and the lexer after it. It never fails: a text that
makes no token is a broken token that says why, and the lexer after it goes on where the text broke
off.
-/

set_option autoImplicit false

namespace ModuleBundler.Script

/-- A token where it stands. -/
structure Lexeme where
  token : Token
  start : Position
  stop : Position
  /-- A line ends between the token before and this one. The end of a text ends its last line. -/
  afterLineBreak : Bool
  /-- The last character of the last comment before the token. -/
  commentBefore : Option Char := none
  complaints : List Fault := []
  /-- Why the token is broken, if it is. -/
  fault : Option Fault := none
deriving Inhabited

/-- A text between two tokens. -/
structure Lexer where
  source : Source
  situation : Situation := {}
  /-- No token has been asked for. The first token counts as the first one of a line. -/
  atStart : Bool := true
  /-- A line ends before the last token. -/
  lastAfterLineBreak : Bool := false

namespace Lexer

/-- The lexer of a text. -/
def ofSource (s : Source) : Lexer := { source := s }

/-- Scans a token after what lies before it. -/
def scan (ctx : Context) (x : Lexer) : Scan Token := do
  match x.situation.template?, (← Scan.rest).isEmpty with
  | some start, false =>
    let afterPiece := match x.situation.last with
      | some (.templateText _) => true
      | _ => false
    Token.scanTemplate start afterPiece
  | _, _ => Token.scan ctx x.situation.operandDue

/-- Takes what lies before a token. In a template nothing does. -/
def scanGap (ctx : Context) (x : Lexer) : Scan Gap := do
  let g : Gap := { hasLineBreak := x.atStart }
  if x.situation.template?.isSome then return g
  Gap.skip ctx.isModule (← Scan.fuel) g

/-- The lexer after a token, given the source after it. -/
def after (x : Lexer) (l : Lexeme) (source : Source) : Lexer :=
  { source
    situation :=
      if l.token.isEnd then x.situation
      else x.situation.after l.token l.start l.afterLineBreak x.lastAfterLineBreak
    atStart := false
    lastAfterLineBreak := l.afterLineBreak }

/-- A token that could not be scanned. -/
def broken (start : Position) (g : Gap) (e : Fault) (s : Scanner) : Lexeme :=
  { token := .broken
    start
    stop := s.source.position
    afterLineBreak := g.hasLineBreak
    commentBefore := g.commentEnd
    complaints := s.complaints
    fault := some e }

/-- The next token, and the lexer after it. -/
def next (ctx : Context) (x : Lexer) : Lexeme × Lexer :=
  match (x.scanGap ctx).run { source := x.source } with
  | (.error e, s) =>
    let l := broken x.source.position { hasLineBreak := x.atStart } e s
    (l, x.after l s.source)
  | (.ok g, s) =>
    let start := g.start.getD s.source.position
    match (x.scan ctx).run s with
    | (.error e, s) =>
      let l := broken start g e s
      (l, x.after l s.source)
    | (.ok token, s) =>
      let l : Lexeme :=
        { token
          start
          stop := s.source.position
          afterLineBreak := g.hasLineBreak || token.isEnd
          commentBefore := g.commentEnd
          complaints := s.complaints }
      (l, x.after l s.source)

end Lexer

end ModuleBundler.Script
