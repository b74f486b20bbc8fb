import ModuleBundler.Script.Reader.Expression
import ModuleBundler.Script.Reader.Misplaced

/-!
Statements. A statement is known by its first token, or by the first two where the first one may
also begin an expression. What a statement allows inside it (jumps, labels, `return`) is in the
context it is read in, so nothing has to be checked afterwards.
-/

set_option autoImplicit false

namespace ModuleBundler.Script.Reader

variable (r : Readers)

/-! ## Parts -/

/-- An expression in parentheses, as statements have it. -/
def condition : Reading Expr := parenthesized (withIn (expression r))

/-- The body of a loop, which can be left and continued. -/
def loopBody : Reading Statement :=
  withReader (fun ctx => { ctx with breakAllowed := true, continueAllowed := true })
    (r.statement false)

/-- Statements in braces. -/
def blockStatements : Reading (List Statement) := braced r

/-! ## Variables -/

/-- One variable of a declaration. In the head of a loop the value may be due to the loop. -/
def declarator (inHead : Bool) : Reading (Position × Declarator) := do
  let start ← here
  let target ← r.bindingTarget
  if inHead && (← atAny? ["in", "of"]) then return (start, .declarator target .absent)
  if ← accept "=" then
    let value ← checked (← assignmentValue r)
    return (start, .declarator target (.present value))
  match target with
  | .binding _ => return (start, .declarator target .absent)
  | _ => failAt .destructuringWithoutInit start

/-- The variables of a declaration. A comma promises one more, and so does the word that begins
the declaration, after which a fault is put right behind the word. -/
def declaratorsFrom (inHead : Bool) :
    Nat → List (Position × Declarator) → Reading (List (Position × Declarator))
  | 0, _ => failEnd
  | fuel + 1, ds => do
    if (← at? ";") || (← atEnd?) then
      let s ← get
      complain .trailingComma (if ds.isEmpty then s.lastStop else s.lastStart)
      return ds.reverse
    let ds := (← declarator r inHead) :: ds
    if ← accept "," then declaratorsFrom inHead fuel ds else return ds.reverse

/-- The kind of declaration that a word begins. -/
def declarationKind? : Token → Option DeclarationKind
  | .word "var" => some .var
  | .word "let" => some .lexical
  | .word "const" => some .constant
  | _ => none

/-- A declaration of variables without its end. -/
def declarators (kind : DeclarationKind) (inHead : Bool) :
    Reading (List (Position × Declarator)) := do
  advance
  withReader (fun ctx => { ctx with inAllowed := ctx.inAllowed || kind != .var || !inHead })
    do declaratorsFrom r inHead (← tokensLeft) []

/-- Reads something that does not count, and neither does what is wrong with it. -/
def skipping {α : Type} (x : Reading α) : Reading Unit :=
  tryCatch (do let _ ← x) fun _ => return ()

/-- Skips tokens to where a statement may end. -/
def skipToEnd : Nat → Reading Unit
  | 0 => return ()
  | fuel + 1 => do
    unless ← acceptEnd do
      advance
      skipToEnd fuel

/-- A declaration of variables. What follows it without a semicolon is skipped. -/
def variablesStatement (kind : DeclarationKind) : Reading Statement := do
  let ds ← declarators r kind false
  unless ← acceptEnd do
    complain .expectedSemicolon (← here)
    skipping (expression r)
    skipToEnd (← tokensLeft)
  return .variableDeclaration kind (.ofList (ds.map (·.2)))

/-- The word `let` begins a declaration here. -/
def atLexical? : Reading Bool := do
  if ← at? "let" then return (← peek).token.followsLet
  return false

/-! ## Jumps -/

/-- The label of a jump, if it has one, and the end of the statement. -/
def jumpLabel : Reading (Option String) := do
  if ← acceptEnd then return none
  let label ← usedName
  expectEnd
  return some label

/-- A `break`. It may name any label around it. -/
def breakStatement (start : Position) : Reading Statement := do
  advance
  let label ← jumpLabel
  let ctx ← read
  match label with
  | some l =>
    if !ctx.labels.contains l then complain .unknownBreakLabel start
    else unless ctx.breakAllowed do complain .breakOutsideLoop start
  | none => unless ctx.breakAllowed do complain .breakOutsideLoop start
  return .breakStatement label

/-- A `continue`. It needs a loop around it. -/
def continueStatement (start : Position) : Reading Statement := do
  advance
  let label ← jumpLabel
  let ctx ← read
  if !ctx.continueAllowed then complain .continueOutsideLoop start
  else
    match label with
    | some l => unless ctx.labels.contains l do complain .unknownContinueLabel start
    | none => pure ()
  return .continueStatement label

/-- A `return`. -/
def returnStatement (start : Position) : Reading Statement := do
  advance
  let value ← if ← endsStatement? then pure none else some <$> withIn (expression r)
  expectEnd
  unless (← read).inFunction do complain .returnOutsideFunction start
  return .returnStatement (.ofOption value)

/-- A `throw`. Its value begins on the same line. -/
def throwStatement : Reading Statement := do
  advance
  if ← afterLineBreak? then failAt .lineBreakAfterThrow (← blame)
  let e ← withIn (expression r)
  expectEnd
  return .throwStatement e

/-! ## Choices -/

/-- A condition and what depends on it, without what comes after. If the condition is not closed,
nothing depends on it. -/
structure Branch where
  test : Expr
  yes : Statement
  isClosed : Bool

/-- The first branch of an `if`, after its word. -/
def branch : Reading Branch := do
  expect "("
  let test ← withIn (expression r)
  if ← accept ")" then return ⟨test, ← r.statement false, true⟩
  complain .expectedSemicolon (← blame)
  return ⟨test, .expressionStatement .unreadable, false⟩

/-- The statement of branches that follow each other, given what comes after the last one. -/
def chain (last : Node (.option .statement)) : List Branch → Node (.option .statement)
  | [] => last
  | b :: rest => .present (.ifStatement b.test b.yes (chain last rest))

/-- The further branches of an `if`, and what comes after them all. -/
def branchesFrom : Nat → List Branch → Reading (List Branch × Option Statement)
  | 0, bs => return (bs.reverse, none)
  | fuel + 1, bs => do
    unless ← accept "else" do return (bs.reverse, none)
    if ← accept "if" then branchesFrom fuel ((← branch r) :: bs)
    else return (bs.reverse, some (← r.statement false))

/-- An `if`. -/
def ifStatement : Reading Statement := do
  advance
  let first ← branch r
  if first.isClosed then
    let (others, last) ← branchesFrom r (← tokensLeft) []
    return .ifStatement first.test first.yes (chain (.ofOption last) others)
  return .ifStatement first.test first.yes .absent

/-- The statements of a case. -/
def caseBodyFrom : Nat → List Statement → Reading (List Statement)
  | 0, _ => failEnd
  | fuel + 1, body => do
    if (← atAny? ["case", "default", "\x7d"]) || (← atEnd?) then return body.reverse
    caseBodyFrom fuel ((← r.statement true) :: body)

/-- The cases of a `switch`; only one of them is the default. -/
def casesFrom : Nat → Bool → List SwitchCase → Reading (List SwitchCase)
  | 0, _, _ => failEnd
  | fuel + 1, hasDefault, cases => do
    let start ← here
    if ← accept "case" then
      let test ← withIn (expression r)
      expect ":"
      let body ← caseBodyFrom r (← tokensLeft) []
      casesFrom fuel hasDefault (.switchCase (.present test) (.ofList body) :: cases)
    else if ← accept "default" then
      if hasDefault then failAt .repeatedDefault start
      expect ":"
      let body ← caseBodyFrom r (← tokensLeft) []
      casesFrom fuel true (.switchCase .absent (.ofList body) :: cases)
    else return cases.reverse

/-- A `switch`. -/
def switchStatement : Reading Statement := do
  advance
  let value ← condition r
  expect "\x7b"
  let cases ← withReader (fun ctx => { ctx with breakAllowed := true })
    do casesFrom r (← tokensLeft) false []
  expect "\x7d"
  return .switchStatement value (.ofList cases)

/-! ## Exceptions -/

/-- The parameter of a handler, if it has one. -/
def handlerParameter : Reading (Option Pattern) := do
  if ← at? "(" then return some (← parenthesized r.bindingTarget)
  return none

/-- The handler of a `try`, if it has one. -/
def handler? : Reading (Option Handler) := do
  if ← accept "catch" then
    let p ← handlerParameter r
    return some (.handler (.ofOption p) (.ofList (← blockStatements r)))
  return none

/-- The statements that a `try` runs in the end, if it has them. -/
def finalizer? : Reading (Option (Node (.list .statement))) := do
  if ← accept "finally" then return some (.ofList (← blockStatements r))
  return none

/-- A `try`, which needs a handler or something that runs in the end. -/
def tryStatement : Reading Statement := do
  advance
  let body ← blockStatements r
  let start ← here
  let handler ← handler? r
  let finalizer ← finalizer? r
  if handler.isNone && finalizer.isNone then complain .expectedSemicolon start
  return .tryStatement (.ofList body) (.ofOption handler) (.ofOption finalizer)

/-- The parts of a `try` without their beginning. -/
def strayHandler (start : Position) : Reading Statement := do
  complain .expectedSemicolon start
  skipping (handler? r)
  skipping (finalizer? r)
  return .expressionStatement .unreadable

/-! ## Loops -/

/-- A `while`. -/
def whileLoop : Reading Statement := do
  advance
  let test ← condition r
  return .whileLoop test (← loopBody r)

/-- A `do`. A semicolon may follow it. -/
def doLoop : Reading Statement := do
  advance
  let body ← loopBody r
  expect "while"
  let test ← condition r
  let _ ← accept ";"
  return .doLoop body test

/-- The head of a `for`. -/
inductive ForHead where
  | steps (init : Option LoopHead) (test next : Option Expr)
  | keys (head : LoopHead) (object : Expr)
  | values (head : LoopHead) (sequence : Expr)

/-- The test and the step of a loop. -/
def stepsHead (init : Option LoopHead) : Reading ForHead := do
  let test ← if ← accept ";" then pure none else do
    let e ← withIn (expression r)
    expect ";"
    pure (some e)
  let next ← if ← at? ")" then pure none else some <$> withIn (expression r)
  return .steps init test next

/-- What a loop goes through. -/
def eachHead (head : LoopHead) : Reading ForHead := do
  if ← accept "of" then return .values head (← withIn (assignmentValue r))
  advance
  return .keys head (← withIn (expression r))

/-- Complaints about what a loop through values or keys declares: one variable without a value.
For keys, sloppy code may give it one. -/
def checkLoopVariables (ds : List (Position × Declarator)) : Reading Unit := do
  match ds with
  | [(start, .declarator _ (.present _))] =>
    if (← read).strict || (← at? "of") then complain .loopVariableInit start
  | [_] => return ()
  | ds => (ds.drop 1).forM fun d => complain .severalLoopVariables d.1

/-- The head of a loop that declares variables. -/
def declaringHead (kind : DeclarationKind) : Reading ForHead := do
  let ds ← declarators r kind true
  let head : LoopHead := .declarationHead kind (.ofList (ds.map (·.2)))
  if ← atAny? ["in", "of"] then
    checkLoopVariables ds
    return ← eachHead r head
  expect ";"
  stepsHead r (some head)

/-- The head of a loop, in its parentheses. -/
def forHead : Reading ForHead := do
  match declarationKind? (← required).token with
  | some .lexical =>
    if (← peek).token.isEnd then failAt .unexpectedEnd (← here)
    if ← atLexical? then return ← declaringHead r .lexical
  | some kind => return ← declaringHead r kind
  | none => pure ()
  if ← accept ";" then return ← stepsHead r none
  let c ← withReader (fun ctx => { ctx with inAllowed := false }) (expressionCover r)
  if ← atAny? ["in", "of"] then return ← eachHead r (.patternHead (← c.asTarget))
  expect ";"
  stepsHead r (some (.expressionHead (← checked c.value)))

/-- A `for`. Only one that goes through values can wait for each of them. -/
def forLoop : Reading Statement := do
  advance
  let start ← here
  let isAwait ← accept "await"
  expect "("
  let head ← forHead r
  expect ")"
  let body ← loopBody r
  match head with
  | .steps init test next =>
    if isAwait then failAt .awaitLoopWithoutOf start
    return .forLoop (.ofOption init) (.ofOption test) (.ofOption next) body
  | .keys head object =>
    if isAwait then failAt .awaitLoopWithoutOf start
    return .forIn head object body
  | .values head values => return .forOf isAwait head values body

/-! ## Other statements -/

/-- A `with`, which strict code does not have. -/
def withStatement (start : Position) : Reading Statement := do
  complainStrict .withInStrict start
  advance
  let object ← condition r
  let body ← withReader (fun ctx => { ctx with inFunction := true }) (r.statement false)
  return .withStatement object body

/-- The declaration of a function, after the word that makes it asynchronous. -/
def functionDeclaration (isAsync : Bool) : Reading Statement := do
  expect "function"
  let (name, f) ← functionAfterWord r isAsync true false
  return .functionDeclaration (name.getD "") f

/-- The declaration of a class. -/
def classDeclaration : Reading Statement := do
  expect "class"
  let (name, heritage, members) ← classAfterWord r true
  return .classDeclaration (name.getD "") (.ofOption heritage) (.ofList members)

/-- What a label stands before. A generator is not among it. -/
def labelledBody : Reading Statement := do
  let start ← here
  if ← at? "function" then
    match ← functionDeclaration r false with
    | .functionDeclaration _ (.function _ true _ _) => failAt .labelledGenerator start
    | s => return s
  r.statement false

/-- A labelled statement after its colon. -/
def labelled (start : Position) (label : String) : Reading Statement := do
  let known := (← read).labels
  let body ← withReader
    (fun ctx => { ctx with breakAllowed := true, labels := label :: known }) (labelledBody r)
  if known.contains label then complain (.repeatedLabel label) start
  return .labelled label body

/-- The end of an expression that is a statement. After it an operator is taken for the beginning
of what follows a missing semicolon. -/
def expressionEnd (c : Cover) : Reading Statement := do
  if ← acceptEnd then return .expressionStatement c.value
  let l ← current
  if (signOf? l.token).isSome then
    complain .expectedSemicolon l.start
    return .expressionStatement (← operations r c).value
  failAt .expectedStatementEnd l.start

/-- An expression that is a statement, or a labelled statement. -/
def expressionStatement : Reading Statement := do
  let c ← withIn (expressionCover r)
  match c.kind with
  | .name label =>
    if ← accept ":" then labelled r c.start label else expressionEnd r c
  | _ =>
    let _ ← checked c.value
    expressionEnd r c

/-- An expression that begins with `import`. It needs no semicolon. Any other use of the word, or
of `export`, belongs in the outermost level of a module. -/
def importStatement (start : Position) : Reading Statement := do
  if ← at? "import" then
    let next ← peek
    if next.token.is "(" || next.token.is "." then
      let e ← withIn (expression r)
      let _ ← acceptEnd
      return .expressionStatement e
  failAt .moduleItemOutsideModule start

/-- A statement; the mark says whether it may be a declaration. -/
def statement (declarations : Bool) : Reading Statement := do
  let l ← required
  let start := l.start
  let checkDeclaration : Reading Unit := do
    unless declarations do complain .declarationAsBody start
  match l.token with
  | .punctuator "\x7b" => return .block (.ofList (← blockStatements r))
  | .punctuator ";" =>
    advance
    return .emptyStatement
  | .word "import" | .word "export" => importStatement r start
  | .word "break" => breakStatement start
  | .word "continue" => continueStatement start
  | .word "debugger" =>
    advance
    expectEnd
    return .debuggerStatement
  | .word "do" => doLoop r
  | .word "for" => forLoop r
  | .word "function" =>
    checkDeclaration
    functionDeclaration r false
  | .word "class" =>
    checkDeclaration
    classDeclaration r
  | .word "if" => ifStatement r
  | .word "return" => returnStatement r start
  | .word "switch" => switchStatement r
  | .word "throw" => throwStatement r
  | .word "catch" | .word "finally" => strayHandler r start
  | .word "try" => tryStatement r
  | .word "with" => withStatement r start
  | .word "while" => whileLoop r
  | .word "var" => variablesStatement r .var
  | .word "const" => if declarations then variablesStatement r .constant else expressionStatement r
  | .word "let" =>
    if declarations then
      if ← atLexical? then return ← variablesStatement r .lexical
    expressionStatement r
  | .word "async" =>
    if ← atAsyncFunction? then
      advance
      functionDeclaration r true
    else expressionStatement r
  | _ => expressionStatement r

/-- A statement of the outermost level. There `await` begins a statement of its own kind, which
holds a single operand and needs no semicolon. -/
def outermostStatement : Reading Statement := do
  if ← at? "await" then
    let c ← awaited r
    let _ ← acceptEnd
    return .expressionStatement c.value
  statement r true

end ModuleBundler.Script.Reader
