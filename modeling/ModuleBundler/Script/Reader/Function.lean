import ModuleBundler.Script.Reader.Cover

/-!
Names, keys, binding patterns and functions. The readers of expressions, statements and patterns
call each other; here and in the modules that follow each of them is written against `Readers`,
the record of those that it may call, and the knot is tied at the end.
-/

set_option autoImplicit false

namespace ModuleBundler.Script.Reader

/-- The readers that others call. -/
structure Readers where
  /-- An expression without a comma outside of parentheses. -/
  assignment : Reading Cover
  /-- An operand; the mark says whether it may be the head of an arrow function. -/
  operand : Bool → Reading Cover
  /-- An operand without operators: a call, a member or less. -/
  leftHand : Reading Cover
  /-- What is constructed by `new`, without its arguments. -/
  callee : Reading Cover
  /-- A statement; the mark says whether it may be a declaration. -/
  statement : Bool → Reading Statement
  /-- A binding pattern without a default. -/
  bindingTarget : Reading Pattern

variable (r : Readers)

/-! ## Expressions in general -/

/-- An expression without commas, as a value. -/
def assignmentValue : Reading Expr := return (← r.assignment).value

/-- The parts of a comma expression after the first one. -/
def sequenceFrom : Nat → List Cover → Reading (List Cover)
  | 0, parts => return parts.reverse
  | fuel + 1, parts => do
    if ← accept "," then sequenceFrom fuel ((← r.assignment) :: parts)
    else return parts.reverse

/-- The cover of a comma expression; a single part is itself. -/
def sequenceOf (first : Cover) (others : List Cover) : Cover :=
  if others.isEmpty then first
  else .ofOther first.start (.sequence (.ofList ((first :: others).map (·.value)))) false

/-- An expression that may be a pattern. -/
def expressionCover : Reading Cover := do
  let first ← r.assignment
  return sequenceOf first (← sequenceFrom r (← tokensLeft) [])

/-- An expression. -/
def expression : Reading Expr := return (← expressionCover r).value

/-! ## Keys -/

/-- A private name. Nothing may stand between its mark and its word. -/
def privateName : Reading String := do
  let start ← here
  expect "#"
  let mark := (← get).lastStop
  unless (← here) = mark do failAt .spaceInPrivateName start
  anyName

/-- The key of a property. -/
def key : Reading Key := do
  match (← required).token with
  | .word w =>
    advance
    return .nameKey w
  | .string s =>
    advance
    return .stringKey s
  | .number v =>
    advance
    return .numberKey v
  | .bigint i =>
    advance
    return .bigKey i
  | _ =>
    if ← accept "[" then
      let e ← withIn (assignmentValue r)
      expect "]"
      return .computedKey e
    failUnexpected SyntaxError.keyStarts

/-! ## Binding patterns -/

/-- A binding pattern with an optional default. -/
def bindingElement : Reading Pattern := do
  let target ← r.bindingTarget
  if ← accept "=" then return .defaulted target (← withIn (assignmentValue r))
  return target

/-- The elements of an array pattern up to its bracket. One that gathers the rest ends them. -/
def arrayBindingFrom : Nat → List (Node (.option .pattern)) →
    Reading (List (Node (.option .pattern)))
  | 0, _ => failEnd
  | fuel + 1, elements => do
    if (← atEnd?) || (← at? "]") then return elements.reverse
    if ← accept "," then arrayBindingFrom fuel (.absent :: elements)
    else if ← accept "..." then
      let p ← r.bindingTarget
      return (.present (.gathered p) :: elements).reverse
    else
      let p ← bindingElement r
      let _ ← accept ","
      arrayBindingFrom fuel (.present p :: elements)

/-- The element is left out. -/
def isLeftOut : Node (.option .pattern) → Bool
  | .absent => true
  | .present _ => false

/-- An array pattern after its bracket. Elements left out at its end do not count. -/
def arrayBinding : Reading Pattern := do
  let elements ← arrayBindingFrom r (← tokensLeft) []
  let trailing ← afterComma?
  expect "]"
  return .arrayPattern (.ofList (elements.reverse.dropWhile isLeftOut).reverse) trailing

/-- A property of an object pattern and where it starts. -/
def propertyBinding : Reading (Position × PatternProperty) := do
  let start ← here
  if ← accept "..." then return (start, .gatheredProperty (← r.bindingTarget))
  let k ← key r
  if ← accept ":" then return (start, .keyPattern k (← bindingElement r))
  match k with
  | .nameKey n =>
    if ← accept "=" then
      return (start, .namePattern n (.present (← withIn (assignmentValue r))))
    if (← read).reserves n then complain .reservedShorthand start
    return (start, .namePattern n .absent)
  | _ => failUnexpected "an identifier"

/-- A property that gathers the rest. -/
def gathersRest : PatternProperty → Bool
  | .gatheredProperty _ => true
  | _ => false

/-- Checks properties that gather the rest: such a one comes last, and it gathers into a name. -/
def checkRestProperties : List (Position × PatternProperty) → Reading Unit
  | [] => return ()
  | [(start, p)] => do
    match p with
    | .gatheredProperty (.binding _) => return ()
    | .gatheredProperty _ => failAt .restWithoutName start
    | _ => return ()
  | (start, p) :: rest => do
    if gathersRest p then complain .restNotLast start
    checkRestProperties rest

/-- An object pattern after its brace. After a property that gathers the rest no comma is kept. -/
def objectBinding : Reading Pattern := do
  let (properties, trailing) ← terminated "\x7d" (propertyBinding r)
  checkRestProperties properties
  let endsInRest := properties.getLast?.any fun (_, p) => gathersRest p
  return .objectPattern (.ofList (properties.map (·.2))) (trailing && !endsInRest)

/-- A binding pattern without a default. -/
def bindingTarget : Reading Pattern := do
  match (← required).token with
  | .word _ => return .binding (← bindingName)
  | _ =>
    if ← accept "[" then arrayBinding r
    else if ← accept "\x7b" then objectBinding r
    else failUnexpected SyntaxError.bindingStarts

/-! ## Bodies -/

/-- The context of the body of a function. -/
def bodyContext (isAsync isGenerator : Bool) (ctx : Context) : Context :=
  { ctx with
    inFunction := true
    inAsync := isAsync
    inGenerator := isGenerator
    inParameters := false
    breakAllowed := false
    continueAllowed := false
    labels := [] }

/-- A statement that asks for strict code: the text `use strict` without escapes. -/
def asksStrict : Statement → Bool
  | .expressionStatement (.stringLiteral s) =>
    s.raw == some "'use strict'" || s.raw == some "\"use strict\""
  | _ => false

/-- Reads in strict code if a mark is set. -/
def withStrict {α : Type} (strict : Bool) (x : Reading α) : Reading α :=
  withReader (fun ctx => { ctx with strict := ctx.strict || strict }) x

/-- The statements up to a closing brace. -/
def statementsFrom : Nat → List Statement → Reading (List Statement)
  | 0, _ => failEnd
  | fuel + 1, body => do
    if ← at? "\x7d" then return body.reverse
    statementsFrom fuel ((← r.statement true) :: body)

/-- Statements in braces. -/
def braced : Reading (List Statement) := do
  expect "\x7b"
  let body ← statementsFrom r (← tokensLeft) []
  expect "\x7d"
  return body

/-- Statements in braces, of which the first one may ask for strict code. -/
def bracedWithDirective : Reading (List Statement) := do
  expect "\x7b"
  let body ←
    if ← at? "\x7d" then pure []
    else do
      let first ← r.statement true
      withStrict (asksStrict first) do statementsFrom r (← tokensLeft) [first]
  expect "\x7d"
  return body

/-- The body of a function. -/
def functionBody (isAsync isGenerator : Bool) : Reading (List Statement) :=
  withReader (bodyContext isAsync isGenerator) (withIn (bracedWithDirective r))

/-! ## Parameters -/

/-- A parameter with an optional default. -/
def parameter : Reading Pattern := do
  let target ← r.bindingTarget
  if ← accept "=" then return .defaulted target (← assignmentValue r)
  return target

/-- What a parameter gathers the rest into, after its mark. It may not have a default. -/
def restParameter : Reading Pattern := do
  let start ← here
  let p ← parameter r
  match p with
  | .defaulted _ _ => complain .restWithInit start
  | _ => pure ()
  return .gathered p

/-- The comma between two parameters, of which `rest` is the last one before it that gathers. After
such a one no parameter should follow, with a comma or without it. -/
def parameterComma (rest : Option Position) : Reading Unit := do
  match rest with
  | some p =>
    complain .restParameterNotLast p
    let _ ← accept ","
  | none => expect ","

/-- Parameters, and where each of them starts, up to their closing parenthesis. -/
def parametersFrom : Nat → Option Position → List (Position × Pattern) →
    Reading (List (Position × Pattern))
  | 0, _, _ => failEnd
  | fuel + 1, rest, ps => do
    if (← atEnd?) || (← at? ")") then return ps.reverse
    unless ps.isEmpty do
      parameterComma rest
      if ← at? ")" then return ps.reverse
    let start ← here
    if ← accept "..." then
      parametersFrom fuel (some start) ((start, ← restParameter r) :: ps)
    else parametersFrom fuel rest ((start, ← parameter r) :: ps)

/-- The parameters of a constructor. One that gathers the rest ends them. -/
def constructorParametersFrom : Nat → List Pattern → Reading (List Pattern)
  | 0, _ => failEnd
  | fuel + 1, ps => do
    if (← atEnd?) || (← at? ")") then return ps.reverse
    unless ps.isEmpty do
      expect ","
      if ← at? ")" then return ps.reverse
    if ← accept "..." then return (.gathered (← r.bindingTarget) :: ps).reverse
    constructorParametersFrom fuel ((← parameter r) :: ps)

/-- Reads something in parentheses. -/
def parenthesized {α : Type} (x : Reading α) : Reading α := do
  expect "("
  let a ← x
  expect ")"
  return a

/-- The parameters of a constructor in parentheses. -/
def constructorParameters : Reading (List Pattern) :=
  parenthesized do constructorParametersFrom r (← tokensLeft) []

/-! ## Functions -/

/-- The context of the parameters of a function. -/
def parametersContext (isAsync isGenerator : Bool) (ctx : Context) : Context :=
  { ctx with
    inFunction := false
    inAsync := isAsync
    inGenerator := isGenerator
    inParameters := true }

/-- A pattern that gathers the rest. -/
def isGathered : Pattern → Bool
  | .gathered _ => true
  | _ => false

/-- Complaints about the parameters of accessors: a getter has none and a setter has one, which
does not gather; `start` is where a wrong number of them is complained of. -/
def checkAccessor (kind : MethodKind) (start : Position) (ps : List (Position × Pattern)) :
    Reading Unit := do
  match kind, ps with
  | .method, _ | .getter, [] => return ()
  | .getter, _ => complain .accessorParameters start
  | .setter, ps =>
    unless ps.length = 1 do complain .accessorParameters start
    match ps with
    | (p, first) :: _ => if isGathered first then complain .restInSetter p
    | [] => return ()

/-- The parameters and the body of a method; `start` is where the parameters of an accessor are
complained of. -/
def methodTail (kind : MethodKind) (isAsync isGenerator : Bool) (start : Position) :
    Reading (List Pattern × List Statement) := do
  let ps ←
    parenthesized do
      withReader (parametersContext isAsync isGenerator) do
        let ps ← parametersFrom r (← tokensLeft) none []
        checkAccessor kind start ps
        return ps.map (·.2)
  return (ps, ← functionBody r isAsync isGenerator)

/-- The parameters and the body of a function. -/
def functionTail (isAsync isGenerator : Bool) : Reading Function := do
  let (ps, body) ← methodTail r .method isAsync isGenerator (← here)
  return .function isAsync isGenerator (.ofList ps) (.ofList body)

/-- A name that is bound, if it has to be there or is. -/
def optionalName (required : Bool) : Reading (Option String) := do
  if required || (← atName?) then return some (← bindingName)
  return none

/-- A function after its word, and after the word that makes it asynchronous: its name, if it has
one or has to have one, and the function. -/
def functionAfterWord (isAsync nameRequired isValue : Bool) :
    Reading (Option String × Function) := do
  let isGenerator ← accept "*"
  let name ←
    withReader
      (fun ctx =>
        if isValue then { ctx with inAsync := isAsync, inGenerator := isGenerator } else ctx)
      (optionalName nameRequired)
  return (name, ← functionTail r isAsync isGenerator)

/-- The words `async function` without an end of line between them. -/
def atAsyncFunction? : Reading Bool := do
  if ← at? "async" then
    let l ← peek
    return l.token.is "function" && !l.afterLineBreak
  return false

end ModuleBundler.Script.Reader
