import ModuleBundler.Script.Operator
import ModuleBundler.Script.Reader.Class

/-!
Expressions. An expression is read as a cover wherever it may turn out to be a pattern. From the
outside in: an assignment holds a conditional, which holds operands joined by binary operators,
each of which is a left-hand side with unary operators around it, and that is a primary expression
followed by accesses and calls.

Whether the head of an arrow function may stand somewhere depends on the position alone: it may
where an assignment may begin. So the mark `arrowAllowed` is handed down to the first operand and
to no other.
-/

set_option autoImplicit false

namespace ModuleBundler.Script.Reader

variable (r : Readers)

/-! ## Elements and arguments -/

/-- An argument or an element, which may be spread. -/
structure Item where
  isSpread : Bool
  start : Position
  cover : Cover

/-- The item as an element of an expression. -/
def Item.element (i : Item) : Element :=
  if i.isSpread then .spreadElement i.cover.value else .plainElement i.cover.value

/-- The item as a parameter of an arrow function. -/
def Item.parameter (i : Item) : Reading Pattern := do
  let p ← i.cover.asBinding
  return if i.isSpread then .gathered p else p

/-- An argument or an element. -/
def item : Reading Item := do
  let start ← here
  let isSpread ← accept "..."
  return ⟨isSpread, start, ← withIn r.assignment⟩

/-- Arguments up to their closing parenthesis; `importStart` is where those of a dynamic import
start, in which no comma may stand at the end. -/
def argumentsFrom (importStart : Option Position) : Nat → List Item → Reading (List Item)
  | 0, _ => failEnd
  | fuel + 1, items => do
    if (← atEnd?) || (← at? ")") then return items.reverse
    unless items.isEmpty do
      expect ","
      if ← at? ")" then
        match importStart with
        | some start => failAt .commaInImport start
        | none => return items.reverse
    argumentsFrom importStart fuel ((← item r) :: items)

/-- Arguments in parentheses, of a call or of a dynamic import. -/
def arguments (isImport : Bool) : Reading (List Element) := do
  let start ← here
  let items ← parenthesized do
    argumentsFrom r (if isImport then some start else none) (← tokensLeft) []
  return items.map (·.element)

/-! ## Arrays -/

/-- The elements of an array up to its bracket. -/
def arrayItemsFrom : Nat → List Cover.ArrayItem → Reading (List Cover.ArrayItem)
  | 0, _ => failEnd
  | fuel + 1, items => do
    if (← atEnd?) || (← at? "]") then return items.reverse
    if ← accept "," then arrayItemsFrom fuel (.hole :: items)
    else
      let i ← item r
      let _ ← accept ","
      arrayItemsFrom fuel
        ((if i.isSpread then .spread i.start i.cover else .plain i.cover) :: items)

/-- An array. -/
def array : Reading Cover := do
  let start ← here
  expect "["
  let items ← arrayItemsFrom r (← tokensLeft) []
  let trailing ← afterComma?
  expect "]"
  return .ofArray start items trailing

/-! ## Objects -/

/-- The parameters that an accessor keeps: the first one of a setter, which has to have one. -/
def accessorParameters (kind : MethodKind) (ps : List Pattern) : List Pattern :=
  match kind with
  | .method => ps
  | .getter => []
  | .setter => [ps.headD (.place .unreadable)]

/-- A method of an object; `start` is where the property starts. -/
def objectMethod (start : Position) (kind : MethodKind) (isAsync isGenerator : Bool) :
    Reading Cover.ObjectItem := do
  let keyStart ← here
  let k ← key r
  let (ps, body) ← methodTail r kind isAsync isGenerator keyStart
  return .method start (.objectMethod kind k
    (.function isAsync isGenerator (.ofList (accessorParameters kind ps)) (.ofList body)))

/-- A property that is a name, with a default or without. -/
def shorthandItem (start : Position) (n : String) : Reading Cover.ObjectItem := do
  if (← read).reserves n then complain .reservedShorthand start
  if ← accept "=" then return .defaulted start n (← withIn (assignmentValue r))
  return .shorthand n

/-- A property that began with a name, and no colon or parenthesis follows. -/
def namedItem (start : Position) (n : String) : Reading Cover.ObjectItem := do
  if ← at? "?" then
    complain .optionalProperty (← here)
    advance
  if ← atAny? ["=", ",", "\x7d"] then return ← shorthandItem r start n
  match n with
  | "get" => objectMethod r start .getter false false
  | "set" => objectMethod r start .setter false false
  | "async" =>
    let isGenerator ← accept "*"
    objectMethod r start .method true isGenerator
  | _ => failUnexpected SyntaxError.afterKey

/-- A property of an object. -/
def objectItem : Reading Cover.ObjectItem := do
  let start ← here
  if ← accept "..." then return .spread (← withIn r.assignment)
  if ← accept "*" then return ← objectMethod r start .method false true
  let k ← key r
  if ← accept ":" then return .keyed k (← withIn r.assignment)
  if ← at? "(" then
    let (ps, body) ← methodTail r .method false false start
    return .method start (.objectMethod .method k
      (.function false false (.ofList ps) (.ofList body)))
  match k with
  | .nameKey n => namedItem r start n
  | _ => failUnexpected "identifier"

/-- An object. -/
def object : Reading Cover := do
  let start ← here
  expect "\x7b"
  let (items, trailing) ← terminated "\x7d" (objectItem r)
  return .ofObject start items trailing

/-! ## Templates -/

/-- The pieces of a template from its text on, each list from the last one back. -/
def templateFrom : Nat → List String → List Expr → Reading (List String × List Expr)
  | 0, _, _ => failEnd
  | fuel + 1, texts, values => do
    match (← required).token with
    | .templateText raw =>
      advance
      if ← at? "`" then return ((raw :: texts).reverse, values.reverse)
      expect "$\x7b"
      let e ← withIn (expression r)
      expect "\x7d"
      templateFrom fuel (raw :: texts) (e :: values)
    | _ => failUnexpected "template token"

/-- A template. -/
def template : Reading (List String × List Expr) := do
  expect "`"
  let pieces ← templateFrom r (← tokensLeft) [] []
  expect "`"
  return pieces

/-! ## Unary operators -/

/-- The unary operator of a token. -/
def unaryOf? (t : Token) : Option UnaryOperator := UnaryOperator.all.find? fun op => t.is op.text

/-- The operator of a token that adds or subtracts one. -/
def updateOf? (t : Token) : Option UpdateOperator :=
  [UpdateOperator.increment, UpdateOperator.decrement].find? fun op => t.is op.text

/-- An operand after `await`. Outside of asynchronous functions the word is a name where nothing
can follow it. -/
def awaited : Reading Cover := do
  let start ← here
  expect "await"
  if ← at? "*" then failAt .awaitStar (← here)
  let ctx ← read
  if !ctx.inAsync && (← atAny? [")", "]"]) then return .ofName ctx.strict start "await"
  if ctx.inFunction && !ctx.inAsync then complain .awaitOutsideAsync start
  let c ← r.operand false
  return .ofOther start (.await c.value) false

/-- What stands for an expression that could not be read. -/
def unreadable (e : Fault) : Cover := .ofOther e.position .unreadable false

/-- An operand after a unary operator. If it cannot be read, this is a complaint. -/
def unary (op : UnaryOperator) : Reading Cover := do
  let start ← here
  advance
  let c ← tryCatch (r.operand false) fun e => do
    complainAll [e]
    return unreadable e
  match op, c.kind with
  | .delete, .name _ => complainStrict .deleteOfName c.start
  | _, _ => pure ()
  return .ofOperation start (.unary op c.value)

/-- An operand with its unary operators, given how one without operators is read. -/
def operandWith (leftHand : Reading Cover) : Reading Cover := do
  let l ← look
  match updateOf? l.token with
  | some op =>
    advance
    let c ← r.operand false
    c.checkPlace .invalidTarget
    return .ofOperation l.start (.update op true c.value)
  | none => pure ()
  match unaryOf? l.token with
  | some op => return ← unary r op
  | none => pure ()
  if ← at? "await" then return ← awaited r
  let c ← leftHand
  if c.kind = .arrow then return c
  let next ← look
  match updateOf? next.token with
  | some op =>
    if next.afterLineBreak then return c
    c.checkPlace .invalidTarget
    advance
    return .ofOperation l.start (.update op false c.value)
  | none => return c

/-! ## Binary operators -/

/-- The binary operator of a token. -/
def binaryOf? (inAllowed : Bool) (t : Token) : Option BinaryOperator :=
  BinaryOperator.all.find? fun op => t.is op.text && (op != .isIn || inAllowed)

/-- The binary operator of a token that is no word. -/
def signOf? (t : Token) : Option BinaryOperator :=
  (binaryOf? false t).filter (· != .instanceOf)

/-- The expression is an operation with `&&` or `||`. -/
def isLogical : Expr → Bool
  | .binary .and _ _ | .binary .or _ _ => true
  | _ => false

/-- The expression is an operation with `??`. -/
def isCoalescing : Expr → Bool
  | .binary .coalesce _ _ => true
  | _ => false

/-- Complains if `??` meets another logical operator without parentheses between them. -/
def checkCoalescing (op : BinaryOperator) (left right : Cover) : Reading Unit := do
  match op with
  | .coalesce =>
    if isLogical left.value then complain .mixedCoalescing left.start
    if isLogical right.value then complain .mixedCoalescing right.start
  | .and | .or => if isCoalescing left.value then complain .mixedCoalescing left.start
  | _ => return ()

/-- The expression is an operation with a unary operator. -/
def isUnary : Expr → Bool
  | .unary _ _ => true
  | _ => false

/-- The operators that follow a left operand and bind more tightly than `bound`, each with its
right operand. Powers group to the right. -/
def operationsFrom : Nat → Cover → Nat → Reading Cover
  | 0, left, _ => return left
  | fuel + 1, left, bound => do
    let l ← current
    match binaryOf? (← read).inAllowed l.token with
    | none => return left
    | some op =>
      if op.precedence ≤ bound then return left
      if op = .power && isUnary left.value then failAt .unaryBeforePower l.start
      advance
      let first ← r.operand false
      let right ← operationsFrom fuel first
        (if op = .power then op.precedence - 1 else op.precedence)
      checkCoalescing op left right
      operationsFrom fuel (.ofOperation left.start (.binary op left.value right.value)) bound

/-- All operators that follow an operand. -/
def operations (c : Cover) : Reading Cover := do operationsFrom r (← tokensLeft) c 0

/-- The first operand of an operation. If it cannot be read, what counts is the token that is
looked at then: at the end of the text that is what is wrong, and before a binary operator an
operand is missing, which is a complaint. -/
def firstOperand (arrowAllowed : Bool) : Reading Cover := do
  tryCatch (r.operand arrowAllowed) fun e => do
    let l ← required
    unless (binaryOf? (← read).inAllowed l.token).isSome do throw e
    complain .expressionExpected l.start
    return unreadable e

/-- Operands with binary operators between them. -/
def operation (arrowAllowed : Bool) : Reading Cover := do
  let c ← firstOperand r arrowAllowed
  if c.kind = .arrow then return c
  operations r c

/-! ## Arrow functions and parentheses -/

/-- The result of an arrow function that is an expression. -/
def arrowResult (isAsync : Bool) (start : Position) (parameters : List Pattern) :
    Reading Cover := do
  let result ← assignmentValue r
  return .ofArrow start (.arrow isAsync (.ofList parameters) result)

/-- An arrow function after its arrow. -/
def arrowTail (isAsync : Bool) (start : Position) (parameters : List Pattern) : Reading Cover :=
  withReader (bodyContext isAsync false) do
    if ← at? "\x7b" then
      let body ← braced r
      return .ofArrow start (.arrowBlock isAsync (.ofList parameters) (.ofList body))
    arrowResult r isAsync start parameters

/-- Operators after an arrow function that ends in a brace: a semicolon is missed before them and
after them. -/
def operationsAfterArrow (c : Cover) : Reading Cover := do
  match c.value with
  | .arrowBlock _ _ _ =>
    let l ← look
    if (signOf? l.token).isNone then return c
    complain .expectedSemicolon l.start
    let whole ← operations r c
    unless ← endsStatement? do complain .expectedSemicolon (← blame)
    return whole
  | _ => return c

/-- Fails if an item before the last one is spread: what gathers the rest comes last. -/
def checkSpreads : List Item → Reading Unit
  | [] | [_] => return ()
  | i :: rest => do
    if i.isSpread then failAt .restNotLast i.start
    checkSpreads rest

/-- An arrow function whose only parameter is an item before a line that begins with the arrow. -/
def arrowOfItem (i : Item) : Reading Item := do
  match i.cover.kind with
  | .name _ =>
    let c ← arrowTail r false i.start [← i.parameter]
    return ⟨false, i.start, c⟩
  | _ => return i

/-- The first item in parentheses. An arrow may follow it. -/
def firstItem : Reading Item := do
  let i ← item r
  if ← accept "=>" then arrowOfItem r i else return i

/-- The items in parentheses. After `async` stands only one. -/
def itemsInParentheses : Reading (List Item) := do
  expect "("
  if ← at? "async" then
    let start ← here
    let c ← r.assignment
    expect ")"
    return [⟨false, start, c⟩]
  if (← atEnd?) || (← at? ")") then
    expect ")"
    return []
  let first ← firstItem r
  let others ← separatedFrom ")" (item r) (← tokensLeft) [first]
  expect ")"
  return others

/-- The single value of items in parentheses. -/
def parenthesizedValue (start : Position) (items : List Item) : Reading Cover := do
  match items.find? (·.isSpread) with
  | some i => failAt .spreadInParentheses i.cover.start
  | none => pure ()
  match items.map (·.cover) with
  | [] => failAt .emptyParentheses start
  | first :: others =>
    let c := sequenceOf first others
    return .ofOther start (.paren c.value) c.isPlace

/-- Parentheses: an expression, the parameters of an arrow function, or, after `async`, either
those or arguments. -/
def parentheses (arrowAllowed isAsync : Bool) (start : Position) : Reading Cover := do
  let items ← withIn (itemsInParentheses r)
  if ← at? "=>" then
    if ← afterLineBreak? then failAt .lineBreakBeforeArrow start
    unless arrowAllowed do failAt .arrowNotAllowed start
    advance
    checkSpreads items
    return ← operationsAfterArrow r (← arrowTail r isAsync start (← items.mapM (·.parameter)))
  if isAsync then
    let elements := items.map (·.element)
    return .ofValue start (.call false (.identifier .written "async") (.ofList elements))
  parenthesizedValue start items

/-! ## Primary expressions -/

/-- A function as a value. -/
def functionValue (isAsync : Bool) : Reading Expr := do
  expect "function"
  let (name, f) ← functionAfterWord r isAsync false true
  return .functionValue name f

/-- A class as a value. -/
def classValue : Reading Expr := do
  expect "class"
  let (name, heritage, members) ← classAfterWord r false
  return .classValue name (.ofOption heritage) (.ofList members)

/-- A name, or an arrow function whose only parameter is one. -/
def nameOrArrow (arrowAllowed : Bool) : Reading Cover := do
  let start ← here
  match ← word? with
  | none => failUnexpected SyntaxError.expressionStarts
  | some w =>
    let ctx ← read
    if w != "let" && ctx.reserves w then failUnexpected SyntaxError.expressionStarts
    if w == "let" || strictlyUnbound.contains w then complainStrict .strictReservedName start
    advance
    if arrowAllowed then
      if w == "async" && (← atName?) then
        let parameter ← bindingName
        expect "=>"
        return ← arrowTail r true start [.binding parameter]
      unless ← afterLineBreak? do
        if ← accept "=>" then return ← arrowTail r false start [.binding w]
    return .ofName ctx.strict start w

/-- An operand of the smallest kind. -/
def primary (arrowAllowed : Bool) : Reading Cover := do
  let l ← current
  let literal (e : Expr) : Reading Cover := do
    advance
    return .ofValue l.start e
  match l.token with
  | .string s => literal (.stringLiteral s)
  | .number v => literal (.numberLiteral v)
  | .bigint i => literal (.bigLiteral i)
  | .regex pattern flags => literal (.regexLiteral ("/" ++ pattern ++ "/" ++ flags))
  | .punctuator "(" => parentheses r arrowAllowed false l.start
  | .punctuator "[" => array r
  | .punctuator "\x7b" => object r
  | .punctuator "`" =>
    let (texts, values) ← template r
    return .ofValue l.start (.template texts (.ofList values))
  | .word "this" =>
    advance
    return .ofOther l.start .thisValue false
  | .word "null" => literal .nullLiteral
  | .word "true" => literal (.boolLiteral true)
  | .word "false" => literal (.boolLiteral false)
  | .word "function" => return .ofValue l.start (← functionValue r false)
  | .word "class" => return .ofValue l.start (← classValue r)
  | .word "async" =>
    if ← atAsyncFunction? then
      advance
      return .ofValue l.start (← functionValue r true)
    if arrowAllowed then
      if (← peek).token.is "(" then
        advance
        return ← parentheses r arrowAllowed true l.start
    nameOrArrow r arrowAllowed
  | .word _ => nameOrArrow r arrowAllowed
  | .punctuator _ | .templateText _ | .endOfInput | .broken =>
    failUnexpected SyntaxError.expressionStarts

/-! ## Accesses and calls -/

/-- A member after its point. -/
def memberAfterPoint (optional : Bool) (object : Expr) : Reading Expr := do
  if ← at? "#" then return .member optional true object (← privateName)
  return .member optional false object (← anyName)

/-- An access with a computed key, after its bracket. -/
def indexAfterBracket (optional : Bool) (object : Expr) : Reading Expr := do
  let k ← withIn (expression r)
  expect "]"
  return .index optional object k

/-- What follows the two signs of an optional access. -/
def optionalAccess (c : Cover) : Reading Cover := do
  if ← accept "[" then return .ofOther c.start (← indexAfterBracket r true c.value) true
  if ← at? "(" then
    let elements ← arguments r false
    return .ofOther c.start (.call true c.value (.ofList elements)) false
  return .ofOther c.start (← memberAfterPoint true c.value) true

/-- The callee of a dynamic import. -/
def isImportCallee : Expr → Bool
  | .importCallee => true
  | _ => false

/-- The two signs of an optional access come next. -/
def atOptional? : Reading Bool := do
  if ← at? "?" then return (← peek).token.is "."
  return false

/-- An access or call that follows an expression, if there is one. -/
def access? (callsAllowed : Bool) (c : Cover) : Reading (Option Cover) := do
  let l ← current
  if ← atOptional? then
    advance
    advance
    return some (← optionalAccess r c)
  if ← accept "[" then return some (.ofMember c.start (← indexAfterBracket r false c.value))
  if callsAllowed && l.token.is "(" then
    let elements ← arguments r (isImportCallee c.value)
    return some (.ofValue c.start (.call false c.value (.ofList elements)))
  if ← accept "." then return some (.ofMember c.start (← memberAfterPoint false c.value))
  return none

/-- The accesses, and unless `new` waits for them the calls, that follow an expression. -/
def accessesFrom (callsAllowed : Bool) : Nat → Cover → Reading Cover
  | 0, c => return c
  | fuel + 1, c => do
    match ← access? r callsAllowed c with
    | some c => accessesFrom callsAllowed fuel c
    | none =>
      unless ← at? "`" do return c
      let (texts, values) ← template r
      accessesFrom callsAllowed fuel
        (.ofOther c.start (.taggedTemplate c.value texts (.ofList values)) false)

/-- The accesses and calls that follow an expression. An arrow function has none. -/
def accesses (callsAllowed : Bool) (c : Cover) : Reading Cover := do
  match c.kind with
  | .arrow => return c
  | _ => accessesFrom r callsAllowed (← tokensLeft) c

/-- `super` with its accesses, of which it needs one. -/
def superAccess (callsAllowed : Bool) (start : Position) : Reading Cover := do
  expect "super"
  match ← access? r callsAllowed (.ofOther start .superValue false) with
  | some c => accesses r callsAllowed c
  | none => failAt (if callsAllowed then .bareSuper else .superCall) (← blame)

/-- A dynamic import or the description of the module, with accesses. -/
def importAccess (callsAllowed : Bool) (start : Position) : Reading Cover := do
  expect "import"
  if ← accept "." then
    unless ← accept "meta" do failUnexpected "meta"
    return ← accesses r callsAllowed (.ofOther start .importMeta false)
  accesses r callsAllowed (.ofOther start .importCallee false)

/-- An expression with `new`; the mark says whether it went without arguments, after which no
access follows. -/
def construction (start : Position) : Reading (Bool × Cover) := do
  expect "new"
  if ← accept "." then
    unless ← accept "target" do failUnexpected "target"
    return (false, .ofOther start .newTarget false)
  let callee := (← r.callee).value
  if ← at? "(" then
    let elements ← arguments r false
    return (false, .ofValue start (.construct callee (.present (.ofList elements))))
  return (true, .ofValue start (.construct callee .absent))

/-- An operand with its accesses, and its calls if they are allowed. -/
def accessed (callsAllowed arrowAllowed : Bool) : Reading Cover := do
  let start ← here
  if ← at? "new" then
    let (bare, c) ← construction r start
    if bare then return c
    return ← accesses r callsAllowed c
  if ← at? "super" then return ← superAccess r callsAllowed start
  if ← at? "import" then return ← importAccess r callsAllowed start
  accesses r callsAllowed (← primary r arrowAllowed)

/-- What is constructed: an operand without calls. -/
def callee : Reading Cover := accessed r false false

/-- An operand without operators. -/
def leftHand (arrowAllowed : Bool) : Reading Cover := accessed r true arrowAllowed

/-- An operand with its unary operators. -/
def operand (arrowAllowed : Bool) : Reading Cover := operandWith r (leftHand r arrowAllowed)

/-! ## Conditionals and assignments -/

/-- A conditional, or less. -/
def conditional (arrowAllowed : Bool) : Reading Cover := do
  let c ← operation r arrowAllowed
  if c.kind = .arrow then return c
  if ← accept "?" then
    let yes ← withIn (assignmentValue r)
    expect ":"
    let no ← assignmentValue r
    return .ofOperation c.start (.conditional c.value yes no)
  return c

/-- The assignment operator of a token. -/
def assignmentOf? (t : Token) : Option AssignOperator :=
  AssignOperator.all.find? fun op => t.is op.text

/-- The target of an assignment: a pattern for a plain one, a place for one that computes. -/
def assignmentTarget (op : AssignOperator) (c : Cover) : Reading Pattern := do
  match op with
  | .plain => c.asTarget
  | .compound _ =>
    c.checkPlace .unassignable
    return .place c.value

/-- A value that a generator yields. -/
def yielded : Reading Cover := do
  let start ← here
  expect "yield"
  if (← read).inParameters then failAt .yieldInParameters start
  if ← endsStatement? then return .ofOther start (.yield false .absent) false
  let l ← current
  unless l.token.is "*" || l.token.beginsOperand do
    return .ofOther start (.yield false .absent) false
  let delegates ← accept "*"
  return .ofOther start (.yield delegates (.present (← assignmentValue r))) false

/-- A token that may be the head of an arrow function or begin it. -/
def beginsArrow (t : Token) : Bool :=
  match t with
  | .word w => w == "yield" || !(isKeyword w || valueWords.contains w)
  | t => t.is "("

/-- An expression without a comma outside of parentheses. -/
def assignment : Reading Cover := do
  if (← read).inGenerator && (← at? "yield") then return ← yielded r
  let c ← conditional r (beginsArrow (← required).token)
  match c.kind with
  | .arrow | .operation => return c
  | .name _ | .other =>
    match assignmentOf? (← current).token with
    | none => return c
    | some op =>
      let target ← assignmentTarget op c
      advance
      return .ofAssignment c.start op target (← assignmentValue r)

end ModuleBundler.Script.Reader
