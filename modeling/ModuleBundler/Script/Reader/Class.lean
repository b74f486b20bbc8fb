import ModuleBundler.Script.Reader.Function

/-!
Classes. A member begins with modifiers that are all possible names too, so it is read as a key
first, and what follows the key decides: a parenthesis makes it a method, the end of a field makes
it a field, and anything else means that the key was a modifier.
-/

set_option autoImplicit false

namespace ModuleBundler.Script.Reader

variable (r : Readers)

/-! ## Keys -/

/-- The key of the constructor. -/
def isConstructorKey : Key → Bool
  | .nameKey n => n == "constructor"
  | .stringKey s => s.value == "constructor"
  | _ => false

/-- The key of a member, which may be private. -/
def memberKey : Reading Key := do
  if ← at? "#" then
    let start ← here
    let n ← privateName
    if n = "constructor" then complain .privateConstructor start
    return .privateKey n
  key r

/-! ## Members -/

/-- What stands before the key of a member. -/
structure MemberHead where
  /-- Where the member starts, with its modifiers. -/
  start : Position
  isStatic : Bool

/-- A field may end here, or its value begins. -/
def atFieldEnd? : Reading Bool := return (← at? "=") || (← endsStatement?)

/-- The value of a field, if it has one. -/
def fieldValue : Reading (Option Expr) := do
  if ← accept "=" then return some (← withIn (assignmentValue r))
  return none

/-- A field after its key. -/
def fieldTail (h : MemberHead) (keyStart : Position) (k : Key) : Reading Member := do
  if isConstructorKey k then failAt .fieldNamedConstructor keyStart
  let value ← fieldValue r
  unless ← acceptEnd do complain .expectedSemicolon (← blame)
  return .field h.isStatic k (.ofOption value)

/-- A method after its key; `start` is where the parameters of an accessor are complained of. -/
def classMethod (h : MemberHead) (kind : MethodKind) (start : Position) (k : Key)
    (isAsync isGenerator : Bool) : Reading Member := do
  let (ps, body) ← methodTail r kind isAsync isGenerator start
  return .classMethod h.isStatic kind k (.function isAsync isGenerator (.ofList ps) (.ofList body))

/-- A constructor after its key. -/
def constructorTail (h : MemberHead) : Reading Member := do
  if h.isStatic then complain .staticConstructor h.start
  let ps ← constructorParameters r
  let body ← functionBody r false false
  return .constructor (.ofList ps) (.ofList body)

/-- A method that generates, after its mark. -/
def generatorMethod (h : MemberHead) : Reading Member := do
  let start ← here
  let k ← memberKey r
  if isConstructorKey k then complain .generatorConstructor h.start
  classMethod r h .method start k false true

/-- An asynchronous method after its word. -/
def asyncMethod (h : MemberHead) : Reading Member := do
  let isGenerator ← accept "*"
  let start ← here
  let k ← memberKey r
  if isConstructorKey k then failAt .asyncConstructor start
  classMethod r h .method start k true isGenerator

/-- An accessor after its word, which starts at `start`. -/
def accessor (h : MemberHead) (kind : MethodKind) (start : Position) : Reading Member := do
  let k ← memberKey r
  if isConstructorKey k then complain .constructorAccessor start
  classMethod r h kind start k false false

/-- A member whose key, read at `start`, can only be a modifier. -/
def modifiedMember (h : MemberHead) (start : Position) (k : Key) : Reading Member := do
  match k with
  | .nameKey "get" => accessor r h .getter start
  | .nameKey "set" => accessor r h .setter start
  | .nameKey "async" => asyncMethod r h
  | _ => failUnexpected SyntaxError.memberStarts

/-- A member after `static`, if it had that. -/
def memberTail (h : MemberHead) : Reading Member := do
  if ← accept "*" then return ← generatorMethod r h
  let start ← here
  let k ← memberKey r
  if ← at? "(" then
    if isConstructorKey k then return ← constructorTail r h
    return ← classMethod r h .method start k false false
  if ← atFieldEnd? then return ← fieldTail r h start k
  modifiedMember r h start k

/-- A member of a class. -/
def classMember : Reading Member := do
  if ← accept ";" then return .emptyMember
  let start ← here
  if ← accept "static" then
    let named : MemberHead := ⟨start, false⟩
    if ← at? "(" then return ← classMethod r named .method start (.nameKey "static") false false
    if ← atFieldEnd? then return ← fieldTail r named start (.nameKey "static")
    return ← memberTail r ⟨start, true⟩
  memberTail r ⟨start, false⟩

/-- The members of a class up to its brace. -/
def membersFrom : Nat → List Member → Reading (List Member)
  | 0, ms => return ms.reverse
  | fuel + 1, ms => do
    if (← atEnd?) || (← at? "\x7d") then return ms.reverse
    membersFrom fuel ((← classMember r) :: ms)

/-! ## Classes -/

/-- Names that types have, which no class may have. -/
def invalidClassNames : List String :=
  ["string", "null", "number", "object", "any", "unknown", "boolean", "bigint", "symbol", "void",
    "never", "intrinsic"]

/-- The name of a class, if it has to be there or is. -/
def className (required : Bool) : Reading (Option String) := do
  let start ← here
  let n ← optionalName required
  if n.any invalidClassNames.contains then complain .invalidClassName start
  return n

/-- What a class extends, if it says so. -/
def heritage : Reading (Option Expr) := do
  unless ← accept "extends" do return none
  let e := (← r.leftHand).value
  if ← at? "extends" then
    complain .repeatedHeritage (← here)
    advance
    let _ ← r.leftHand
  return some e

/-- The end of a class. At the end of the text its brace is missed without ending the reading. -/
def classEnd : Reading Unit := do
  if ← atEnd? then complain (.expected "\x7d" Token.endOfInput.shown) (← blame)
  else expect "\x7d"

/-- A class after its word: its name, if it has one or has to have one, what it extends, and its
members. All of it is strict code. -/
def classAfterWord (nameRequired : Bool) :
    Reading (Option String × Option Expr × List Member) :=
  withStrict true do
    let name ← className nameRequired
    let heritage ← heritage r
    expect "\x7b"
    let members ← membersFrom r (← tokensLeft) []
    classEnd
    return (name, heritage, members)

end ModuleBundler.Script.Reader
