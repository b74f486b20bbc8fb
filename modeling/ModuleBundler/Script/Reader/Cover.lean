import ModuleBundler.Script.Reader.Basic

/-!
Expressions that may turn out to be patterns. Until an arrow or an assignment operator comes, a
text such as `[a, b = 1]` or `(a)` is read without knowing which it is. A cover is all readings
at once: as an expression, as what is assigned to, as a part of that, and as what binds parameters.
Every reading as a pattern comes with what there is to say against it, and the readings of a whole
are put together from those of its parts.
-/

set_option autoImplicit false

namespace ModuleBundler.Script.Reader

/-- What kind of expression a cover is, as far as what follows it asks. -/
inductive CoverKind where
  | name (n : String)
  /-- An operation or a conditional, after which no assignment can follow. -/
  | operation
  | arrow
  | other
deriving DecidableEq

/-- A reading as a pattern, and what there is to say against it. -/
structure PatternReading where
  pattern : Pattern
  objections : List Fault := []

/-- An expression that may be a pattern. -/
structure Cover where
  start : Position
  kind : CoverKind
  /-- It is a place that values can be put in. -/
  isPlace : Bool
  value : Expr
  /-- As what is assigned to. -/
  target : PatternReading
  /-- As a part of what is assigned to. -/
  element : PatternReading
  /-- As what binds parameters. -/
  binding : PatternReading

namespace PatternReading

/-- What stands for an expression that is no pattern. -/
def refused (start : Position) : PatternReading := ⟨.place .unreadable, [⟨.notAPattern, start⟩]⟩

/-- An expression that is assigned to as it is, with an error if it is no place. -/
def placed (e : SyntaxError) (start : Position) (isPlace : Bool) (value : Expr) :
    PatternReading :=
  ⟨.place value, if isPlace then [] else [⟨e, start⟩]⟩

/-- An objection that ends the reading. Others are complaints. -/
def isFatal (f : Fault) : Bool := f.error = .methodInPattern || f.error = .restNotLast

/-- Raises objections in order. -/
def raise : List Fault → Reading Unit
  | [] => return ()
  | f :: rest => do
    if isFatal f then fail f
    complainAll [f]
    raise rest

/-- Takes a cover as a pattern. -/
def accept (p : PatternReading) : Reading Pattern := do
  raise p.objections
  return p.pattern

end PatternReading

namespace Cover

open PatternReading

/-! ## Simple covers -/

/-- A name. Strict code protects two of them. -/
def ofName (strict : Bool) (start : Position) (n : String) : Cover :=
  let isPlace := !(strict && (n == "eval" || n == "arguments"))
  let objection (e : SyntaxError) : List Fault := if isPlace then [] else [⟨e, start⟩]
  { start, isPlace
    kind := .name n
    value := .identifier .written n
    target := ⟨.binding n, objection .invalidTarget⟩
    element := ⟨.binding n, objection .unassignable⟩
    binding := ⟨.binding n, []⟩ }

/-- A member. -/
def ofMember (start : Position) (value : Expr) : Cover :=
  { start, value
    kind := .other
    isPlace := true
    target := ⟨.place value, []⟩
    element := ⟨.place value, []⟩
    binding := ⟨.place value, []⟩ }

/-- An expression such as a call or a literal, which may stand where a part of a pattern is
assigned to, though in vain. -/
def ofValue (start : Position) (value : Expr) : Cover :=
  { start, value
    kind := .other
    isPlace := false
    target := placed .invalidTarget start false value
    element := placed .unassignable start false value
    binding := refused start }

/-- Any other expression; as a whole it may be a place. -/
def ofOther (start : Position) (value : Expr) (isPlace : Bool) : Cover :=
  { start, value, isPlace
    kind := .other
    target := placed .invalidTarget start isPlace value
    element := refused start
    binding := refused start }

/-- An expression after which no assignment can follow. -/
def ofOperation (start : Position) (value : Expr) : Cover :=
  { ofOther start value false with kind := .operation }

/-- An arrow function. -/
def ofArrow (start : Position) (value : Expr) : Cover :=
  { ofOther start value false with kind := .arrow }

/-- A plain assignment. In a pattern it is the target with a default. -/
def ofAssignment (start : Position) (op : AssignOperator) (target : Pattern) (value : Expr) :
    Cover :=
  let other := ofOther start (.assign op target value) false
  match op with
  | .plain =>
    let p : PatternReading := ⟨.defaulted target value, []⟩
    { other with element := p, binding := p }
  | .compound _ => other

/-! ## Arrays -/

/-- An element of an array that may be a pattern. -/
inductive ArrayItem where
  | hole
  | plain (c : Cover)
  | spread (start : Position) (c : Cover)

namespace ArrayItem

def isHole : ArrayItem → Bool
  | .hole => true
  | _ => false

/-- The element as part of an expression. -/
def value : ArrayItem → Node (.option .element)
  | .hole => .absent
  | .plain c => .present (.plainElement c.value)
  | .spread _ c => .present (.spreadElement c.value)

/-- The element as part of a pattern, given how its cover is read and whether it is the last. -/
def pattern (reading : Cover → PatternReading) (last : Bool) :
    ArrayItem → Node (.option .pattern) × List Fault
  | .hole => (.absent, [])
  | .plain c => (.present (reading c).pattern, (reading c).objections)
  | .spread start c =>
    (.present (.gathered (reading c).pattern),
      (if last then [] else [⟨.restNotLast, start⟩]) ++ (reading c).objections)

end ArrayItem

/-- The array pattern of items. Holes at the end are left out, and what stands before them is not
the last element. -/
def arrayPattern (reading : Cover → PatternReading) (items : List ArrayItem)
    (trailingComma : Bool) : PatternReading :=
  let kept := (items.reverse.dropWhile (·.isHole)).reverse
  let isLast (i : Nat) : Bool := i + 1 = items.length
  let parts := kept.zipIdx.map fun (item, i) => item.pattern reading (isLast i)
  ⟨.arrayPattern (.ofList (parts.map (·.1))) trailingComma, parts.flatMap (·.2)⟩

/-- An array. -/
def ofArray (start : Position) (items : List ArrayItem) (trailingComma : Bool) : Cover :=
  let parts := arrayPattern (·.element) items trailingComma
  { start
    kind := .other
    isPlace := false
    value := .array (.ofList (items.map (·.value))) trailingComma
    target := parts
    element := parts
    binding := arrayPattern (·.binding) items trailingComma }

/-! ## Objects -/

/-- A property of an object that may be a pattern. -/
inductive ObjectItem where
  | shorthand (name : String)
  /-- A name with a default, which only a pattern may have. -/
  | defaulted (start : Position) (name : String) (value : Expr)
  | keyed (key : Key) (c : Cover)
  /-- A method, which only an expression may have. -/
  | method (start : Position) (p : Property)
  | spread (c : Cover)

namespace ObjectItem

def isSpread : ObjectItem → Bool
  | .spread _ => true
  | _ => false

/-- The property as part of an expression. -/
def value : ObjectItem → Property
  | .shorthand name => .shorthand name
  | .defaulted start name value => .shorthandDefault start name value
  | .keyed key c => .keyValue key c.value
  | .method _ p => p
  | .spread c => .spreadProperty c.value

/-- The property as part of a pattern. The rest is gathered as parameters are bound. -/
def pattern (reading : Cover → PatternReading) : ObjectItem → PatternProperty × List Fault
  | .shorthand name => (.namePattern name .absent, [])
  | .defaulted _ name value => (.namePattern name (.present value), [])
  | .keyed key c => (.keyPattern key (reading c).pattern, (reading c).objections)
  | .method start _ => (.namePattern "" .absent, [⟨.methodInPattern, start⟩])
  | .spread c => (.gatheredProperty c.binding.pattern, c.binding.objections)

end ObjectItem

/-- The object pattern of items. After a property that gathers the rest no comma is kept. -/
def objectPattern (reading : Cover → PatternReading) (items : List ObjectItem)
    (trailingComma : Bool) : PatternReading :=
  let parts := items.map (·.pattern reading)
  let endsInRest := items.getLast?.any (·.isSpread)
  ⟨.objectPattern (.ofList (parts.map (·.1))) (trailingComma && !endsInRest),
    parts.flatMap (·.2)⟩

/-- An object. -/
def ofObject (start : Position) (items : List ObjectItem) (trailingComma : Bool) : Cover :=
  let parts := objectPattern (·.element) items trailingComma
  { start
    kind := .other
    isPlace := false
    value := .object (.ofList (items.map (·.value)))
    target := parts
    element := parts
    binding := objectPattern (·.binding) items trailingComma }

/-! ## Deciding -/

/-- Complains if a cover is no place. -/
def checkPlace (e : SyntaxError) (c : Cover) : Reading Unit := do
  unless c.isPlace do complain e c.start

/-- Takes a cover as the target of a plain assignment or of a loop. -/
def asTarget (c : Cover) : Reading Pattern := c.target.accept

/-- Takes a cover as a parameter of an arrow function. -/
def asBinding (c : Cover) : Reading Pattern := c.binding.accept

end Cover

end ModuleBundler.Script.Reader
