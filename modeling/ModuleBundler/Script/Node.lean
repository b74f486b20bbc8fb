import ModuleBundler.Number.Binary64
import ModuleBundler.Script.SyntaxError

/-!
Syntax trees of scripts. All kinds of tree are one family indexed by its category, with lists and
optional parts as categories of their own. So a function on trees is one structural recursion over
one type, and a property of every tree is one induction: there is no nesting through other types
and no mutual definition.

A tree keeps what the printed text depends on: parentheses and the raw text of literals are kept,
blanks and comments are not. Two marks look arbitrary and are explained by the printer: whether a
name in expression position was written or generated, and whether an array ended in a comma. Of
positions only one kind is kept, where a property with a default stands, for whether it is an error
is seen late.
-/

set_option autoImplicit false

namespace ModuleBundler.Script

/-! ## Small parts -/

/-- The category of a tree. -/
inductive Category where
  | expression
  | element
  | property
  | key
  | function
  | pattern
  | patternProperty
  | member
  | statement
  | declarator
  | switchCase
  | loopHead
  | handler
  | list (c : Category)
  | option (c : Category)
deriving Repr, DecidableEq

/-- Where a name that stands as an expression comes from: a text, or a program. -/
inductive Origin where
  | written
  | generated
deriving Repr, DecidableEq

/-- A string literal: its value, and the text it was written in, quotes included, if it was. -/
structure StringLiteral where
  value : String
  raw : Option String
deriving Repr, DecidableEq

/-- A string literal that was not written. -/
def StringLiteral.ofValue (value : String) : StringLiteral := ⟨value, none⟩

inductive UnaryOperator where
  | minus | plus | not | complement | typeof | void | delete
deriving Repr, DecidableEq

inductive UpdateOperator where
  | increment | decrement
deriving Repr, DecidableEq

inductive BinaryOperator where
  | equal | notEqual | strictEqual | strictNotEqual
  | less | lessEqual | greater | greaterEqual
  | shiftLeft | shiftRight | shiftRightUnsigned
  | add | subtract | multiply | divide | remainder | power
  | bitOr | bitXor | bitAnd
  | isIn | instanceOf
  | or | and | coalesce
deriving Repr, DecidableEq

/-- Plain assignment, or one that computes with the old value first. -/
inductive AssignOperator where
  | plain
  | compound (op : BinaryOperator)
deriving Repr, DecidableEq

inductive DeclarationKind where
  | var | lexical | constant
deriving Repr, DecidableEq

inductive MethodKind where
  | method | getter | setter
deriving Repr, DecidableEq

/-! ## Trees -/

/-- A tree of a category. -/
inductive Node : Category → Type where
  | nil {c : Category} : Node (.list c)
  | cons {c : Category} (head : Node c) (tail : Node (.list c)) : Node (.list c)
  | absent {c : Category} : Node (.option c)
  | present {c : Category} (node : Node c) : Node (.option c)
  -- expressions
  | identifier (origin : Origin) (name : String) : Node .expression
  | thisValue : Node .expression
  | superValue : Node .expression
  /-- The callee of a dynamic import. -/
  | importCallee : Node .expression
  | nullLiteral : Node .expression
  | boolLiteral (b : Bool) : Node .expression
  | numberLiteral (v : Binary64) : Node .expression
  | bigLiteral (i : Int) : Node .expression
  | stringLiteral (s : StringLiteral) : Node .expression
  | regexLiteral (raw : String) : Node .expression
  /-- Raw texts with values between them; there is one text more than there are values. -/
  | template (texts : List String) (values : Node (.list .expression)) : Node .expression
  | taggedTemplate (tag : Node .expression) (texts : List String)
      (values : Node (.list .expression)) : Node .expression
  | array (elements : Node (.list (.option .element))) (trailingComma : Bool) : Node .expression
  | object (properties : Node (.list .property)) : Node .expression
  | functionValue (name : Option String) (f : Node .function) : Node .expression
  | classValue (name : Option String) (heritage : Node (.option .expression))
      (members : Node (.list .member)) : Node .expression
  | arrow (isAsync : Bool) (parameters : Node (.list .pattern)) (result : Node .expression) :
      Node .expression
  | arrowBlock (isAsync : Bool) (parameters : Node (.list .pattern))
      (body : Node (.list .statement)) : Node .expression
  | unary (op : UnaryOperator) (operand : Node .expression) : Node .expression
  | update (op : UpdateOperator) (before : Bool) (operand : Node .expression) : Node .expression
  | binary (op : BinaryOperator) (left right : Node .expression) : Node .expression
  | assign (op : AssignOperator) (target : Node .pattern) (value : Node .expression) :
      Node .expression
  | conditional (test yes no : Node .expression) : Node .expression
  | sequence (parts : Node (.list .expression)) : Node .expression
  | call (optional : Bool) (callee : Node .expression) (arguments : Node (.list .element)) :
      Node .expression
  | construct (callee : Node .expression) (arguments : Node (.option (.list .element))) :
      Node .expression
  | member (optional isPrivate : Bool) (object : Node .expression) (name : String) :
      Node .expression
  | index (optional : Bool) (object key : Node .expression) : Node .expression
  | newTarget : Node .expression
  | importMeta : Node .expression
  | yield (delegate : Bool) (value : Node (.option .expression)) : Node .expression
  | await (value : Node .expression) : Node .expression
  | paren (inner : Node .expression) : Node .expression
  /-- Stands for an expression that could not be read. -/
  | unreadable : Node .expression
  -- elements of arrays and arguments
  | plainElement (value : Node .expression) : Node .element
  | spreadElement (value : Node .expression) : Node .element
  -- properties of objects
  | shorthand (name : String) : Node .property
  /-- A name with a default, and where it stands. It belongs in patterns, but objects that have it
  are read. -/
  | shorthandDefault (start : Position) (name : String) (value : Node .expression) :
      Node .property
  | keyValue (key : Node .key) (value : Node .expression) : Node .property
  | objectMethod (kind : MethodKind) (key : Node .key) (f : Node .function) : Node .property
  | spreadProperty (value : Node .expression) : Node .property
  -- keys
  | nameKey (name : String) : Node .key
  | privateKey (name : String) : Node .key
  | stringKey (s : StringLiteral) : Node .key
  | numberKey (v : Binary64) : Node .key
  | bigKey (i : Int) : Node .key
  | computedKey (e : Node .expression) : Node .key
  /-- An expression that stands where a name is due. It is never read, only made. -/
  | bareKey (e : Node .expression) : Node .key
  -- functions
  | function (isAsync isGenerator : Bool) (parameters : Node (.list .pattern))
      (body : Node (.list .statement)) : Node .function
  -- patterns
  | binding (name : String) : Node .pattern
  | arrayPattern (elements : Node (.list (.option .pattern))) (trailingComma : Bool) :
      Node .pattern
  | objectPattern (properties : Node (.list .patternProperty)) (trailingComma : Bool) :
      Node .pattern
  | defaulted (target : Node .pattern) (value : Node .expression) : Node .pattern
  | gathered (target : Node .pattern) : Node .pattern
  /-- An expression that is assigned to. -/
  | place (e : Node .expression) : Node .pattern
  -- properties of object patterns
  | keyPattern (key : Node .key) (target : Node .pattern) : Node .patternProperty
  | namePattern (name : String) (value : Node (.option .expression)) : Node .patternProperty
  | gatheredProperty (target : Node .pattern) : Node .patternProperty
  -- members of classes
  | classMethod (isStatic : Bool) (kind : MethodKind) (key : Node .key) (f : Node .function) :
      Node .member
  | constructor (parameters : Node (.list .pattern)) (body : Node (.list .statement)) :
      Node .member
  | field (isStatic : Bool) (key : Node .key) (value : Node (.option .expression)) : Node .member
  | emptyMember : Node .member
  -- statements
  | expressionStatement (e : Node .expression) : Node .statement
  | block (body : Node (.list .statement)) : Node .statement
  | emptyStatement : Node .statement
  | debuggerStatement : Node .statement
  | withStatement (object : Node .expression) (body : Node .statement) : Node .statement
  | returnStatement (value : Node (.option .expression)) : Node .statement
  | labelled (label : String) (body : Node .statement) : Node .statement
  | breakStatement (label : Option String) : Node .statement
  | continueStatement (label : Option String) : Node .statement
  | ifStatement (test : Node .expression) (yes : Node .statement)
      (no : Node (.option .statement)) : Node .statement
  | switchStatement (value : Node .expression) (cases : Node (.list .switchCase)) :
      Node .statement
  | throwStatement (value : Node .expression) : Node .statement
  | tryStatement (body : Node (.list .statement)) (handler : Node (.option .handler))
      (finalizer : Node (.option (.list .statement))) : Node .statement
  | whileLoop (test : Node .expression) (body : Node .statement) : Node .statement
  | doLoop (body : Node .statement) (test : Node .expression) : Node .statement
  | forLoop (init : Node (.option .loopHead)) (test next : Node (.option .expression))
      (body : Node .statement) : Node .statement
  | forIn (head : Node .loopHead) (object : Node .expression) (body : Node .statement) :
      Node .statement
  | forOf (isAwait : Bool) (head : Node .loopHead) (values : Node .expression)
      (body : Node .statement) : Node .statement
  | variableDeclaration (kind : DeclarationKind) (declarators : Node (.list .declarator)) :
      Node .statement
  | functionDeclaration (name : String) (f : Node .function) : Node .statement
  | classDeclaration (name : String) (heritage : Node (.option .expression))
      (members : Node (.list .member)) : Node .statement
  -- parts of statements
  | declarator (target : Node .pattern) (init : Node (.option .expression)) : Node .declarator
  | switchCase (test : Node (.option .expression)) (body : Node (.list .statement)) :
      Node .switchCase
  | declarationHead (kind : DeclarationKind) (declarators : Node (.list .declarator)) :
      Node .loopHead
  | expressionHead (e : Node .expression) : Node .loopHead
  | patternHead (p : Node .pattern) : Node .loopHead
  | handler (parameter : Node (.option .pattern)) (body : Node (.list .statement)) :
      Node .handler
deriving DecidableEq

abbrev Expr := Node .expression
abbrev Element := Node .element
abbrev Property := Node .property
abbrev Key := Node .key
abbrev Function := Node .function
abbrev Pattern := Node .pattern
abbrev PatternProperty := Node .patternProperty
abbrev Member := Node .member
abbrev Statement := Node .statement
abbrev Declarator := Node .declarator
abbrev SwitchCase := Node .switchCase
abbrev LoopHead := Node .loopHead
abbrev Handler := Node .handler

instance : Inhabited Expr := ⟨.nullLiteral⟩
instance : Inhabited Statement := ⟨.emptyStatement⟩

/-! ## Lists and optional parts

A function that recurses through the lists of a tree recurses on trees of every category, so what
it yields is a type that depends on the category: here a list of trees for a list, and nothing
that matters for all other categories. -/

namespace Node

/-- What `listing` yields for a tree of a category. -/
def Listing : Category → Type
  | .list c => List (Node c)
  | _ => Unit

/-- The listing of a tree that lists nothing. -/
def Listing.none : (c : Category) → Listing c
  | .list c => ([] : List (Node c))
  | .option _ | .expression | .element | .property | .key | .function | .pattern
  | .patternProperty | .member | .statement | .declarator | .switchCase | .loopHead
  | .handler => ()

/-- The trees that a tree lists. -/
def listing : {c : Category} → Node c → Listing c
  | .list _, .cons (c := c) head tail => (head :: listing tail : List (Node c))
  | c, _ => Listing.none c

/-- The trees of a list, in order. -/
def toList {c : Category} (n : Node (.list c)) : List (Node c) := listing n

/-- The tree of a list of trees. -/
def ofList {c : Category} : List (Node c) → Node (.list c)
  | [] => .nil
  | n :: rest => .cons n (ofList rest)

/-- The tree of an optional tree. -/
def ofOption {c : Category} : Option (Node c) → Node (.option c)
  | none => .absent
  | some n => .present n

/-- The optional tree of a tree. -/
def toOption {c : Category} : Node (.option c) → Option (Node c)
  | .absent => none
  | .present n => some n

@[simp] theorem toList_nil {c : Category} : (.nil : Node (.list c)).toList = [] := rfl

@[simp] theorem toList_cons {c : Category} (n : Node c) (rest : Node (.list c)) :
    (Node.cons n rest).toList = n :: rest.toList := rfl

@[simp] theorem toList_ofList {c : Category} (ns : List (Node c)) : (ofList ns).toList = ns := by
  induction ns with
  | nil => rfl
  | cons n rest ih => simp [ofList, ih]

@[simp] theorem toOption_ofOption {c : Category} (n : Option (Node c)) :
    (ofOption n).toOption = n := by
  cases n <;> rfl

end Node

/-- The statements of a script, after the line that names its interpreter, if it has one. -/
structure Program where
  interpreter : Option String
  body : List Statement
deriving DecidableEq

end ModuleBundler.Script
