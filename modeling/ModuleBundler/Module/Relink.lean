import ModuleBundler.Script.Scope

/-!
Replacing references to names. A reference is a name in expression position; it is replaced by an
expression unless a declaration around it hides the name. What is replaced is a reference that is
read: names that are assigned to, that label, that declare, and the keys of properties stay. Two
positions need more than the expression:

* a call of a name must not pass the object of the expression as receiver, so the expression is
  wrapped as `(0, expression)`;
* a shorthand property keeps its key.

The names that parameters, the heads of loops and handlers bind are declared one after another, so
a default is read before the names to the right of it are hidden.

The key of a class field is looked up as if it were a reference, wherever it stands.
-/

set_option autoImplicit false

namespace ModuleBundler

open Script

/-- What names stand for, and the names that declarations hide. -/
structure Links where
  bindings : List (String × Expr)
  hidden : List String := []
  /-- Patterns are being bound: what they bind hides names from what follows them. -/
  inBinding : Bool := false

namespace Links

/-- What a name stands for where nothing is hidden. -/
def find? (l : Links) (name : String) : Option Expr := l.bindings.lookup name

/-- What a reference stands for. -/
def resolve? (l : Links) (name : String) : Option Expr :=
  if l.hidden.contains name then none else l.find? name

/-- The links where more names are hidden. -/
def hide (l : Links) (names : List String) : Links := { l with hidden := names ++ l.hidden }

/-- The links among patterns that are being bound. -/
def binding (l : Links) : Links := { l with inBinding := true }

/-- The links in an expression. -/
def reading (l : Links) : Links := { l with inBinding := false }

/-- The links after a part that may bind names. -/
def after {c : Category} (l : Links) (n : Node c) : Links :=
  if l.inBinding then l.hide n.boundNames else l

/-- A reference, replaced if it stands for something. -/
def identifier (l : Links) (origin : Origin) (name : String) : Expr :=
  (l.resolve? name).getD (.identifier origin name)

/-- A shorthand property, with a value of its own if its name stands for something. -/
def shorthand (l : Links) (name : String) : Property :=
  match l.resolve? name with
  | some e => .keyValue (.nameKey name) e
  | none => .shorthand name

/-- An expression as a callee that passes no receiver. -/
def detached (e : Expr) : Expr :=
  .paren (.sequence (.ofList [.numberLiteral .zero, e]))

/-- What a callee that is a name becomes; `other` is what any other callee becomes. -/
def callee (l : Links) (e : Expr) (other : Expr) : Expr :=
  match e with
  | .identifier _ name =>
    match l.resolve? name with
    | some e => detached e
    | none => other
  | _ => other

/-- The key of a field. A name that stands for something gives way to it as it is, brackets or
not, and whether it is hidden does not matter. -/
def fieldKey (l : Links) (key : Key) (other : Key) : Key :=
  match key with
  | .nameKey name =>
    match l.find? name with
    | some e => .bareKey e
    | none => other
  | _ => other

end Links

open Node in
/-- Replaces the references in a tree. -/
def Script.Node.relink : {c : Category} → Node c → Links → Node c
  | _, .nil, _ => .nil
  | _, .cons head tail, l => .cons (head.relink l) (tail.relink (l.after head))
  | _, .absent, _ => .absent
  | _, .present n, l => .present (n.relink l)
  -- expressions
  | _, .identifier origin name, l => l.identifier origin name
  | _, .template texts values, l => .template texts (values.relink l)
  | _, .taggedTemplate tag texts values, l =>
    .taggedTemplate (tag.relink l) texts (values.relink l)
  | _, .array elements trailingComma, l => .array (elements.relink l) trailingComma
  | _, .object properties, l => .object (properties.relink l)
  | _, .functionValue name f, l => .functionValue name (f.relink (l.hide name.toList))
  | _, .classValue name heritage members, l =>
    .classValue name (heritage.relink (l.hide name.toList)) (members.relink (l.hide name.toList))
  | _, .arrow isAsync parameters result, l =>
    .arrow isAsync (parameters.relink l.binding)
      (result.relink (l.hide parameters.boundNames))
  | _, .arrowBlock isAsync parameters body, l =>
    .arrowBlock isAsync (parameters.relink l.binding)
      (body.relink (l.hide (parameters.boundNames ++ body.bodyNames)))
  | _, .unary op operand, l => .unary op (operand.relink l)
  | _, .update op before operand, l => .update op before (operand.relink l)
  | _, .binary op left right, l => .binary op (left.relink l) (right.relink l)
  | _, .assign op target value, l => .assign op (target.relink l) (value.relink l)
  | _, .conditional test yes no, l =>
    .conditional (test.relink l) (yes.relink l) (no.relink l)
  | _, .sequence parts, l => .sequence (parts.relink l)
  | _, .call optional callee arguments, l =>
    .call optional (l.callee callee (callee.relink l)) (arguments.relink l)
  | _, .construct callee arguments, l => .construct (callee.relink l) (arguments.relink l)
  | _, .member optional isPrivate holder name, l =>
    .member optional isPrivate (holder.relink l) name
  | _, .index optional holder key, l => .index optional (holder.relink l) (key.relink l)
  | _, .yield delegate value, l => .yield delegate (value.relink l)
  | _, .await value, l => .await (value.relink l)
  | _, .paren inner, l => .paren (inner.relink l)
  -- elements of arrays and arguments
  | _, .plainElement value, l => .plainElement (value.relink l)
  | _, .spreadElement value, l => .spreadElement (value.relink l)
  -- properties of objects
  | _, .shorthand name, l => l.shorthand name
  | _, .shorthandDefault start name value, l => .shorthandDefault start name (value.relink l)
  | _, .keyValue key value, l => .keyValue (key.relink l) (value.relink l)
  | _, .objectMethod kind key f, l => .objectMethod kind (key.relink l) (f.relink l)
  | _, .spreadProperty value, l => .spreadProperty (value.relink l)
  -- keys
  | _, .computedKey e, l => .computedKey (e.relink l.reading)
  | _, .bareKey e, l => .bareKey (e.relink l)
  -- functions
  | _, .function isAsync isGenerator parameters body, l =>
    .function isAsync isGenerator (parameters.relink l.binding)
      (body.relink (l.hide (parameters.boundNames ++ body.bodyNames)))
  -- patterns
  | _, .arrayPattern elements trailingComma, l => .arrayPattern (elements.relink l) trailingComma
  | _, .objectPattern properties trailingComma, l =>
    .objectPattern (properties.relink l) trailingComma
  | _, .defaulted target value, l =>
    .defaulted (target.relink l) (value.relink (l.after target).reading)
  | _, .gathered target, l => .gathered (target.relink l)
  | _, .place e, l => .place (e.relink l.reading)
  -- properties of object patterns
  | _, .keyPattern key target, l => .keyPattern (key.relink l) (target.relink l)
  | _, .namePattern name value, l =>
    .namePattern name (value.relink (l.after (.namePattern name value)).reading)
  | _, .gatheredProperty target, l => .gatheredProperty (target.relink l)
  -- members of classes
  | _, .classMethod isStatic kind key f, l =>
    .classMethod isStatic kind (key.relink l) (f.relink l)
  | _, .constructor parameters body, l =>
    .constructor (parameters.relink l.binding)
      (body.relink (l.hide (parameters.boundNames ++ body.bodyNames)))
  | _, .field isStatic key value, l =>
    .field isStatic (l.fieldKey key (key.relink l)) (value.relink l)
  -- statements
  | _, .expressionStatement e, l => .expressionStatement (e.relink l)
  | _, .block body, l => .block (body.relink (l.hide body.blockNames))
  | _, .withStatement holder body, l => .withStatement (holder.relink l) (body.relink l)
  | _, .returnStatement value, l => .returnStatement (value.relink l)
  | _, .labelled label body, l => .labelled label (body.relink l)
  | _, .ifStatement test yes no, l =>
    .ifStatement (test.relink l) (yes.relink l) (no.relink l)
  | _, .switchStatement value cases, l =>
    .switchStatement (value.relink l) (cases.relink l)
  | _, .throwStatement value, l => .throwStatement (value.relink l)
  | _, .tryStatement body handling finalizer, l =>
    .tryStatement (body.relink (l.hide body.blockNames)) (handling.relink l)
      (finalizer.relink (l.hide finalizer.blockNames))
  | _, .whileLoop test body, l => .whileLoop (test.relink l) (body.relink l)
  | _, .doLoop body test, l => .doLoop (body.relink l) (test.relink l)
  | _, .forLoop init test next body, l =>
    .forLoop (init.relink l) (test.relink (l.hide init.headNames))
      (next.relink (l.hide init.headNames)) (body.relink (l.hide init.headNames))
  | _, .forIn head holder body, l =>
    .forIn (head.relink l) (holder.relink (l.hide head.headNames))
      (body.relink (l.hide head.headNames))
  | _, .forOf isAwait head values body, l =>
    .forOf isAwait (head.relink l) (values.relink (l.hide head.headNames))
      (body.relink (l.hide head.headNames))
  | _, .variableDeclaration kind declarators, l => .variableDeclaration kind (declarators.relink l)
  | _, .functionDeclaration name f, l => .functionDeclaration name (f.relink l)
  | _, .classDeclaration name heritage members, l =>
    .classDeclaration name (heritage.relink l) (members.relink l)
  -- parts of statements
  | _, .declarator target init, l =>
    .declarator (target.relink l) (init.relink (l.after target).reading)
  | _, .switchCase test body, l => .switchCase (test.relink l) (body.relink l)
  | _, .declarationHead .var declarators, l => .declarationHead .var (declarators.relink l)
  | _, .declarationHead kind declarators, l => .declarationHead kind (declarators.relink l.binding)
  | _, .expressionHead e, l => .expressionHead (e.relink l)
  | _, .patternHead p, l => .patternHead (p.relink l)
  | _, .handler parameter body, l =>
    .handler (parameter.relink l.binding)
      (body.relink (l.hide (parameter.boundNames ++ body.blockNames)))
  -- trees without references
  | _, n, _ => n

end ModuleBundler
