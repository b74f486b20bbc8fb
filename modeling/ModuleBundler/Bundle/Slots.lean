import ModuleBundler.Script.Node

/-!
Filling the slots of a tree. A slot is a name that stands as an expression; it gives way to the
expression that is meant for it. Each expression is put in once, where the tree is met first that
has its name, and what is put in is not looked at: names in it stay, whatever they are.

The order is that of the syntax. Two forms are not met in the order in which they are written: the
members of a class come before what it extends, and the test of a `do` loop before its body. A name
after a point is part of its access and is no slot.
-/

set_option autoImplicit false

namespace ModuleBundler.Bundle

open Script

/-- The name that stands for the table of modules. -/
def modulesSlot : String := "__pumice_modules__"

/-- The name that stands for the number of the module that is loaded first. -/
def entrySlot : String := "__pumice_entry__"

/-- What is still to be put in. -/
structure Slots where
  modules : Option Expr
  entry : Option Expr

/-- Fills slots in the order in which they are met. -/
abbrev Filling := StateM Slots

namespace Filling

variable {α β γ δ ε : Type}

/-- Makes something of one part. -/
def map (make : α → β) (x : Filling α) : Filling β := fun s => (make (x s).1, (x s).2)

/-- Makes something of two parts, the first of which is filled first. -/
def map₂ (make : α → β → γ) (x : Filling α) (y : Filling β) : Filling γ := fun s =>
  map (make (x s).1) y (x s).2

/-- Makes something of three parts, which are filled in order. -/
def map₃ (make : α → β → γ → δ) (x : Filling α) (y : Filling β) (z : Filling γ) : Filling δ :=
  fun s => map₂ (make (x s).1) y z (x s).2

/-- Makes something of four parts, which are filled in order. -/
def map₄ (make : α → β → γ → δ → ε) (x : Filling α) (y : Filling β) (z : Filling γ)
    (w : Filling δ) : Filling ε :=
  fun s => map₃ (make (x s).1) y z w (x s).2

end Filling

namespace Slots

/-- Everything has been put in. -/
def isEmpty (s : Slots) : Bool := s.modules.isNone && s.entry.isNone

/-- The expression for a name, if it is still to be put in. -/
def pending (s : Slots) (name : String) : Option Expr :=
  if name = modulesSlot then s.modules else if name = entrySlot then s.entry else none

/-- What is still to be put in after the expression for a name. -/
def without (s : Slots) (name : String) : Slots :=
  if name = modulesSlot then { s with modules := none }
  else if name = entrySlot then { s with entry := none }
  else s

/-- The expression for a name, given out once. -/
def take (name : String) : Filling (Option Expr) := fun s => (s.pending name, s.without name)

/-- What a name that stands as an expression becomes. -/
def identifier (origin : Origin) (name : String) : Filling Expr :=
  Filling.map (fun found => found.getD (.identifier origin name)) (take name)

/-- The key of a field. A name is met as if it were an expression; `other` is what any other key
becomes. -/
def fieldKey (key : Key) (other : Filling Key) : Filling Key :=
  match key with
  | .nameKey name => Filling.map (fun found => found.elim key .bareKey) (take name)
  | _ => other

end Slots

open Filling in
/-- Fills the slots of a tree. -/
def fill : {c : Category} → Node c → Filling (Node c)
  | _, .cons head tail => map₂ .cons (fill head) (fill tail)
  | _, .present n => map .present (fill n)
  -- expressions
  | _, .identifier origin name => Slots.identifier origin name
  | _, .template texts values => map (.template texts) (fill values)
  | _, .taggedTemplate tag texts values =>
    map₂ (fun tag values => .taggedTemplate tag texts values) (fill tag) (fill values)
  | _, .array elements trailingComma =>
    map (fun elements => .array elements trailingComma) (fill elements)
  | _, .object properties => map .object (fill properties)
  | _, .functionValue name f => map (.functionValue name) (fill f)
  | _, .classValue name heritage members =>
    map₂ (fun members heritage => .classValue name heritage members) (fill members) (fill heritage)
  | _, .arrow isAsync parameters result => map₂ (.arrow isAsync) (fill parameters) (fill result)
  | _, .arrowBlock isAsync parameters body =>
    map₂ (.arrowBlock isAsync) (fill parameters) (fill body)
  | _, .unary op operand => map (.unary op) (fill operand)
  | _, .update op before operand => map (.update op before) (fill operand)
  | _, .binary op left right => map₂ (.binary op) (fill left) (fill right)
  | _, .assign op target value => map₂ (.assign op) (fill target) (fill value)
  | _, .conditional test yes no => map₃ .conditional (fill test) (fill yes) (fill no)
  | _, .sequence parts => map .sequence (fill parts)
  | _, .call optional callee arguments => map₂ (.call optional) (fill callee) (fill arguments)
  | _, .construct callee arguments => map₂ .construct (fill callee) (fill arguments)
  | _, .member optional isPrivate holder name =>
    map (fun holder => .member optional isPrivate holder name) (fill holder)
  | _, .index optional holder key => map₂ (.index optional) (fill holder) (fill key)
  | _, .yield delegate value => map (.yield delegate) (fill value)
  | _, .await value => map .await (fill value)
  | _, .paren inner => map .paren (fill inner)
  -- elements of arrays and arguments
  | _, .plainElement value => map .plainElement (fill value)
  | _, .spreadElement value => map .spreadElement (fill value)
  -- properties of objects
  | _, .shorthandDefault start name value => map (.shorthandDefault start name) (fill value)
  | _, .keyValue key value => map₂ .keyValue (fill key) (fill value)
  | _, .objectMethod kind key f => map₂ (.objectMethod kind) (fill key) (fill f)
  | _, .spreadProperty value => map .spreadProperty (fill value)
  -- keys
  | _, .computedKey e => map .computedKey (fill e)
  | _, .bareKey e => map .bareKey (fill e)
  -- functions
  | _, .function isAsync isGenerator parameters body =>
    map₂ (.function isAsync isGenerator) (fill parameters) (fill body)
  -- patterns
  | _, .arrayPattern elements trailingComma =>
    map (fun elements => .arrayPattern elements trailingComma) (fill elements)
  | _, .objectPattern properties trailingComma =>
    map (fun properties => .objectPattern properties trailingComma) (fill properties)
  | _, .defaulted target value => map₂ .defaulted (fill target) (fill value)
  | _, .gathered target => map .gathered (fill target)
  | _, .place e => map .place (fill e)
  -- properties of object patterns
  | _, .keyPattern key target => map₂ .keyPattern (fill key) (fill target)
  | _, .namePattern name value => map (.namePattern name) (fill value)
  | _, .gatheredProperty target => map .gatheredProperty (fill target)
  -- members of classes
  | _, .classMethod isStatic kind key f => map₂ (.classMethod isStatic kind) (fill key) (fill f)
  | _, .constructor parameters body => map₂ .constructor (fill parameters) (fill body)
  | _, .field isStatic key value =>
    map₂ (.field isStatic) (Slots.fieldKey key (fill key)) (fill value)
  -- statements
  | _, .expressionStatement e => map .expressionStatement (fill e)
  | _, .block body => map .block (fill body)
  | _, .withStatement holder body => map₂ .withStatement (fill holder) (fill body)
  | _, .returnStatement value => map .returnStatement (fill value)
  | _, .labelled label body => map (.labelled label) (fill body)
  | _, .ifStatement test yes no => map₃ .ifStatement (fill test) (fill yes) (fill no)
  | _, .switchStatement value cases => map₂ .switchStatement (fill value) (fill cases)
  | _, .throwStatement value => map .throwStatement (fill value)
  | _, .tryStatement body handling finalizer =>
    map₃ .tryStatement (fill body) (fill handling) (fill finalizer)
  | _, .whileLoop test body => map₂ .whileLoop (fill test) (fill body)
  | _, .doLoop body test => map₂ (fun test body => .doLoop body test) (fill test) (fill body)
  | _, .forLoop init test next body => map₄ .forLoop (fill init) (fill test) (fill next) (fill body)
  | _, .forIn head holder body => map₃ .forIn (fill head) (fill holder) (fill body)
  | _, .forOf isAwait head values body =>
    map₃ (.forOf isAwait) (fill head) (fill values) (fill body)
  | _, .variableDeclaration kind declarators => map (.variableDeclaration kind) (fill declarators)
  | _, .functionDeclaration name f => map (.functionDeclaration name) (fill f)
  | _, .classDeclaration name heritage members =>
    map₂ (fun members heritage => .classDeclaration name heritage members) (fill members)
      (fill heritage)
  -- parts of statements
  | _, .declarator target init => map₂ .declarator (fill target) (fill init)
  | _, .switchCase test body => map₂ .switchCase (fill test) (fill body)
  | _, .declarationHead kind declarators => map (.declarationHead kind) (fill declarators)
  | _, .expressionHead e => map .expressionHead (fill e)
  | _, .patternHead p => map .patternHead (fill p)
  | _, .handler parameter body => map₂ .handler (fill parameter) (fill body)
  -- trees without expressions that are names
  | _, n => pure n

/-- Fills the slots of statements, one after another. -/
def fillAll : List Statement → Filling (List Statement)
  | [] => pure []
  | n :: rest => Filling.map₂ List.cons (fill n) (fillAll rest)

end ModuleBundler.Bundle
