import ModuleBundler.Script.Node

/-!
Building trees. These functions make the trees that a program adds to a script, so every name
they put in expression position is marked as generated, and no string has a written form.
-/

set_option autoImplicit false

namespace ModuleBundler.Script.Build

/-! ## Expressions -/

/-- A reference to a name. -/
def name (s : String) : Expr := .identifier .generated s

/-- A string literal. -/
def str (s : String) : Expr := .stringLiteral (.ofValue s)

/-- A natural number. -/
def num (n : Nat) : Expr := .numberLiteral (.ofNat n)

/-- A call with plain arguments. -/
def call (callee : Expr) (arguments : List Expr) : Expr :=
  .call false callee (.ofList (arguments.map .plainElement))

/-- A property by its name. -/
def dot (holder : Expr) (key : String) : Expr := .member false false holder key

/-- A property by the value of an expression. -/
def itemAt (holder key : Expr) : Expr := .index false holder key

/-- An object literal with named fields. -/
def object (fields : List (String × Expr)) : Expr :=
  .object (.ofList (fields.map fun (k, v) => .keyValue (.nameKey k) v))

/-- A plain function. -/
def function (parameters : List String) (body : List Statement) : Function :=
  .function false false (.ofList (parameters.map .binding)) (.ofList body)

/-- A function without a name, as a value. -/
def lambda (parameters : List String) (body : List Statement) : Expr :=
  .functionValue none (function parameters body)

/-- A plain assignment to a property. -/
def assignTo (target value : Expr) : Expr := .assign .plain (.place target) value

/-! ## Statements -/

/-- An expression as a statement. -/
def run (e : Expr) : Statement := .expressionStatement e

/-- A variable with an initial value. -/
def var (s : String) (init : Expr) : Statement :=
  .variableDeclaration .var (.ofList [.declarator (.binding s) (.present init)])

/-- Returns a value. -/
def returns (e : Expr) : Statement := .returnStatement (.present e)

/-- A function declaration. -/
def declare (s : String) (parameters : List String) (body : List Statement) : Statement :=
  .functionDeclaration s (function parameters body)

/-- Statements in braces. -/
def block (body : List Statement) : Statement := .block (.ofList body)

/-- A statement under a condition. -/
def when (test : Expr) (yes : Statement) : Statement := .ifStatement test yes .absent

end ModuleBundler.Script.Build
