import ModuleBundler.Script.Node

/-!
The written forms of operators and keywords. Each form is said once, here; the printer writes it
and the reader looks it up.
-/

set_option autoImplicit false

namespace ModuleBundler.Script

def UnaryOperator.text : UnaryOperator → String
  | .minus => "-"
  | .plus => "+"
  | .not => "!"
  | .complement => "~"
  | .typeof => "typeof"
  | .void => "void"
  | .delete => "delete"

/-- The operator is a word, so a blank has to follow it. -/
def UnaryOperator.isWord : UnaryOperator → Bool
  | .typeof | .void | .delete => true
  | _ => false

def UnaryOperator.all : List UnaryOperator :=
  [.minus, .plus, .not, .complement, .typeof, .void, .delete]

def UpdateOperator.text : UpdateOperator → String
  | .increment => "++"
  | .decrement => "--"

def BinaryOperator.text : BinaryOperator → String
  | .equal => "=="
  | .notEqual => "!="
  | .strictEqual => "==="
  | .strictNotEqual => "!=="
  | .less => "<"
  | .lessEqual => "<="
  | .greater => ">"
  | .greaterEqual => ">="
  | .shiftLeft => "<<"
  | .shiftRight => ">>"
  | .shiftRightUnsigned => ">>>"
  | .add => "+"
  | .subtract => "-"
  | .multiply => "*"
  | .divide => "/"
  | .remainder => "%"
  | .power => "**"
  | .bitOr => "|"
  | .bitXor => "^"
  | .bitAnd => "&"
  | .isIn => "in"
  | .instanceOf => "instanceof"
  | .or => "||"
  | .and => "&&"
  | .coalesce => "??"

def BinaryOperator.all : List BinaryOperator :=
  [.equal, .notEqual, .strictEqual, .strictNotEqual, .less, .lessEqual, .greater, .greaterEqual,
    .shiftLeft, .shiftRight, .shiftRightUnsigned, .add, .subtract, .multiply, .divide, .remainder,
    .power, .bitOr, .bitXor, .bitAnd, .isIn, .instanceOf, .or, .and, .coalesce]

/-- How tightly a binary operator binds. -/
def BinaryOperator.precedence : BinaryOperator → Nat
  | .coalesce | .or => 1
  | .and => 2
  | .bitOr => 3
  | .bitXor => 4
  | .bitAnd => 5
  | .equal | .notEqual | .strictEqual | .strictNotEqual => 6
  | .less | .lessEqual | .greater | .greaterEqual | .isIn | .instanceOf => 7
  | .shiftLeft | .shiftRight | .shiftRightUnsigned => 8
  | .add | .subtract => 9
  | .multiply | .divide | .remainder => 10
  | .power => 11

/-- The operators that assignment can be combined with. -/
def BinaryOperator.assignable : List BinaryOperator :=
  [.shiftLeft, .shiftRight, .shiftRightUnsigned, .add, .subtract, .multiply, .divide, .remainder,
    .power, .bitOr, .bitXor, .bitAnd, .or, .and, .coalesce]

def AssignOperator.text : AssignOperator → String
  | .plain => "="
  | .compound op => op.text ++ "="

def AssignOperator.all : List AssignOperator :=
  .plain :: BinaryOperator.assignable.map .compound

def DeclarationKind.text : DeclarationKind → String
  | .var => "var"
  | .lexical => "let"
  | .constant => "const"

/-- The word before the name of a getter or a setter. -/
def MethodKind.text : MethodKind → String
  | .method => ""
  | .getter => "get "
  | .setter => "set "

end ModuleBundler.Script
