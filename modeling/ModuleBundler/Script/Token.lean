import ModuleBundler.Script.Operator

/-!
Tokens of scripts, and which words are reserved. A word is one kind of token whether it is
reserved or not: keys and members may be named by any word, and in some contexts a reserved word
is a name.
-/

set_option autoImplicit false

namespace ModuleBundler.Script

/-- A token. -/
inductive Token where
  | word (name : String)
  | punctuator (text : String)
  | string (s : StringLiteral)
  | number (v : Binary64)
  | bigint (i : Int)
  | regex (pattern flags : String)
  /-- A piece of a template between its marks. -/
  | templateText (raw : String)
  | endOfInput
  /-- A text that makes no token. -/
  | broken
deriving Repr, DecidableEq, Inhabited

namespace Token

/-- A token as messages name it. -/
def shown : Token → String
  | .word name => name
  | .punctuator text => text
  | .string s => "string literal (" ++ s.value ++ ")"
  | .number _ => "numeric literal"
  | .bigint _ => "bigint literal"
  | .regex pattern flags => "regexp literal (" ++ pattern ++ ", " ++ flags ++ ")"
  | .templateText raw => "template token (" ++ raw ++ ")"
  | .endOfInput => "<eof>"
  | .broken => "<lexing error>"

/-- The word or punctuator of the given text. -/
def is (t : Token) (text : String) : Bool :=
  match t with
  | .word name => name == text
  | .punctuator p => p == text
  | _ => false

def isEnd : Token → Bool
  | .endOfInput => true
  | _ => false

end Token

/-! ## Reserved words -/

/-- Words that are never names, whatever the context. -/
def alwaysReserved : List String :=
  ["break", "case", "catch", "class", "const", "continue", "debugger", "default", "delete", "do",
    "else", "export", "extends", "finally", "for", "function", "if", "import", "in", "instanceof",
    "new", "return", "super", "switch", "this", "throw", "try", "typeof", "var", "void", "while",
    "with", "null", "true", "false"]

/-- Words that are reserved in strict code alone. -/
def strictlyReserved : List String :=
  ["implements", "package", "protected", "interface", "private", "public"]

/-- Words that strict code may not bind, though they can be read. -/
def strictlyUnbound : List String := "static" :: "yield" :: strictlyReserved

/-- Words that stand for values. -/
def valueWords : List String := ["null", "true", "false"]

/-- The word takes part in the grammar, reserved or not. -/
def isKeyword (w : String) : Bool :=
  (alwaysReserved.contains w && !valueWords.contains w) || w == "await" || w == "let" ||
    w == "yield"

/-- After `let`, a token that makes it the beginning of a declaration. -/
def Token.followsLet : Token → Bool
  | .word w => !alwaysReserved.contains w
  | .punctuator p => p == "[" || p == "\x7b"
  | _ => false

/-! ## Places for operands -/

/-- Keywords after which an operand is due. -/
def operandKeywords : List String :=
  ["await", "case", "default", "delete", "do", "else", "extends", "in", "instanceof", "new",
    "return", "throw", "typeof", "void", "yield"]

/-- Punctuators, other than operators with two operands, after which an operand is due. -/
def operandPunctuators : List String :=
  ["=>", "...", "!", "(", "\x7b", "[", ";", ",", ":", "$\x7b", "?", "~"]

/-- An operand is due after the token, as far as the token alone tells. -/
def Token.precedesOperand : Token → Bool
  | .word w => operandKeywords.contains w
  | .punctuator p =>
    operandPunctuators.contains p || BinaryOperator.all.any (·.text == p) ||
      AssignOperator.all.any (·.text == p)
  | _ => false

/-- Keywords that begin an operand. -/
def beginningKeywords : List String :=
  ["await", "class", "delete", "function", "import", "new", "super", "this", "throw", "typeof",
    "void", "yield"]

/-- Punctuators that begin an operand. -/
def beginningPunctuators : List String :=
  ["!", "(", "[", "\x7b", "`", "$\x7b", "++", "--", "~", "+", "-"]

/-- A token that can begin an operand. -/
def Token.beginsOperand : Token → Bool
  | .word w => !isKeyword w || beginningKeywords.contains w
  | .punctuator p => beginningPunctuators.contains p
  | .string _ | .number _ | .bigint _ | .regex _ _ => true
  | .templateText _ | .endOfInput | .broken => false

end ModuleBundler.Script
