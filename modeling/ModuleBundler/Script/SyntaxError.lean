import ModuleBundler.Text.Quoted

/-!
What can be wrong with a text that should be a script or a module, and how it is said. A fault is
an error at a position. Some faults end the reading; others are complaints, after which reading
goes on: a module with a complaint is refused all the same, a script is not.
-/

set_option autoImplicit false

namespace ModuleBundler.Script

/-! ## Positions -/

/-- A line and a column, both counted from one. A line ends at a line feed alone, and a column
counts characters. -/
structure Position where
  line : Nat
  column : Nat
deriving Repr, DecidableEq, Inhabited

/-- The position after a character. -/
def Position.after (p : Position) (c : Char) : Position :=
  if c = '\n' then ⟨p.line + 1, 1⟩ else ⟨p.line, p.column + 1⟩

/-! ## Errors -/

/-- What is wrong with a text. -/
inductive SyntaxError where
  -- missing or misplaced tokens
  | expected (what found : String)
  | unexpected (found wanted : String)
  | unexpectedEnd
  | expectedName
  | expectedStatementEnd
  | expectedSemicolon
  | expressionExpected
  | trailingComma
  -- tokens
  | unexpectedCharacter (c : Char)
  | unterminatedString
  | unterminatedRegex
  | unterminatedComment
  | unterminatedTemplate
  | unterminatedEscape
  | expectedHexDigits (count : Nat)
  | expectedUnicodeEscape
  | invalidUnicodeEscape
  | invalidCodePoint
  | invalidNameCharacter
  | escapeInReservedWord (word : String)
  | nameAfterNumber
  | expectedDigit (radix : Nat)
  | expectedExponent
  | misplacedNumericSeparator
  | legacyOctal
  | legacyDecimal
  | legacyComment
  | conflictMarker
  | spaceInPrivateName
  -- names
  | reservedImport
  | reservedShorthand
  | restrictedBinding
  | strictReservedName
  -- modules
  | moduleItemOutsideModule
  | exportWithoutSource
  -- assignment and patterns
  | invalidTarget
  | unassignable
  | notAPattern
  | methodInPattern
  | assignmentProperty
  | destructuringWithoutInit
  | restNotLast
  | restWithoutName
  | restParameterNotLast
  | restWithInit
  -- expressions
  | mixedCoalescing
  | unaryBeforePower
  | deleteOfName
  | awaitOutsideAsync
  | awaitStar
  | emptyParentheses
  | spreadInParentheses
  | lineBreakBeforeArrow
  | arrowNotAllowed
  | commaInImport
  | bareSuper
  | superCall
  | yieldInParameters
  | optionalProperty
  | accessorParameters
  | restInSetter
  -- statements
  | withInStrict
  | returnOutsideFunction
  | breakOutsideLoop
  | continueOutsideLoop
  | unknownBreakLabel
  | unknownContinueLabel
  | repeatedLabel (label : String)
  | lineBreakAfterThrow
  | repeatedDefault
  | declarationAsBody
  | labelledGenerator
  | severalLoopVariables
  | loopVariableInit
  | awaitLoopWithoutOf
  -- classes
  | repeatedHeritage
  | invalidClassName
  | staticConstructor
  | generatorConstructor
  | asyncConstructor
  | constructorAccessor
  | privateConstructor
  | fieldNamedConstructor
deriving Repr, DecidableEq

namespace SyntaxError

/-- The tokens that may begin an expression, as messages list them. -/
def expressionStarts : String :=
  "this, import, async, function, [ for array literal, \x7b for object literal, " ++
  "@ for decorator, function, class, null, true, false, number, bigint, string, regexp, " ++
  "` for template literal, (, or an identifier"

/-- The tokens that may begin a binding, as messages list them. -/
def bindingStarts : String := "yield, an identifier, [ or \x7b"

/-- The tokens that may begin the name of a property, as messages list them. -/
def keyStarts : String :=
  "identifier, string literal, numeric literal or [ for the computed key"

/-- The tokens that may follow the name of a property, as messages list them. -/
def afterKey : String := "... , *,  (, [, :, , ?, = or an identifier"

/-- The tokens that may begin a member of a class, as messages list them. -/
def memberStarts : String := "* for generator, private key, identifier or async"

/-- A digit of a radix, with its article. -/
def digitOf (radix : Nat) : String :=
  match radix with
  | 2 => "a binary"
  | 8 => "an octal"
  | 16 => "a hexadecimal"
  | _ => "a decimal"

/-- The text of an error. -/
def message : SyntaxError → String
  | .expected what found => "Expected '" ++ what ++ "', got '" ++ found ++ "'"
  | .unexpected found wanted => "Unexpected token `" ++ found ++ "`. Expected " ++ wanted
  | .unexpectedEnd => "Unexpected eof"
  | .expectedName => "Expected ident"
  | .expectedStatementEnd => "Expected ';', '\x7d' or <eof>"
  | .expectedSemicolon => "Expected a semicolon"
  | .expressionExpected => "Expression expected"
  | .trailingComma => "Trailing comma is not allowed"
  | .unexpectedCharacter c => "Unexpected character " ++ String.ofList (Text.quotedAlone c)
  | .unterminatedString => "Unterminated string constant"
  | .unterminatedRegex => "Unterminated regexp literal"
  | .unterminatedComment => "Unterminated block comment"
  | .unterminatedTemplate => "Unterminated template"
  | .unterminatedEscape => "Invalid string escape"
  | .expectedHexDigits count => "Expected " ++ toString count ++ " hex characters"
  | .expectedUnicodeEscape => "Expected unicode escape"
  | .invalidUnicodeEscape => "Invalid unicode escape"
  | .invalidCodePoint => "Invalid unicode code point"
  | .invalidNameCharacter => "Invalid character in identifier"
  | .escapeInReservedWord word => "Unexpected escape sequence in reserved word: " ++ word
  | .nameAfterNumber => "Identifier cannot follow number"
  | .expectedDigit radix => "Expected " ++ digitOf radix ++ " digit"
  | .expectedExponent => "Expected +, - or decimal digit after e"
  | .misplacedNumericSeparator => "A numeric separator is only allowed between two digits"
  | .legacyOctal => "Legacy octal escape is not permitted in strict mode"
  | .legacyDecimal => "Legacy decimal escape is not permitted in strict mode"
  | .legacyComment => "Legacy comments cannot be used in module code"
  | .conflictMarker => "Merge conflict marker encountered."
  | .spaceInPrivateName => "Unexpected space between # and identifier"
  | .reservedImport => "cannot import as reserved word"
  | .reservedShorthand => "Cannot use a reserved word as a shorthand property"
  | .restrictedBinding =>
    "'eval' and 'arguments' cannot be used as a binding identifier in strict mode"
  | .strictReservedName =>
    "'implements', 'interface', 'let', 'package', 'private', 'protected',  'public', 'static', " ++
    "or 'yield' cannot be used as an identifier in strict mode"
  | .moduleItemOutsideModule => "'import', and 'export' cannot be used outside of module code"
  | .exportWithoutSource => "export default statements required from '...';"
  | .invalidTarget => "Invalid left-hand side in 'for...in' statement"
  | .unassignable => "Cannot assign to this"
  | .notAPattern | .methodInPattern => "Not a pattern"
  | .assignmentProperty => "assignment property is invalid syntax"
  | .destructuringWithoutInit => "Destructuring bindings require initializers"
  | .restNotLast => "Rest element must be final element"
  | .restWithoutName => "`...` must be followed by an identifier in declaration contexts"
  | .restParameterNotLast => "A rest parameter must be last in a parameter list"
  | .restWithInit => "A rest parameter cannot have an initializer"
  | .mixedCoalescing =>
    "Nullish coalescing operator(??) requires parens when mixing with logical operators"
  | .unaryBeforePower => "** cannot be applied to unary expression"
  | .deleteOfName => "'delete' cannot be called on an identifier in strict mode"
  | .awaitOutsideAsync => "await isn't allowed in non-async function"
  | .awaitStar =>
    "await* has been removed from the async functions proposal. Use Promise.all() instead."
  | .emptyParentheses => "Parenthesized expression cannot be empty"
  | .spreadInParentheses => "Parenthesized expression cannot contain spread operator"
  | .lineBreakBeforeArrow => "Unexpected line break between arrow head and arrow"
  | .arrowNotAllowed => "An arrow function is not allowed here"
  | .commaInImport => "Trailing comma is disallowed inside import(...) arguments"
  | .bareSuper => "Invalid access to super"
  | .superCall => "Invalid `super()`"
  | .yieldInParameters => "'yield' cannot be used as a parameter within generator"
  | .optionalProperty => "An object member cannot be declared optional"
  | .accessorParameters => "A `set` accessor must have a corresponding `get` accessor"
  | .restInSetter => "Rest pattern is not allowed in setter"
  | .withInStrict => "With statement are not allowed in strict mode"
  | .returnOutsideFunction => "Return statement is not allowed here"
  | .breakOutsideLoop =>
    "A 'break' statement can only be used within an enclosing iteration or switch statement"
  | .continueOutsideLoop =>
    "A 'continue' statement can only jump to a label of an enclosing iteration statement"
  | .unknownBreakLabel => "A 'break' statement can only jump to a label of an enclosing statement"
  | .unknownContinueLabel => "Jump target cannot cross function boundary"
  | .repeatedLabel label => "Label " ++ label ++ " is already declared"
  | .lineBreakAfterThrow => "LineBreak cannot follow 'throw'"
  | .repeatedDefault => "A switch block cannot have multiple defaults"
  | .declarationAsBody => "Declaration is now allowed"
  | .labelledGenerator => "Generator cannot be labelled"
  | .severalLoopVariables => "Expected one variable binding"
  | .loopVariableInit => "Unexpected initializer in for in/of loop"
  | .awaitLoopWithoutOf => "for await syntax is valid only for for-of statement"
  | .repeatedHeritage => "`extends` clause already seen."
  | .invalidClassName => "Invalid class name"
  | .staticConstructor => "'static' modifier cannot appear on a constructor declaration"
  | .generatorConstructor => "A constructor cannot be generator"
  | .asyncConstructor => "Constructor can't be an async function"
  | .constructorAccessor => "Class constructor can't be an accessor"
  | .privateConstructor => "Classes may not have a private field named '#constructor'"
  | .fieldNamedConstructor => "Classes may not have a non-static field named 'constructor'"

end SyntaxError

/-- An error at a position. -/
structure Fault where
  error : SyntaxError
  position : Position
deriving Repr, DecidableEq

end ModuleBundler.Script
