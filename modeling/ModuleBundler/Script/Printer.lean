import ModuleBundler.Number.Shortest
import ModuleBundler.Script.Layout
import ModuleBundler.Script.LiteralText
import ModuleBundler.Script.Operator

/-!
Printing trees. The printer is one recursion over trees of every category. A list yields what its
members yield, in order, an optional tree what its tree yields, if it is there; a function yields
its parts, for what stands around them differs from method to method. Everything else yields
pieces.

Two styles differ in one rule, the line breaks inside array literals. In the compact style an
element that is a written name stays on the line of its neighbours; in the other every element has
a line of its own.
-/

set_option autoImplicit false

namespace ModuleBundler.Script

/-- How the elements of arrays are laid out. -/
inductive Style where
  /-- A written name shares its line with its neighbours. -/
  | compact
  /-- Every element has a line of its own. -/
  | spacious
deriving Repr, DecidableEq

/-! ## What a tree yields -/

/-- The parts of a printed function. -/
structure FunctionPieces where
  isAsync : Bool
  isGenerator : Bool
  parameters : Pieces
  body : Pieces

/-- What printing a tree of a category yields. -/
def Printed : Category → Type
  | .list c => List (Printed c)
  | .option c => Option (Printed c)
  | .function => FunctionPieces
  | .expression | .element | .property | .key | .pattern | .patternProperty | .member
  | .statement | .declarator | .switchCase | .loopHead | .handler => Pieces

namespace Printer

open Pieces

/-- Pieces one after another. -/
def glue (ps : List Pieces) : Pieces := ps.flatten

/-- A text that stands only if a mark is set. -/
def word (s : String) (mark : Bool) : Pieces := if mark then text s else []

/-- A text with a blank on either side. -/
def spaced (s : String) : Pieces := text (" " ++ s ++ " ")

/-- Pieces for something that may be left out. -/
def ifPresent {α : Type} (f : α → Pieces) (a : Option α) : Pieces := a.elim [] f

/-- Pieces with a comma and a blank between them. -/
def commas (ps : List Pieces) : Pieces := separated (text ", ") ps

/-- Pieces in braces, each on a line of its own. -/
def bracedLines (ps : List Pieces) : Pieces :=
  text "\x7b" ++ endLine ++ indented (ps.flatMap (· ++ endLine)) ++ text "\x7d"

/-- Pieces in braces, each but the last followed by a comma. -/
def bracedFields (ps : List Pieces) : Pieces :=
  text "\x7b" ++ endLine ++ indented (separated (text "," ++ endLine) ps) ++
    (if ps.isEmpty then [] else endLine) ++ text "\x7d"

/-- Parameters and body of a function, with a blank between them. -/
def FunctionPieces.tail (f : FunctionPieces) : Pieces := f.parameters ++ text " " ++ f.body

/-- What stands before the name of a method. -/
def methodPrefix (kind : MethodKind) (f : FunctionPieces) : Pieces :=
  text kind.text ++ word "async " f.isAsync ++ word "*" f.isGenerator

/-- A function with the word for it. -/
def functionPieces (name : Option String) (f : FunctionPieces) : Pieces :=
  word "async " f.isAsync ++ text "function" ++ word "*" f.isGenerator ++
    ifPresent (fun name => text (" " ++ name)) name ++ FunctionPieces.tail f

/-- A class. -/
def classPieces (name : Option String) (heritage : Option Pieces) (members : List Pieces) :
    Pieces :=
  text "class " ++ ifPresent (fun name => text (name ++ " ")) name ++
    ifPresent (text "extends " ++ · ++ text " ") heritage ++ bracedLines members

/-- Parameters in parentheses. -/
def parenthesized (ps : List Pieces) : Pieces := text "(" ++ commas ps ++ text ")"

/-- A private name. -/
def isPrivate : Key → Bool
  | .privateKey _ => true
  | _ => false

/-- A method of a class. Before a private name stands a blank. -/
def classMethodPieces (isStatic : Bool) (kind : MethodKind) (isPrivate : Bool) (key : Pieces)
    (f : FunctionPieces) : Pieces :=
  word "static " isStatic ++
    (if isPrivate then
      match kind with
      | .method => methodPrefix .method f ++ text " "
      | kind => text kind.text
    else methodPrefix kind f) ++
    key ++ FunctionPieces.tail f

/-- A method of an object. No blank follows the parameter of a setter. -/
def objectMethodPieces (kind : MethodKind) (key : Pieces) (f : FunctionPieces) : Pieces :=
  methodPrefix kind f ++ key ++ text " " ++
    (match kind with
      | .setter => f.parameters ++ f.body
      | _ => FunctionPieces.tail f)

/-- Raw texts with printed values between them. -/
def templatePieces (texts : List String) (values : List Pieces) : Pieces :=
  text "`" ++ go texts values ++ text "`"
where
  go : List String → List Pieces → Pieces
    | t :: ts, v :: vs =>
      [.text (templateText t)] ++ text "$\x7b" ++ v ++ text "\x7d" ++ go ts vs
    | t :: _, [] => [.text (templateText t)]
    | [], _ => []

/-! ## Arrays -/

/-- An element that stays on its line in the compact style: a written name, spread or not. -/
def sharesLine : Node (.option .element) → Bool
  | .present (.plainElement (.identifier .written _)) => true
  | .present (.spreadElement (.identifier .written _)) => true
  | _ => false

/-- Which elements of an array stay on their line. -/
def sharing (style : Style) (elements : Node (.list (.option .element))) : List Bool :=
  elements.toList.map fun e => style == .compact && sharesLine e

/-- Elements with commas between them; a line ends after a comma unless an element next to it
stays on its line. -/
def joinElements : List (Bool × Pieces) → Pieces
  | [] => []
  | [(_, p)] => p
  | (shares, p) :: (sharesNext, q) :: rest =>
    p ++ text "," ++ (if shares || sharesNext then text " " else endLine) ++
      joinElements ((sharesNext, q) :: rest)

/-- An array literal. -/
def arrayPieces (shares : List Bool) (elements : List (Option Pieces)) (trailingComma : Bool) :
    Pieces :=
  if elements.isEmpty then text "[" ++ word ", " trailingComma ++ text "]"
  else
    let line (shares : Option Bool) : Pieces := if shares.getD false then [] else endLine
    text "[" ++ line shares.head? ++
      indented (joinElements (shares.zip (elements.map (·.getD []))) ++ word ", " trailingComma) ++
      line shares.getLast? ++ text "]"

/-! ## Operators -/

/-- A blank keeps two signs from being read as one operator. -/
def signBlank (op : UnaryOperator) : Expr → Pieces
  | .unary inner _ =>
    match op, inner with
    | .plus, .plus | .minus, .minus => text " "
    | _, _ => []
  | .update inner true _ =>
    match op, inner with
    | .plus, .increment | .minus, .decrement => text " "
    | _, _ => []
  | _ => []

/-- A number that would swallow the point of a member access. -/
def swallowsPoint : Expr → Bool
  | .numberLiteral v => v.isIntegral
  | _ => false

/-- What stands between a unary operator and its operand. -/
def afterOperator (op : UnaryOperator) (operand : Expr) : Pieces :=
  if op.isWord then text " " else signBlank op operand

/-! ## Parts of statements -/

/-- A statement that is a block. -/
def isBlock : Statement → Bool
  | .block _ => true
  | _ => false

/-- One thing after a block, another after any other statement. -/
def afterBlock (s : Statement) (block other : Pieces) : Pieces := if isBlock s then block else other

/-- A jump, to a label or without one. -/
def jumpPieces (jump : String) (label : Option String) : Pieces :=
  text jump ++ ifPresent (fun l => text (" " ++ l)) label ++ text ";"

/-- One case of a switch. -/
def casePieces (test : Option Pieces) (body : List Pieces) : Pieces :=
  (match test with
    | some p => text "case " ++ p ++ text ":"
    | none => text "default:") ++
    endLine ++ indented (body.flatMap (· ++ endLine))

/-! ## Patterns -/

/-- An array pattern; an element that is left out leaves its comma. -/
def arrayPatternPieces (elements : List (Option Pieces)) (trailingComma : Bool) : Pieces :=
  if elements.isEmpty then text "[]"
  else text "[" ++ commas (elements.map (·.getD [])) ++ word ", " trailingComma ++ text "]"

/-- An object pattern. -/
def objectPatternPieces (properties : List Pieces) (trailingComma : Bool) : Pieces :=
  if properties.isEmpty then text "\x7b\x7d"
  else text "\x7b " ++ commas properties ++ word ", " trailingComma ++ text " \x7d"

end Printer

open Pieces Printer

/-! ## The printer -/

/-- Prints a tree. -/
def Node.print (style : Style) : {c : Category} → Node c → Printed c
  | .list c, .nil => ([] : List (Printed c))
  | .list c, .cons head tail => (head.print style :: tail.print style : List (Printed c))
  | .option c, .absent => (none : Option (Printed c))
  | .option c, .present n => (some (n.print style) : Option (Printed c))
  -- expressions
  | _, .identifier _ name => text name
  | _, .thisValue => text "this"
  | _, .superValue => text "super"
  | _, .importCallee => text "import"
  | _, .nullLiteral => text "null"
  | _, .boolLiteral b => text (if b then "true" else "false")
  | _, .numberLiteral v => [.text v.plain]
  | _, .bigLiteral i => [.text (bigText i)]
  | _, .stringLiteral s => [.text s.text]
  | _, .regexLiteral raw => text raw
  | _, .template texts values => templatePieces texts (values.print style)
  | _, .taggedTemplate tag texts values =>
    glue [tag.print style, templatePieces texts (values.print style)]
  | _, .array elements trailingComma =>
    arrayPieces (sharing style elements) (elements.print style) trailingComma
  | _, .object properties => bracedFields (properties.print style)
  | _, .functionValue name f => functionPieces name (f.print style)
  | _, .classValue name heritage members =>
    classPieces name (heritage.print style) (members.print style)
  | _, .arrow isAsync parameters result =>
    glue [word "async " isAsync, parenthesized (parameters.print style), text "=>",
      indented (result.print style), endLine]
  | _, .arrowBlock isAsync parameters body =>
    glue [word "async " isAsync, parenthesized (parameters.print style), text "=>",
      bracedLines (body.print style)]
  | _, .unary op operand => glue [text op.text, afterOperator op operand, operand.print style]
  | _, .update op true operand => glue [text op.text, operand.print style]
  | _, .update op false operand => glue [operand.print style, text op.text]
  | _, .binary op left right => glue [left.print style, spaced op.text, right.print style]
  | _, .assign op target value => glue [target.print style, spaced op.text, value.print style]
  | _, .conditional test yes no =>
    glue [test.print style, spaced "?", yes.print style, spaced ":", no.print style]
  | _, .sequence parts => commas (parts.print style)
  | _, .call optional callee arguments =>
    glue [callee.print style, word "?." optional, parenthesized (arguments.print style)]
  | _, .construct callee arguments =>
    glue [text "new ", callee.print style, ifPresent parenthesized (arguments.print style)]
  | _, .member optional isPrivate holder name =>
    glue [holder.print style, word "." (swallowsPoint holder && !optional),
      text (if optional then "?." else "."), word "#" isPrivate, text name]
  | _, .index optional holder key =>
    glue [holder.print style, text (if optional then "?.[" else "["), key.print style, text "]"]
  | _, .newTarget => text "new.target"
  | _, .importMeta => text "import.meta"
  | _, .yield delegate value =>
    glue [text "yield", word "*" delegate, ifPresent (text " " ++ ·) (value.print style)]
  | _, .await value => glue [text "await ", value.print style]
  | _, .paren inner => glue [text "(", inner.print style, text ")"]
  | _, .unreadable => text "<invalid>"
  -- elements of arrays and arguments
  | _, .plainElement value => value.print style
  | _, .spreadElement value => glue [text "...", value.print style]
  -- properties of objects
  | _, .shorthand name => text name
  | _, .shorthandDefault _ name value => glue [text name, text "=", value.print style]
  | _, .keyValue key value => glue [key.print style, text ": ", value.print style]
  | _, .objectMethod kind key f => objectMethodPieces kind (key.print style) (f.print style)
  | _, .spreadProperty value => glue [text "...", value.print style]
  -- keys
  | _, .nameKey name => text name
  | _, .privateKey name => text ("#" ++ name)
  | _, .stringKey s => [.text s.text]
  | _, .numberKey v => [.text v.plain]
  | _, .bigKey i => [.text (bigText i)]
  | _, .computedKey e => glue [text "[", e.print style, text "]"]
  | _, .bareKey e => e.print style
  -- functions
  | _, .function isAsync isGenerator parameters body =>
    (⟨isAsync, isGenerator, parenthesized (parameters.print style),
      bracedLines (body.print style)⟩ : FunctionPieces)
  -- patterns
  | _, .binding name => text name
  | _, .arrayPattern elements trailingComma =>
    arrayPatternPieces (elements.print style) trailingComma
  | _, .objectPattern properties trailingComma =>
    objectPatternPieces (properties.print style) trailingComma
  | _, .defaulted target value => glue [target.print style, spaced "=", value.print style]
  | _, .gathered target => glue [text "...", target.print style]
  | _, .place e => e.print style
  -- properties of object patterns
  | _, .keyPattern key target => glue [key.print style, text ": ", target.print style, text " "]
  | _, .namePattern name value =>
    glue [text name, text " ", ifPresent (text "=" ++ · ++ text " ") (value.print style)]
  | _, .gatheredProperty target => glue [text "...", target.print style]
  -- members of classes
  | _, .classMethod isStatic kind key f =>
    classMethodPieces isStatic kind (Printer.isPrivate key) (key.print style) (f.print style)
  | _, .constructor parameters body =>
    glue [text "constructor", parenthesized (parameters.print style),
      bracedLines (body.print style)]
  | _, .field isStatic key value =>
    glue [word "static " isStatic, key.print style,
      ifPresent (spaced "=" ++ ·) (value.print style), text ";"]
  | _, .emptyMember => text ";"
  -- statements
  | _, .expressionStatement e => glue [e.print style, text ";"]
  | _, .block body => bracedLines (body.print style)
  | _, .emptyStatement => text ";"
  | _, .debuggerStatement => text "debugger;"
  | _, .withStatement holder body =>
    glue [text "with (", holder.print style, text ")", body.print style]
  | _, .returnStatement value =>
    glue [text "return", ifPresent (text " " ++ ·) (value.print style), text ";"]
  | _, .labelled label body => glue [text label, text ": ", body.print style]
  | _, .breakStatement label => jumpPieces "break" label
  | _, .continueStatement label => jumpPieces "continue" label
  | _, .ifStatement test yes no =>
    glue [text "if (", test.print style, text ") ", yes.print style,
      ifPresent (afterBlock yes (text " ") endLine ++ text "else " ++ ·) (no.print style)]
  | _, .switchStatement value cases =>
    glue [text "switch(", value.print style, text ")", bracedLines (cases.print style)]
  | _, .throwStatement value => glue [text "throw ", value.print style, text ";"]
  | _, .tryStatement body handling finalizer =>
    glue [text "try ", bracedLines (body.print style),
      ifPresent (text " " ++ ·) (handling.print style),
      ifPresent (text " finally" ++ bracedLines ·) (finalizer.print style)]
  | _, .whileLoop test body =>
    glue [text "while(", test.print style, text ")", body.print style]
  | _, .doLoop body test =>
    glue [text "do ", body.print style, afterBlock body [] endLine, text "while (",
      test.print style, text ")"]
  | _, .forLoop init test next body =>
    glue [text "for(", ifPresent (·) (init.print style), text ";",
      ifPresent (text " " ++ ·) (test.print style), text ";",
      ifPresent (text " " ++ ·) (next.print style), text ")", body.print style]
  | _, .forIn head holder body =>
    glue [text "for(", head.print style, text " in ", holder.print style, text ")",
      body.print style]
  | _, .forOf isAwait head values body =>
    glue [text "for ", word "await " isAwait, text "(", head.print style, text " of ",
      values.print style, text ")", body.print style]
  | _, .variableDeclaration kind declarators =>
    glue [text kind.text, text " ", commas (declarators.print style), text ";"]
  | _, .functionDeclaration name f => functionPieces (some name) (f.print style)
  | _, .classDeclaration name heritage members =>
    classPieces (some name) (heritage.print style) (members.print style)
  -- parts of statements
  | _, .declarator target init =>
    glue [target.print style, ifPresent (spaced "=" ++ ·) (init.print style)]
  | _, .switchCase test body => casePieces (test.print style) (body.print style)
  | _, .declarationHead kind declarators =>
    glue [text kind.text, text " ", commas (declarators.print style)]
  | _, .expressionHead e => e.print style
  | _, .patternHead p => p.print style
  | _, .handler parameter body =>
    glue [text "catch ", ifPresent (text "(" ++ · ++ text ")") (parameter.print style), text " ",
      bracedLines (body.print style)]

/-! ## Programs -/

/-- The statements of a program. In the compact style no line ends after a block. -/
def programPieces (style : Style) (body : List Statement) : Pieces :=
  body.flatMap fun s =>
    (s.print style : Pieces) ++ (if style == .compact && isBlock s then [] else endLine)

/-- The text of a program. -/
def Program.print (style : Style) (p : Program) : List Char :=
  (match p.interpreter with
    | some line => "#!".toList ++ line.toList ++ ['\n']
    | none => []) ++ (programPieces style p.body).layout

end ModuleBundler.Script
