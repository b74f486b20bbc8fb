import ModuleBundler.Script.Reader.Basic

/-!
Properties with a default, as in `({a = 1})`. They belong in patterns; in an expression they are
errors, but whether an object is an expression is seen only when all of it has been read. So the
expressions that statements are made of are looked through for them once they are complete.
Functions that are values are not looked into, and neither is the default itself.
-/

set_option autoImplicit false

namespace ModuleBundler.Script

/-- Where properties with a default stand in a tree. -/
def Node.defaultsIn : {c : Category} → Node c → List Position
  | _, .cons head tail => head.defaultsIn ++ tail.defaultsIn
  | _, .present n => n.defaultsIn
  -- expressions
  | _, .template _ values => values.defaultsIn
  | _, .taggedTemplate tag _ values => tag.defaultsIn ++ values.defaultsIn
  | _, .array elements _ => elements.defaultsIn
  | _, .object properties => properties.defaultsIn
  | _, .classValue _ heritage members => heritage.defaultsIn ++ members.defaultsIn
  | _, .unary _ operand => operand.defaultsIn
  | _, .update _ _ operand => operand.defaultsIn
  | _, .binary _ left right => left.defaultsIn ++ right.defaultsIn
  | _, .assign _ target value => target.defaultsIn ++ value.defaultsIn
  | _, .conditional test yes no => test.defaultsIn ++ yes.defaultsIn ++ no.defaultsIn
  | _, .sequence parts => parts.defaultsIn
  | _, .call _ callee arguments => callee.defaultsIn ++ arguments.defaultsIn
  | _, .construct callee arguments => callee.defaultsIn ++ arguments.defaultsIn
  | _, .member _ _ holder _ => holder.defaultsIn
  | _, .index _ holder key => holder.defaultsIn ++ key.defaultsIn
  | _, .yield _ value => value.defaultsIn
  | _, .await value => value.defaultsIn
  | _, .paren inner => inner.defaultsIn
  | _, .plainElement value => value.defaultsIn
  | _, .spreadElement value => value.defaultsIn
  -- properties of objects
  | _, .shorthandDefault start _ _ => [start]
  | _, .keyValue key value => key.defaultsIn ++ value.defaultsIn
  | _, .objectMethod _ key f => key.defaultsIn ++ f.defaultsIn
  | _, .spreadProperty value => value.defaultsIn
  | _, .computedKey e => e.defaultsIn
  -- functions and patterns
  | _, .function _ _ parameters body => parameters.defaultsIn ++ body.defaultsIn
  | _, .arrayPattern elements _ => elements.defaultsIn
  | _, .objectPattern properties _ => properties.defaultsIn
  | _, .defaulted target value => target.defaultsIn ++ value.defaultsIn
  | _, .gathered target => target.defaultsIn
  | _, .place e => e.defaultsIn
  | _, .keyPattern key target => key.defaultsIn ++ target.defaultsIn
  | _, .namePattern _ value => value.defaultsIn
  | _, .gatheredProperty target => target.defaultsIn
  -- members of classes
  | _, .classMethod _ _ key f => key.defaultsIn ++ f.defaultsIn
  | _, .constructor parameters body => parameters.defaultsIn ++ body.defaultsIn
  | _, .field _ key value => key.defaultsIn ++ value.defaultsIn
  -- statements
  | _, .expressionStatement e => e.defaultsIn
  | _, .block body => body.defaultsIn
  | _, .withStatement holder body => holder.defaultsIn ++ body.defaultsIn
  | _, .returnStatement value => value.defaultsIn
  | _, .labelled _ body => body.defaultsIn
  | _, .ifStatement test yes no => test.defaultsIn ++ yes.defaultsIn ++ no.defaultsIn
  | _, .switchStatement value cases => value.defaultsIn ++ cases.defaultsIn
  | _, .throwStatement value => value.defaultsIn
  | _, .tryStatement body handling finalizer =>
    body.defaultsIn ++ handling.defaultsIn ++ finalizer.defaultsIn
  | _, .whileLoop test body => test.defaultsIn ++ body.defaultsIn
  | _, .doLoop body test => body.defaultsIn ++ test.defaultsIn
  | _, .forLoop init test next body =>
    init.defaultsIn ++ test.defaultsIn ++ next.defaultsIn ++ body.defaultsIn
  | _, .forIn head holder body => head.defaultsIn ++ holder.defaultsIn ++ body.defaultsIn
  | _, .forOf _ head values body => head.defaultsIn ++ values.defaultsIn ++ body.defaultsIn
  | _, .variableDeclaration _ declarators => declarators.defaultsIn
  | _, .functionDeclaration _ f => f.defaultsIn
  | _, .classDeclaration _ heritage members => heritage.defaultsIn ++ members.defaultsIn
  | _, .declarator target init => target.defaultsIn ++ init.defaultsIn
  | _, .switchCase test body => test.defaultsIn ++ body.defaultsIn
  | _, .declarationHead _ declarators => declarators.defaultsIn
  | _, .expressionHead e => e.defaultsIn
  | _, .patternHead p => p.defaultsIn
  | _, .handler parameter body => parameter.defaultsIn ++ body.defaultsIn
  -- trees without expressions in them, and functions that are values
  | _, _ => []

/-- An expression that is complete: complains of the properties with a default in it. -/
def Reader.checked (e : Expr) : Reader.Reading Expr := do
  Reader.complainAll (e.defaultsIn.map fun p => ⟨.assignmentProperty, p⟩)
  return e

end ModuleBundler.Script
