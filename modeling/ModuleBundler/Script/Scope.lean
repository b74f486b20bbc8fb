import ModuleBundler.Script.Node

/-!
Which names a part of a script declares. A pattern binds the names in it. The body of a function
declares the names of `var` and of functions for all of it, however deep they stand; the names of
`let`, `const` and classes are declared for the block they stand in. A switch is no block.
-/

set_option autoImplicit false

namespace ModuleBundler.Script.Node

/-- The names that a pattern or a declarator binds, from left to right. -/
def boundNames : {c : Category} → Node c → List String
  | _, .cons head tail => head.boundNames ++ tail.boundNames
  | _, .present n => n.boundNames
  | _, .binding name => [name]
  | _, .arrayPattern elements _ => elements.boundNames
  | _, .objectPattern properties _ => properties.boundNames
  | _, .defaulted target _ => target.boundNames
  | _, .gathered target => target.boundNames
  | _, .keyPattern _ target => target.boundNames
  | _, .namePattern name _ => [name]
  | _, .gatheredProperty target => target.boundNames
  | _, .declarator target _ => target.boundNames
  | _, _ => []

/-- The names that `var` and functions declare for the whole function around statements; inner
functions are of no concern. In a handler the names of its parameter are not declared anew. -/
def hoistedNames : {c : Category} → Node c → List String
  | _, .cons head tail => head.hoistedNames ++ tail.hoistedNames
  | _, .present n => n.hoistedNames
  | _, .variableDeclaration .var declarators => declarators.boundNames
  | _, .functionDeclaration name _ => [name]
  | _, .block body => body.hoistedNames
  | _, .withStatement _ body => body.hoistedNames
  | _, .labelled _ body => body.hoistedNames
  | _, .ifStatement _ yes no => yes.hoistedNames ++ no.hoistedNames
  | _, .switchStatement _ cases => cases.hoistedNames
  | _, .switchCase _ body => body.hoistedNames
  | _, .tryStatement body handling finalizer =>
    body.hoistedNames ++ handling.hoistedNames ++ finalizer.hoistedNames
  | _, .handler parameter body =>
    body.hoistedNames.filter (!parameter.boundNames.contains ·)
  | _, .whileLoop _ body => body.hoistedNames
  | _, .doLoop body _ => body.hoistedNames
  | _, .forLoop init _ _ body => init.hoistedNames ++ body.hoistedNames
  | _, .forIn head _ body => head.hoistedNames ++ body.hoistedNames
  | _, .forOf _ head _ body => head.hoistedNames ++ body.hoistedNames
  | _, .declarationHead .var declarators => declarators.boundNames
  | _, _ => []

/-- The names that `let`, `const` and classes declare in the block that statements belong to. -/
def blockNames : {c : Category} → Node c → List String
  | _, .cons head tail => head.blockNames ++ tail.blockNames
  | _, .present n => n.blockNames
  | _, .variableDeclaration .lexical declarators => declarators.boundNames
  | _, .variableDeclaration .constant declarators => declarators.boundNames
  | _, .classDeclaration name _ _ => [name]
  | _, .withStatement _ body => body.blockNames
  | _, .labelled _ body => body.blockNames
  | _, .ifStatement _ yes no => yes.blockNames ++ no.blockNames
  | _, .switchStatement _ cases => cases.blockNames
  | _, .switchCase _ body => body.blockNames
  | _, .whileLoop _ body => body.blockNames
  | _, .doLoop body _ => body.blockNames
  | _, .forLoop _ _ _ body => body.blockNames
  | _, .forIn _ _ body => body.blockNames
  | _, .forOf _ _ _ body => body.blockNames
  | _, _ => []

/-- The names that the body of a function declares. -/
def bodyNames (body : Node (.list .statement)) : List String := body.blockNames ++ body.hoistedNames

/-- The names that the head of a loop declares for the loop. -/
def headNames : {c : Category} → Node c → List String
  | _, .present n => n.headNames
  | _, .declarationHead .lexical declarators => declarators.boundNames
  | _, .declarationHead .constant declarators => declarators.boundNames
  | _, _ => []

end ModuleBundler.Script.Node
