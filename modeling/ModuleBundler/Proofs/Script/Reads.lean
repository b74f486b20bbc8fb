import ModuleBundler.Proofs.Script.Positions
import ModuleBundler.Script.Scope

/-!
The references of a script that are read, and what declares the names they read. Declarations are
taken as the language has them in strict code, where each function, block, switch, loop and handler
is a scope of its own and a function in a block belongs to the block. How the names that hide
others are found when a script is rewritten is a different matter: here nothing of it is used.
-/

set_option autoImplicit false

namespace ModuleBundler.Script

/-! ## Declared names -/

namespace Node

/-- The names that `var` declares for the function around statements. -/
def varNames : {c : Category} → Node c → List String
  | _, .cons head tail => head.varNames ++ tail.varNames
  | _, .present n => n.varNames
  | _, .variableDeclaration .var declarators => declarators.boundNames
  | _, .block body => body.varNames
  | _, .withStatement _ body => body.varNames
  | _, .labelled _ body => body.varNames
  | _, .ifStatement _ yes no => yes.varNames ++ no.varNames
  | _, .switchStatement _ cases => cases.varNames
  | _, .switchCase _ body => body.varNames
  | _, .tryStatement body handling finalizer =>
    body.varNames ++ handling.varNames ++ finalizer.varNames
  | _, .handler _ body => body.varNames
  | _, .whileLoop _ body => body.varNames
  | _, .doLoop body _ => body.varNames
  | _, .forLoop init _ _ body => init.varNames ++ body.varNames
  | _, .forIn head _ body => head.varNames ++ body.varNames
  | _, .forOf _ head _ body => head.varNames ++ body.varNames
  | _, .declarationHead .var declarators => declarators.boundNames
  | _, _ => []

/-- The names that statements declare for the block, or the cases of a switch, that they are the
statements of. -/
def lexicalNames : {c : Category} → Node c → List String
  | _, .cons head tail => head.lexicalNames ++ tail.lexicalNames
  | _, .present n => n.lexicalNames
  | _, .variableDeclaration .lexical declarators => declarators.boundNames
  | _, .variableDeclaration .constant declarators => declarators.boundNames
  | _, .functionDeclaration name _ => [name]
  | _, .classDeclaration name _ _ => [name]
  | _, .labelled _ body => body.lexicalNames
  | _, .switchCase _ body => body.lexicalNames
  | _, _ => []

/-- The names that a function declares for its body. -/
def functionNames (parameters : Node (.list .pattern)) (body : Node (.list .statement)) :
    List String :=
  parameters.boundNames ++ body.varNames ++ body.lexicalNames

/-- The names that a tree declares for its child at an index. The head of a loop declares them for
the head too. The name of a declared function or class is not declared here but by the block, or
the body of a function, that the declaration stands in. -/
def declares : {c : Category} → Node c → Nat → List String
  | _, .functionValue name _, _ => name.toList
  | _, .classValue name _ _, _ => name.toList
  | _, .arrow _ parameters _, _ => parameters.boundNames
  | _, .arrowBlock _ parameters _, 0 => parameters.boundNames
  | _, .arrowBlock _ parameters body, _ => functionNames parameters body
  | _, .function _ _ parameters _, 0 => "arguments" :: parameters.boundNames
  | _, .function _ _ parameters body, _ => "arguments" :: functionNames parameters body
  | _, .constructor parameters _, 0 => "arguments" :: parameters.boundNames
  | _, .constructor parameters body, _ => "arguments" :: functionNames parameters body
  | _, .block body, _ => body.lexicalNames
  | _, .switchStatement _ cases, 1 => cases.lexicalNames
  | _, .tryStatement body _ _, 0 => body.lexicalNames
  | _, .tryStatement _ _ finalizer, 2 => finalizer.lexicalNames
  | _, .handler parameter _, 0 => parameter.boundNames
  | _, .handler parameter body, _ => parameter.boundNames ++ body.lexicalNames
  | _, .forLoop init _ _ _, _ => init.headNames
  | _, .forIn head _ _, _ => head.headNames
  | _, .forOf _ head _ _, _ => head.headNames
  | _, _, _ => []

end Node

/-- The names that are declared around a position, inner declarations first. -/
def Tree.declaredAt (t : Tree) (π : List Nat) : List String :=
  t.along (fun n i names => n.declares i ++ names) π []

/-! ## Reads -/

/-- What the place of a tree makes of it. -/
inductive Role where
  | plain
  /-- It is assigned to. -/
  | target
  /-- It is called. -/
  | callee
  /-- It names a field of a class. -/
  | fieldName
deriving Repr, DecidableEq

/-- The role of the child of a tree at an index, given the role of the tree. Parentheses around
what is assigned to do not matter; those around a callee do. -/
def Node.role : {c : Category} → Node c → Nat → Role → Role
  | _, .place _, _, _ => .target
  | _, .update _ _ _, _, _ => .target
  | _, .forIn _ _ _, 0, _ => .target
  | _, .forOf _ _ _ _, 0, _ => .target
  | _, .expressionHead _, _, .target => .target
  | _, .paren _, _, .target => .target
  | _, .call _ _ _, 0, _ => .callee
  | _, .field _ _ _, 0, _ => .fieldName
  | _, _, _, _ => .plain

/-- The role of the part at a position. -/
def Tree.roleAt (t : Tree) (π : List Nat) : Role := t.along Node.role π .plain

/-- The way in which a name is read. -/
inductive ReadForm where
  | expression
  | callee
  | shorthand
deriving Repr, DecidableEq

/-- A reference that is read. -/
structure Read where
  form : ReadForm
  origin : Origin
  name : String
deriving Repr, DecidableEq

/-- The read reference that a tree in a role is, if it is one. A name that is assigned to is
none. -/
def Node.read? : {c : Category} → Node c → Role → Option Read
  | _, .identifier origin name, .plain => some ⟨.expression, origin, name⟩
  | _, .identifier origin name, .callee => some ⟨.callee, origin, name⟩
  | _, .shorthand name, _ => some ⟨.shorthand, .written, name⟩
  | _, _, _ => none

/-- The read reference at a position, if there is one. -/
def Tree.readAt? (t : Tree) (π : List Nat) : Option Read :=
  (t.at? π).bind fun part => part.2.read? (t.roleAt π)

/-- A read reference means what its name means around the whole tree: the name was written and
nothing in the tree declares it around the position. -/
def Tree.IsFree (t : Tree) (π : List Nat) (r : Read) : Prop :=
  r.origin = .written ∧ r.name ∉ t.declaredAt π

instance (t : Tree) (π : List Nat) (r : Read) : Decidable (t.IsFree π r) :=
  inferInstanceAs (Decidable (_ ∧ _))

theorem Tree.readAt?_eq_some {t : Tree} {π : List Nat} {r : Read} :
    t.readAt? π = some r ↔ ∃ part, t.at? π = some part ∧ part.2.read? (t.roleAt π) = some r := by
  rw [readAt?, Option.bind_eq_some_iff]

end ModuleBundler.Script
