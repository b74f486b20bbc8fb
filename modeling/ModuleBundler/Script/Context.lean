import ModuleBundler.Script.Token

/-!
What the surroundings of a part of a script allow in it. The context is handed down: a part cannot
change what its surroundings see.
-/

set_option autoImplicit false

namespace ModuleBundler.Script

/-- What the surroundings of a part allow in it. -/
structure Context where
  isModule : Bool
  strict : Bool
  inFunction : Bool := false
  inAsync : Bool := false
  inGenerator : Bool := false
  /-- Among the parameters of a function. -/
  inParameters : Bool := false
  breakAllowed : Bool := false
  continueAllowed : Bool := false
  /-- The operator `in` may be used. It may in most expressions, but not in the head of a loop nor
  where a parameter of a function of the outermost level has a default. -/
  inAllowed : Bool := false
  labels : List String := []

/-- A word that cannot be read as a name in a context. -/
def Context.reserves (ctx : Context) (w : String) : Bool :=
  alwaysReserved.contains w || w == "enum" ||
    (w == "let" && ctx.strict) ||
    (w == "await" && (ctx.inAsync || ctx.isModule)) ||
    (w == "yield" && (ctx.inGenerator || ctx.strict)) ||
    (ctx.strict && strictlyReserved.contains w)

end ModuleBundler.Script
