import ModuleBundler.Script.Node

/-!
Modules: statements mixed with imports and exports. A dependency specifier is the text between
the quotes of a `from` clause or a bare import.
-/

set_option autoImplicit false

namespace ModuleBundler

open Script

/-- What an import declaration binds to a local name. -/
inductive ImportClause where
  /-- The export named `default`. -/
  | default (bound : String)
  /-- The export of the given name. -/
  | named (imported bound : String)
  /-- The whole namespace. -/
  | namespace (bound : String)
deriving Repr, DecidableEq

/-- The local name of an import clause. -/
def ImportClause.bound : ImportClause → String
  | .default bound => bound
  | .named _ bound => bound
  | .namespace bound => bound

/-- What an export declaration with braces exports. -/
inductive ExportClause where
  /-- A name, under the same or another name. -/
  | named (name exported : String)
  /-- The whole namespace of the source. -/
  | namespace (exported : String)
deriving Repr, DecidableEq

/-- An item of a module. -/
inductive ModuleItem where
  | statement (s : Statement)
  | import (source : String) (clauses : List ImportClause)
  /-- A variable, function or class declaration whose names are exported. -/
  | exportDeclaration (s : Statement)
  /-- Names in braces, local ones or those of a source. -/
  | exportNames (source : Option String) (clauses : List ExportClause)
  | exportDefaultFunction (name : Option String) (f : Function)
  | exportDefaultClass (name : Option String) (heritage : Node (.option .expression))
      (members : Node (.list .member))
  | exportDefault (value : Expr)
  /-- All names of a source. -/
  | exportAll (source : String)

/-- A module, after the line that names its interpreter, if it has one. -/
structure Module where
  interpreter : Option String
  items : List ModuleItem

namespace ModuleItem

/-- The statement of an item that is one. -/
def statement? : ModuleItem → Option Statement
  | .statement s => some s
  | _ => none

/-- An item that loads another module names it by a specifier. -/
def specifier? : ModuleItem → Option String
  | .import source _ => some source
  | .exportNames source _ => source
  | .exportAll source => some source
  | _ => none

end ModuleItem

/-- The specifiers of a module in order, repetitions included. -/
def Module.specifiers (m : Module) : List String := m.items.filterMap ModuleItem.specifier?

/-- All items are statements. -/
def Module.isScript (m : Module) : Bool := m.items.all fun item => item.statement?.isSome

end ModuleBundler
