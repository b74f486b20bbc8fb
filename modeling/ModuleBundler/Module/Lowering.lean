import ModuleBundler.Module.Interop
import ModuleBundler.Module.Item
import ModuleBundler.Module.Relink

/-!
Lowering a module to a script that finds `require`, `module` and `exports` in scope.

Each item contributes on its own: getters for what it exports, requires of what it loads, the
statements it leaves behind, and the lookups that its imports bind. The script is the
contributions sorted by kind. Getters come before requires, so a module that is required again
while it still runs already has its exports; and since a lookup reads the exports of the required
module each time, it sees the value of the moment.
-/

set_option autoImplicit false

namespace ModuleBundler

open Script Script.Build

/-! ## Generated names -/

/-- The variable that holds the exports of a required module. -/
def recordName (n : Nat) : String := "__pumice_import_" ++ toString n

/-- The variable that holds a default export without a name. -/
def defaultName : String := "__pumice_default"

/-! ## Generated code -/

/-- Loads a module. -/
def requireCall (source : String) : Expr := Build.call (Build.name "require") [str source]

/-- The value of an export of the required module. -/
def lookup (record imported : String) : Expr := itemAt (Build.name record) (str imported)

/-- Defines a property of the exports object. -/
def defineExport (exported : String) (descriptor : Expr) : Statement :=
  run (Build.call (dot (Build.name "Object") "defineProperty")
    [Build.name "exports", str exported, descriptor])

/-- The descriptor of a property that is computed when it is read. -/
def getterOf (value : Expr) : Expr :=
  Build.object [("enumerable", .boolLiteral true), ("get", lambda [] [returns value])]

/-! ## Contributions -/

/-- What an item contributes to the lowered script. -/
structure Contribution where
  getters : List (String × Expr) := []
  requires : List Statement := []
  body : List Statement := []
  bindings : List (String × Expr) := []
  helper : Option InteropHelper := none

namespace ImportClause

def isDefault : ImportClause → Bool
  | .default _ => true
  | _ => false

def isNamespace : ImportClause → Bool
  | .namespace _ => true
  | _ => false

/-- What the local name stands for. -/
def value (record : String) : ImportClause → Expr
  | .default _ => lookup record "default"
  | .named imported _ => lookup record imported
  | .namespace _ => Build.name record

end ImportClause

/-- The helper through which an import with clauses reads the required module. -/
def interopOf (clauses : List ImportClause) : Option InteropHelper :=
  if clauses.any (·.isNamespace) || (clauses.any (·.isDefault) && 1 < clauses.length) then
    some .wildcard
  else if clauses.any (·.isDefault) then some .default
  else none

/-- Loads a module through a helper, or directly. -/
def requireThrough (helper : Option InteropHelper) (source : String) : Expr :=
  match helper with
  | some h => Build.call (Build.name h.name) [requireCall source]
  | none => requireCall source

/-- The getter of an export clause with a source. -/
def ExportClause.getterFrom (record : String) : ExportClause → String × Expr
  | .named name exported => (exported, lookup record name)
  | .namespace exported => (exported, Build.name record)

/-- The getter of an export clause without a source. -/
def ExportClause.getter : ExportClause → String × Expr
  | .named name exported => (exported, .identifier .written name)
  | .namespace exported => (exported, Build.name exported)

namespace ModuleItem

/-- The names that a declaration declares. -/
def declaredNames : Statement → List String
  | .variableDeclaration _ declarators => declarators.boundNames
  | .functionDeclaration name _ => [name]
  | .classDeclaration name _ _ => [name]
  | _ => []

/-- An item whose required module is held in a variable. -/
def takesRecord : ModuleItem → Bool
  | .import _ clauses => !clauses.isEmpty
  | .exportNames source _ => source.isSome
  | _ => false

/-- What an item contributes, given the variable for its required module. -/
def contribution (record : String) : ModuleItem → Contribution
  | .statement s => { body := [s] }
  | .import source clauses =>
    if clauses.isEmpty then { requires := [run (requireCall source)] }
    else
      { requires := [Build.var record (requireThrough (interopOf clauses) source)]
        bindings := clauses.map fun c => (c.bound, c.value record)
        helper := interopOf clauses }
  | .exportDeclaration s =>
    { getters := (declaredNames s).map fun name => (name, .identifier .written name)
      body := [s] }
  | .exportNames (some source) clauses =>
    { requires := [Build.var record (requireCall source)]
      getters := clauses.map (·.getterFrom record) }
  | .exportNames none clauses => { getters := clauses.map (·.getter) }
  | .exportDefaultFunction name f =>
    { getters := [("default", Build.name (name.getD defaultName))]
      body := [.functionDeclaration (name.getD defaultName) f] }
  | .exportDefaultClass name heritage members =>
    { getters := [("default", Build.name (name.getD defaultName))]
      body := [.classDeclaration (name.getD defaultName) heritage members] }
  | .exportDefault value =>
    { getters := [("default", Build.name defaultName)]
      body := [Build.var defaultName value] }
  | .exportAll source =>
    { requires := [run (Build.call (Build.name InteropHelper.star.name)
        [requireCall source, Build.name "exports"])]
      helper := some .star }

end ModuleItem

/-- The contributions of items in order; the variables for required modules are numbered. -/
def contributions (next : Nat) : List ModuleItem → List Contribution
  | [] => []
  | item :: rest =>
    item.contribution (recordName next) ::
      contributions (if item.takesRecord then next + 1 else next) rest

namespace Module

/-- The contributions of a module. -/
def contributions (m : Module) : List Contribution := ModuleBundler.contributions 0 m.items

/-- What the imported names of a module stand for. The last import of a name counts, so it comes
first. -/
def links (m : Module) : Links := { bindings := (m.contributions.flatMap (·.bindings)).reverse }

/-- The helpers that a module needs. -/
def helpers (m : Module) : List InteropHelper :=
  InteropHelper.all.filter fun h => m.contributions.any fun c => c.helper == some h

/-- The statements of a lowered module. -/
def loweredBody (m : Module) : List Statement :=
  [run (str "use strict"),
    defineExport InteropHelper.marker (Build.object [("value", .boolLiteral true)])] ++
  m.helpers.map (·.declaration) ++
  (m.contributions.flatMap (·.getters)).map
    (fun (exported, value) => defineExport exported (getterOf (value.relink m.links))) ++
  m.contributions.flatMap (·.requires) ++
  (m.contributions.flatMap (·.body)).map (·.relink m.links)

/-- Lowers a module. One without imports and exports is a script already. -/
def lower (m : Module) : Program :=
  if m.isScript then ⟨m.interpreter, m.items.filterMap ModuleItem.statement?⟩
  else ⟨m.interpreter, m.loweredBody⟩

end Module

end ModuleBundler
