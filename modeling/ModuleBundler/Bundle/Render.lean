import ModuleBundler.Asset
import ModuleBundler.Bundle.Runtime
import ModuleBundler.Script.Build

/-!
The text of a bundle. The table of modules is a tree too: the code of each asset is read back as a
script, and its statements become the body of a function of the table.
-/

set_option autoImplicit false

namespace ModuleBundler.Bundle

open Script Script.Build

/-- The path that messages about the code of a module name. -/
def codePath (id : Nat) : Path := Path.ofString ("pumice-module-" ++ toString id ++ ".js")

/-- The code of an asset as a function of what it finds in scope. -/
def factory (a : Asset) : Except BuildError Expr :=
  match Program.ofText a.code.toList with
  | .ok p => .ok (lambda ["require", "module", "exports"] p.body)
  | .error fault => .error (.syntaxError (codePath a.id) fault)

/-- A mapping as data. -/
def mappingData (m : Mapping) : Data .value :=
  .map (.ofEntries (m.map fun (s, id) => (.text s, .integer id)))

/-- The literal of data. -/
def literalOf (d : Data .value) : Except BuildError Expr :=
  match d.literal with
  | .ok e => .ok e
  | .error cause => .error (.noLiteral cause)

/-- The entry of an asset in the table: under its number, its function and its mapping. -/
def tableEntry (a : Asset) : Except BuildError Property := do
  let f ← factory a
  let mapping ← literalOf (mappingData a.mapping)
  return .keyValue (.numberKey (.ofNat a.id))
    (.array (.ofList [.present (.plainElement f), .present (.plainElement mapping)]) false)

/-- The table of modules. -/
def table (assets : List Asset) : Except BuildError Expr := do
  return .object (.ofList (← assets.mapM tableEntry))

/-- The bundle of assets, in which the module of number zero is loaded first. -/
def ofAssets (assets : List Asset) : Except BuildError Program := do
  let modules ← table assets
  instantiate modules (← literalOf (.integer 0))

/-- The text of the bundle of assets. -/
def render (assets : List Asset) : Except BuildError String := do
  return banner ++ String.ofList ((← ofAssets assets).print .spacious)

end ModuleBundler.Bundle
