import ModuleBundler.BuildError
import ModuleBundler.Json.Reader
import ModuleBundler.Regex.Reader
import ModuleBundler.Text.Quoted

/-!
Loaders turn the text of a file into the text of a module. A rule says for which paths which
loaders run: all rules whose test finds a match in the path apply, in order, and of one rule the
loader named last runs first, on what the one before it left.
-/

set_option autoImplicit false

namespace ModuleBundler

/-! ## Loaders -/

/-- What the loaders of one file share: its path, and the dependencies that they have declared.
Those are for information; they do not become part of the module graph. -/
structure LoaderContext where
  resource : Path
  dependencies : List String := []

/-- A named change of a text. -/
structure Loader where
  name : String
  load : LoaderContext → String → Except LoadError (LoaderContext × String)

namespace Loader

/-- The name of a loader that has none. -/
def anonymous : String := "anonymous"

/-- A loader without a name that does not look at its context. -/
def ofFunction (f : String → Except LoadError String) : Loader :=
  ⟨anonymous, fun ctx source => (f source).map fun text => (ctx, text)⟩

/-- The text of a module that exports a value as default. -/
def exportOf (value : List Char) : String :=
  String.ofList ("export default ".toList ++ value ++ [';'])

/-- Exports a document of the JSON format as data. -/
def json : Loader where
  name := "json"
  load ctx source :=
    match Json.Value.ofText? source.toList with
    | some v => .ok (ctx, exportOf v.canonical.text)
    | none => .error .malformed

/-- Exports the text itself. -/
def raw : Loader where
  name := "raw"
  load ctx source := .ok (ctx, exportOf (Json.stringText source))

/-- A loader that is known by name. -/
def builtin? (name : String) : Option Loader := [json, raw].find? (·.name == name)

/-! ### Small loaders -/

/-- Puts a text after the source. -/
def appending (text : String) : Loader := ofFunction fun source => .ok (source ++ text)

/-- Puts a text before the source. -/
def prepending (text : String) : Loader := ofFunction fun source => .ok (text ++ source)

/-- Fails with a message. -/
def failing (message : String) : Loader := ofFunction fun _ => .error (.custom message)

/-- Puts the path of the file after the source. -/
def appendingResource : Loader :=
  ⟨anonymous, fun ctx source => .ok (ctx, source ++ ctx.resource.toString)⟩

/-- Declares a dependency and puts all dependencies declared so far after the source. -/
def declaring (dependency : String) : Loader :=
  ⟨anonymous, fun ctx source =>
    let ctx := { ctx with dependencies := ctx.dependencies ++ [dependency] }
    .ok (ctx, source ++ "[" ++ ",".intercalate ctx.dependencies ++ "]")⟩

end Loader

/-! ## Rules -/

/-- A test of paths, as written and as read, and the loaders for the paths that pass. -/
structure Rule where
  pattern : String
  test : Regex
  loaders : List Loader

namespace Rule

/-- A rule from the text of its test. -/
def ofPattern (pattern : String) (loaders : List Loader) : Except BuildError Rule :=
  match Regex.ofText? pattern.toList with
  | some test => .ok ⟨pattern, test, loaders⟩
  | none => .error (.malformedTest pattern)

/-- The rule applies to a path. -/
def applies (r : Rule) (p : Path) : Bool := r.test.isMatch p.text

/-- A list of texts between brackets. -/
def bracketed (items : List (List Char)) : List Char :=
  '[' :: (List.intercalate [',', ' '] items) ++ [']']

/-- The rule as listings show it: its test and the names of its loaders. -/
def listing (r : Rule) : List Char :=
  "Rule \x7b test: ".toList ++ Text.quoted r.pattern.toList ++ ", loaders: ".toList ++
    bracketed (r.loaders.map fun l => Text.quoted l.name.toList) ++ " \x7d".toList

end Rule

/-! ## Running loaders -/

/-- The loaders that run on a path, in the order they run in. -/
def loadersFor (rules : List Rule) (p : Path) : List Loader :=
  (rules.filter (·.applies p)).flatMap fun r => r.loaders.reverse

/-- Runs loaders one after another. -/
def runLoaders : List Loader → LoaderContext → String → Except BuildError String
  | [], _, source => .ok source
  | l :: rest, ctx, source =>
    match l.load ctx source with
    | .ok (ctx, source) => runLoaders rest ctx source
    | .error cause => .error (.refused l.name ctx.resource cause)

/-- The module text of a file. -/
def transform (rules : List Rule) (p : Path) (source : String) : Except BuildError String :=
  runLoaders (loadersFor rules p) ⟨p, []⟩ source

end ModuleBundler
