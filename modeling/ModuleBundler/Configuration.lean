import ModuleBundler.Bundle.Write

/-!
Build options from a file. The file holds a document with fixed fields; one that has another
field, a field twice or a value of another kind is refused as a whole. As a list of values in the
order of the fields it is understood too.
-/

set_option autoImplicit false

namespace ModuleBundler

/-! ## Contents -/

/-- A rule as a file declares it. -/
structure RuleDeclaration where
  test : String
  loaders : List String
deriving DecidableEq, Repr

/-- The contents of a configuration file. -/
structure Configuration where
  entry : Option String
  output : Option String
  parallel : Bool := false
  rules : List RuleDeclaration := []
  plugins : List String := []
deriving DecidableEq, Repr

namespace Configuration

open Json

/-! ## Reading -/

def string? : Value → Option String
  | .string s => some s
  | _ => none

def bool? : Value → Option Bool
  | .bool b => some b
  | _ => none

/-- A string that may be left open. -/
def openString? : Value → Option (Option String)
  | .null => some none
  | v => (string? v).map some

/-- A list of values of a kind. -/
def list? {α : Type} (item? : Value → Option α) : Value → Option (List α)
  | .array vs => vs.mapM item?
  | _ => none

/-- No name of a field is used twice. -/
def isUnambiguous (fields : List (String × Value)) : Bool := (fields.map (·.1)).Nodup

/-- A field, or a default where it is missing. -/
def field? {α : Type} (fields : List (String × Value)) (name : String) (kind? : Value → Option α)
    (missing : Option α) : Option α :=
  match fields.lookup name with
  | some v => kind? v
  | none => missing

/-- A rule. -/
def rule? : Value → Option RuleDeclaration
  | .object fields => do
    guard (isUnambiguous fields && fields.all fun f => f.1 == "test" || f.1 == "use")
    let test ← field? fields "test" string? none
    let loaders ← field? fields "use" (list? string?) none
    return ⟨test, loaders⟩
  | .array [test, loaders] => do return ⟨← string? test, ← list? string? loaders⟩
  | _ => none

/-- The names of the fields, in order. -/
def fieldNames : List String := ["entry", "output", "parallel", "rules", "plugins"]

/-- A configuration from its fields. -/
def ofFields? (fields : List (String × Value)) : Option Configuration := do
  guard (isUnambiguous fields && fields.all fun f => fieldNames.contains f.1)
  return {
    entry := ← field? fields "entry" openString? (some none)
    output := ← field? fields "output" openString? (some none)
    parallel := ← field? fields "parallel" bool? (some false)
    rules := ← field? fields "rules" (list? rule?) (some [])
    plugins := ← field? fields "plugins" (list? string?) (some []) }

/-- A configuration from a document. In a list the first two fields have to be there. -/
def ofValue? : Value → Option Configuration
  | .object fields => ofFields? fields
  | .array vs => do
    guard (2 ≤ vs.length && vs.length ≤ fieldNames.length)
    ofFields? (fieldNames.zip vs)
  | _ => none

/-- The configuration in a file of a tree. -/
def load (t : FileTree) (p : Path) : Except BuildError Configuration :=
  match t.find p with
  | .error _ => .error (.unopenedConfiguration p)
  | .ok (_, .file (.text s)) =>
    match (Value.ofText? s.toList).bind ofValue? with
    | some c => .ok c
    | none => .error (.malformedConfiguration p)
  | .ok _ => .error (.malformedConfiguration p)

/-! ## Options -/

/-- Loaders by their names. -/
def namedLoaders (names : List String) : Except BuildError (List Loader) :=
  names.mapM fun name =>
    match Loader.builtin? name with
    | some l => .ok l
    | none => .error (.unknownLoader name)

/-- A rule with named loaders. The test is looked at first. -/
def namedRule (r : RuleDeclaration) : Except BuildError Rule := do
  let rule ← Rule.ofPattern r.test []
  return { rule with loaders := ← namedLoaders r.loaders }

/-- A plugin by its name. -/
def namedPlugin (name : String) : Except BuildError Plugin :=
  match Plugin.builtin? name with
  | some p => .ok p
  | none => .error (.unknownPlugin name)

/-- The options that a configuration in a directory gives. Its relative paths are relative to the
directory; an entry from elsewhere takes the place of its own and is used as it is. -/
def options (c : Configuration) (directory : Path) (entry : Option Path) :
    Except BuildError Options := do
  let place (s : String) : Path := directory.join (Path.ofString s)
  let entry ← match entry, c.entry with
    | some p, _ => pure p
    | none, some s => pure (place s)
    | none, none => throw .unconfiguredEntry
  let rules ← c.rules.mapM namedRule
  let plugins ← c.plugins.mapM namedPlugin
  return {
    entry := entry
    output := (c.output.map place).getD defaultOutput
    rules := rules
    plugins := plugins
    parallel := c.parallel }

/-- The options in a file. -/
def loadOptions (t : FileTree) (p : Path) (entry : Option Path) : Except BuildError Options := do
  let c ← load t p
  c.options (p.parent?.getD ⟨[]⟩) entry

end Configuration

end ModuleBundler
