import ModuleBundler.Module.Item
import ModuleBundler.Script.Reader

/-!
Modules from text. A module is a script whose outermost level may hold imports and exports; all of
it is strict code, and a single complaint is enough to refuse it.
-/

set_option autoImplicit false

namespace ModuleBundler.Module.Reader

open Script Script.Reader

variable (r : Readers)

/-! ## Sources -/

/-- The text that names another module. -/
def specifier : Reading String := do
  match (← required).token with
  | .string s =>
    advance
    return s.value
  | _ => failUnexpected "a string literal"

/-- The source of an import or export, and the end of the declaration. -/
def fromClause : Reading String := do
  expect "from"
  let source ← specifier
  expectEnd
  return source

/-- Names up to a brace or the end of the text, each but the last with a comma after it. -/
def namesFrom {α : Type} (name : Reading α) : Nat → List α → Reading (List α)
  | 0, _ => failEnd
  | fuel + 1, names => do
    if (← atEnd?) || (← at? "\x7d") then return names.reverse
    let n ← name
    if ← at? "\x7d" then return (n :: names).reverse
    expect ","
    namesFrom name fuel (n :: names)

/-- Names in braces. -/
def bracedNames {α : Type} (name : Reading α) : Reading (List α) := do
  expect "\x7b"
  let names ← namesFrom name (← tokensLeft) []
  expect "\x7d"
  return names

/-! ## Imports -/

/-- A name in the braces of an import. Under its own name it has to be one that can be bound. -/
def importName : Reading ImportClause := do
  match (← required).token with
  | .word name =>
    let start ← here
    advance
    if ← accept "as" then return .named name (← bindingName)
    if (← read).reserves name then failAt .reservedImport start
    return .named name name
  | _ => failUnexpected "an identifier"

/-- The name that the default export is imported under, if there is one, and the comma that has to
follow it unless the source does. -/
def defaultImport : Reading (List ImportClause) := do
  if ← atName? then
    let name ← bindingName
    unless ← at? "from" do expect ","
    return [.default name]
  return []

/-- The namespace or the names in braces that are imported, if there are any. -/
def otherImports : Reading (List ImportClause) := do
  if ← accept "*" then
    expect "as"
    return [.namespace (← bindingName)]
  if ← at? "\x7b" then return ← bracedNames importName
  return []

/-- An import declaration after its word. -/
def importDeclaration : Reading ModuleItem := do
  match (← required).token with
  | .string s =>
    advance
    expectEnd
    return .import s.value []
  | _ =>
    let first ← defaultImport
    let others ← otherImports
    return .import (← fromClause) (first ++ others)

/-! ## Exports -/

/-- A name in the braces of an export. -/
def exportName : Reading ExportClause := do
  let name ← anyName
  if ← accept "as" then return .named name (← anyName)
  return .named name name

/-- An export of names in braces, after a namespace if there is one, which only a source has;
`start` is where the declaration starts. -/
def exportNames (start : Position) (namespaces : List ExportClause) : Reading ModuleItem := do
  let names ← bracedNames exportName
  if ← at? "from" then return .exportNames (some (← fromClause)) (namespaces ++ names)
  unless namespaces.isEmpty do failAt .exportWithoutSource start
  let _ ← acceptEnd
  return .exportNames none names

/-- An export of everything from a source, after its star. -/
def exportAll (start : Position) : Reading ModuleItem := do
  if ← at? "from" then return .exportAll (← fromClause)
  expect "as"
  let whole : ExportClause := .namespace (← anyName)
  if ← at? "from" then return .exportNames (some (← fromClause)) [whole]
  expect ","
  exportNames start [whole]

/-- A default export after its word. -/
def exportDefault : Reading ModuleItem := do
  if ← accept "class" then
    let (name, heritage, members) ← classAfterWord r false
    return .exportDefaultClass name (.ofOption heritage) (.ofList members)
  let isAsync ← atAsyncFunction?
  if isAsync then advance
  if ← accept "function" then
    let (name, f) ← functionAfterWord r isAsync false false
    return .exportDefaultFunction name f
  let value ← withIn (assignmentValue r)
  expectEnd
  return .exportDefault value

/-- The current token begins a declaration that can be exported. -/
def atDeclaration? : Reading Bool := do
  if ← atAny? ["class", "function", "var", "const"] then return true
  return (← atAsyncFunction?) || (← atLexical?)

/-- An export declaration after its word; `start` is where the word starts. -/
def exportDeclaration (start : Position) : Reading ModuleItem := do
  if ← accept "*" then exportAll start
  else if ← accept "default" then exportDefault r
  else if ← atDeclaration? then return .exportDeclaration (← statement r true)
  else exportNames start []

/-! ## Modules -/

/-- An item of a module. -/
def moduleItem : Reading ModuleItem := do
  let start ← here
  if ← accept "export" then return ← exportDeclaration r start
  if ← at? "import" then
    let next ← peek
    unless next.token.is "(" || next.token.is "." do
      advance
      return ← importDeclaration
  return .statement (← outermostStatement r)

/-- The items of a module. -/
def itemsFrom : Nat → List ModuleItem → Reading (List ModuleItem)
  | 0, _ => failEnd
  | fuel + 1, items => do
    if ← atEnd? then return items.reverse
    itemsFrom fuel ((← moduleItem r) :: items)

end ModuleBundler.Module.Reader

namespace ModuleBundler

open Script Script.Reader Module.Reader in
/-- The module of a text, or the first thing that is wrong with it: what ended the reading, or
else the first complaint. -/
def Module.ofText (text : List Char) : Except Fault Module := do
  let (interpreter, items, complaints) ← run { isModule := true, strict := true }
    (do itemsFrom (readersFor text) (← tokensLeft) []) text
  match complaints with
  | [] => return ⟨interpreter, items⟩
  | fault :: _ => throw fault

end ModuleBundler
