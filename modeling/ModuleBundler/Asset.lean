import ModuleBundler.Loader
import ModuleBundler.Module.Lowering
import ModuleBundler.Module.Reader
import ModuleBundler.Script.Printer

/-!
Assets: source files turned into the code that the bundle holds. Compiling a file needs to know
nothing of other files. Its number and the numbers of what it imports are put in by the graph.
-/

set_option autoImplicit false

namespace ModuleBundler

/-! ## Mappings -/

/-- The number of the module that each specifier leads to, in the order of first use. -/
abbrev Mapping := List (String × Nat)

/-- Maps a specifier. One that is mapped already keeps its place. -/
def Mapping.insert : Mapping → String → Nat → Mapping
  | [], s, id => [(s, id)]
  | (k, old) :: rest, s, id =>
    if k = s then (k, id) :: rest else (k, old) :: Mapping.insert rest s id

/-- The mapping of entries of which a later one counts more. -/
def Mapping.ofList (entries : List (String × Nat)) : Mapping :=
  entries.foldl (fun m e => m.insert e.1 e.2) []

/-! ## Compiling -/

/-- What the text of a file becomes. -/
structure Compiled where
  /-- The body of a function of `require`, `module` and `exports`. -/
  code : String
  /-- The specifiers of imports and exports in order, repetitions included. -/
  specifiers : List String
deriving DecidableEq, Repr

/-- Compiles the text of a module; messages name the path. -/
def compileText (p : Path) (source : String) : Except BuildError Compiled :=
  match Module.ofText source.toList with
  | .ok m => .ok ⟨String.ofList (m.lower.print .compact), m.specifiers⟩
  | .error fault => .error (.syntaxError p fault)

/-- Compiles a file. -/
def compile (t : FileTree) (rules : List Rule) (p : Path) : Except BuildError Compiled := do
  match t.read p with
  | .ok source => compileText p (← transform rules p source)
  | .error cause => throw (.unreadable p cause)

/-! ## Assets -/

/-- A compiled file with its place in the graph. -/
structure Asset where
  id : Nat
  path : Path
  code : String
  specifiers : List String
  mapping : Mapping
deriving DecidableEq, Repr

/-- The asset of a file under a number, before the graph is known. -/
def Asset.build (t : FileTree) (rules : List Rule) (p : Path) (id : Nat) :
    Except BuildError Asset := do
  let compiled ← compile t rules p
  return ⟨id, p, compiled.code, compiled.specifiers, []⟩

end ModuleBundler
