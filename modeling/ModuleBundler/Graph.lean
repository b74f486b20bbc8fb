import ModuleBundler.Asset
import ModuleBundler.Resolution

/-!
The module graph: all modules that are reached from an entry, numbered in the order they are found
in. The search goes in rounds. A round looks up the specifiers of all modules found in the round
before, gives the next numbers to the paths met for the first time, and then compiles those. So a
module is compiled once however often it is imported, and cycles end.

The search knows the files only through two functions, one that compiles a path and one that
locates a specifier; `Graph.resolve` takes them from a file tree.
-/

set_option autoImplicit false

namespace ModuleBundler.Graph

/-- What the search asks of the world. -/
structure World where
  compile : Path → Except BuildError Compiled
  locate : Path → String → Option Path

/-! ## Numbers -/

/-- The number of a path and the paths known after asking for it: those known before, and itself.
The number of a path is its position. -/
def claim (known : List Path) (p : Path) : Nat × List Path :=
  match known.idxOf? p with
  | some id => (id, known)
  | none => (known.length, known ++ [p])

/-! ## Linking -/

/-- Maps the specifiers of a module one after another. -/
def linkSpecifiers (w : World) (importer : Path) :
    List String → List Path → Mapping → Except BuildError (Mapping × List Path)
  | [], known, mapping => .ok (mapping, known)
  | s :: rest, known, mapping =>
    match w.locate importer s with
    | none => .error (.moduleNotFound s importer)
    | some p =>
      let (id, known) := claim known p
      linkSpecifiers w importer rest known (mapping.insert s id)

/-- Links modules one after another. -/
def linkAll (w : World) : List Asset → List Path → Except BuildError (List Asset × List Path)
  | [], known => .ok ([], known)
  | a :: rest, known => do
    let (mapping, known) ← linkSpecifiers w a.path a.specifiers known a.mapping
    let (linked, known) ← linkAll w rest known
    return ({ a with mapping := mapping } :: linked, known)

/-! ## Compiling -/

/-- Compiles paths under consecutive numbers. -/
def buildAll (w : World) : Nat → List Path → Except BuildError (List Asset)
  | _, [] => .ok []
  | id, p :: rest => do
    let compiled ← w.compile p
    return ⟨id, p, compiled.code, compiled.specifiers, []⟩ :: (← buildAll w (id + 1) rest)

/-! ## Rounds -/

/-- Rounds of the search until nothing new is found. `done` are the modules that are linked, and
`frontier` those found in the round before. Every round but the last one finds a new path, so
`fuel` is a bound on the number of paths. -/
def rounds (w : World) : Nat → List Asset → List Asset → List Path →
    Except BuildError (List Asset)
  | 0, done, frontier, _ => .ok (done ++ frontier)
  | fuel + 1, done, frontier, known =>
    if frontier.isEmpty then .ok done
    else do
      let (linked, known') ← linkAll w frontier known
      let found ← buildAll w known.length (known'.drop known.length)
      rounds w fuel (done ++ linked) found known'

/-- All modules reached from an entry, among at most `bound` paths. -/
def search (w : World) (bound : Nat) (entry : Path) : Except BuildError (List Asset) := do
  rounds w (bound + 1) [] (← buildAll w 0 [entry]) [entry]

/-! ## Trees -/

/-- The world of a file tree. -/
def World.ofTree (t : FileTree) (rules : List Rule) (resolver : Resolver) : World where
  compile := ModuleBundler.compile t rules
  locate := ModuleBundler.locate resolver t

/-- All modules reached from an entry in a file tree, in the order of their numbers. Each of their
paths is that of an entry of the tree or the root's. -/
def resolve (t : FileTree) (rules : List Rule) (resolver : Resolver) (entry : Path) :
    Except BuildError (List Asset) :=
  match t.canonicalize entry with
  | .ok p => search (.ofTree t rules resolver) (t.entries.length + 1) p
  | .error cause => .error (.unreadable entry cause)

end ModuleBundler.Graph
