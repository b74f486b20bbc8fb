import ModuleBundler.Bundle.Render
import ModuleBundler.Graph

/-!
Whole builds: from options to a written file. Nothing is written before the text of the bundle and
its path are settled, so a build that fails earlier leaves the tree as it was; one that fails to
write may leave directories that it made for the file.
-/

set_option autoImplicit false

namespace ModuleBundler

/-- Where bundles go that no output is chosen for. -/
def defaultOutput : Path := Path.ofString "./dist/bundle.js"

/-- What a build is told. -/
structure Options where
  entry : Path
  output : Path := defaultOutput
  rules : List Rule := []
  plugins : List Plugin := []
  /-- Modules found in the same round may be compiled at the same time. This changes nothing that
  a build yields. -/
  parallel : Bool := false

namespace Options

/-- The taps that plugins register, in order. -/
def taps (o : Options) : List Tap := o.plugins.flatMap (·.taps)

/-- The options as listings show them. -/
def listing (o : Options) : List Char :=
  "BundleOptions \x7b entry: ".toList ++ Text.quoted o.entry.text ++
    ", output: ".toList ++ Text.quoted o.output.text ++
    ", rules: ".toList ++ Rule.bracketed (o.rules.map (·.listing)) ++
    ", plugins: ".toList ++ Rule.bracketed (o.plugins.map fun p => Text.quoted p.name.toList) ++
    ", parallel: ".toList ++ (if o.parallel then "true" else "false").toList ++ " \x7d".toList

end Options

namespace Bundle

/-- Writes a file and makes the directories it stands in. -/
def writeFile (t : FileTree) (p : Path) (text : String) : FileTree × Except BuildError Path :=
  let (t, failed) := match p.parent? with
    | some parent => if parent.text.isEmpty then (t, none) else t.makeDirectories parent
    | none => (t, none)
  match failed with
  | some cause => (t, .error (.unwritable p cause))
  | none =>
    match t.write p text with
    | .ok t => (t, .ok p)
    | .error cause => (t, .error (.unwritable p cause))

/-- Lets taps choose the path of a bundle and writes it there. -/
def emit (t : FileTree) (output : Path) (taps : List Tap) (code : String) :
    FileTree × Except BuildError Path :=
  match dispatch taps output with
  | (p, none) => writeFile t p code
  | (_, some failure) => (t, .error (.tapFailed failure))

/-- The module graph of a build. -/
def graph (t : FileTree) (o : Options) (resolver : Resolver) : Except BuildError (List Asset) :=
  Graph.resolve t o.rules resolver o.entry

/-- Builds a bundle and writes it. The taps of plugins come before other taps. -/
def build (t : FileTree) (o : Options) (resolver : Resolver) (taps : List Tap) :
    FileTree × Except BuildError Path :=
  match (do render (← graph t o resolver) : Except BuildError String) with
  | .ok code => emit t o.output (o.taps ++ taps) code
  | .error e => (t, .error e)

end Bundle

end ModuleBundler
