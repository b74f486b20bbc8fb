import ModuleBundler.FileTree
import ModuleBundler.Text.Digit
import ModuleBundler.Text.Units

/-!
Choosing the path that a bundle is written to. Taps look at the path chosen so far and change it,
one after another in the order of their registration; the first one that fails ends this, and the
path stays as it was then. A plugin is a named list of taps.
-/

set_option autoImplicit false

namespace ModuleBundler

/-- A named change of the output path, which may fail with a message. -/
structure Tap where
  name : String
  change : Path → Except String Path

/-- An extension that registers taps. -/
structure Plugin where
  name : String
  taps : List Tap

/-- A tap that failed, and why. -/
structure TapFailure where
  tap : String
  message : String
deriving Repr, DecidableEq

/-- Runs taps over a path. -/
def dispatch : List Tap → Path → Path × Option TapFailure
  | [], p => (p, none)
  | tap :: rest, p =>
    match tap.change p with
    | .ok p => dispatch rest p
    | .error message => (p, some ⟨tap.name, message⟩)

namespace Path

/-- The path with the digest of its stem as file name. -/
def digested (p : Path) : Path :=
  p.withFileName
    (Text.decimal (Text.digest (p.fileStem?.getD [])).toNat ++ ['.', 'j', 's'])

end Path

namespace Plugin

/-- The plugin that renames a bundle to the digest of its stem. -/
def changeOutputPath : Plugin :=
  ⟨"change-output-path", [⟨"change-output-path", fun p => .ok p.digested⟩]⟩

/-- A plugin that is known by name. -/
def builtin? (name : String) : Option Plugin :=
  if name = changeOutputPath.name then some changeOutputPath else none

end Plugin

end ModuleBundler
