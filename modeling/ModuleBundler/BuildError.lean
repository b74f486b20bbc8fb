import ModuleBundler.Emission
import ModuleBundler.Data.Literal
import ModuleBundler.Script.SyntaxError

/-!
Why a build fails. Each cause is a constructor with the values that its message names; the wording
of all messages is in one function.
-/

set_option autoImplicit false

namespace ModuleBundler

/-- Why a loader fails. -/
inductive LoadError where
  /-- The text is no document of the data format that the loader reads. -/
  | malformed
  | custom (message : String)
deriving DecidableEq, Repr

/-- Why a build fails. -/
inductive BuildError where
  /-- A source file cannot be read. -/
  | unreadable (path : Path) (cause : FileError)
  /-- A source text is no module. -/
  | syntaxError (path : Path) (fault : Script.Fault)
  /-- A specifier leads to no module. -/
  | moduleNotFound (specifier : String) (importer : Path)
  /-- A loader refuses a file. -/
  | refused (loader : String) (path : Path) (cause : LoadError)
  /-- The bundle cannot be written. -/
  | unwritable (path : Path) (cause : FileError)
  /-- Data has no literal. -/
  | noLiteral (cause : DataError)
  /-- The loader of bundles has no place for what is put into it. -/
  | missingSlot
  /-- A tap fails. -/
  | tapFailed (failure : TapFailure)
  /-- The test of a rule is no regular expression. -/
  | malformedTest (pattern : String)
  | unknownLoader (name : String)
  | unknownPlugin (name : String)
  | unopenedConfiguration (path : Path)
  | malformedConfiguration (path : Path)
  /-- A configuration names no entry, and none is given. -/
  | unconfiguredEntry
  /-- Neither an entry nor a configuration is given. -/
  | noEntry
deriving DecidableEq, Repr

/-- The text of an error. What caused it is not part of it. -/
def BuildError.message : BuildError → String
  | .unreadable path _ => "failed to read " ++ path.toString
  | .syntaxError path fault =>
    path.toString ++ ":" ++ toString fault.position.line ++ ":" ++
      toString fault.position.column ++ ": " ++ fault.error.message
  | .moduleNotFound specifier importer =>
    "cannot find module '" ++ specifier ++ "' imported from " ++ importer.toString
  | .refused loader path _ => loader ++ " failed to transform " ++ path.toString
  | .unwritable path _ => "failed to write bundle to " ++ path.toString
  | .noLiteral cause => cause.message
  | .missingSlot => "runtime template is missing a slot"
  | .tapFailed failure => "hook '" ++ failure.tap ++ "' failed"
  | .malformedTest pattern => "regex parse error: " ++ pattern
  | .unknownLoader name => "unknown loader '" ++ name ++ "'"
  | .unknownPlugin name => "unknown plugin '" ++ name ++ "'"
  | .unopenedConfiguration path => "Unable to open config file " ++ path.toString
  | .malformedConfiguration path => "Failed to parse JSON in " ++ path.toString
  | .unconfiguredEntry => "no entry point configured"
  | .noEntry => "an entry point or --config is required"

end ModuleBundler
