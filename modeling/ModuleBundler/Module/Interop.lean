import ModuleBundler.Script.Build

/-!
The code that lowered modules share: functions that let modules of both kinds, those with exports
declared and those that fill an exports object, be read alike.
-/

set_option autoImplicit false

namespace ModuleBundler

open Script Script.Build

/-- A function that lowered modules call. -/
inductive InteropHelper where
  /-- Gives a module that declares no exports a `default` export, the module itself. -/
  | default
  /-- Gives a module that declares no exports a namespace: its own keys, and `default`. -/
  | wildcard
  /-- Re-exports the names of one module from another. -/
  | star
deriving Repr, DecidableEq

namespace InteropHelper

/-- All helpers, in the order in which they are declared. -/
def all : List InteropHelper := [.default, .wildcard, .star]

/-- The name that a helper is declared under. -/
def name : InteropHelper → String
  | .default => "__pumice_interop_default"
  | .wildcard => "__pumice_interop_wildcard"
  | .star => "__pumice_export_star"

/-- The key that marks an exports object with declared exports. -/
def marker : String := "__esModule"

/-- Defines on one object, under the key held by `k`, a getter of the same key of another. -/
def forward (target source : String) : Statement :=
  run (call (dot (Build.name "Object") "defineProperty") [Build.name target, Build.name "k",
    object [("enumerable", .boolLiteral true),
      ("get", lambda [] [returns (itemAt (Build.name source) (Build.name "k"))])]])

/-- Runs statements for each own key of an object, the key held by `k`. -/
def forEachKey (source : String) (body : List Statement) : Statement :=
  run (call (dot (call (dot (Build.name "Object") "keys") [Build.name source]) "forEach")
    [lambda ["k"] body])

/-- The key held by `k` is this one. -/
def keyIs (key : String) : Expr := .binary .strictEqual (Build.name "k") (str key)

/-- The module held by `m` is there and declares its exports. -/
def declaresExports : Expr := .binary .and (Build.name "m") (dot (Build.name "m") marker)

/-- The declaration of a helper. -/
def declaration : InteropHelper → Statement
  | .default =>
    declare (name .default) ["m"]
      [returns (.conditional declaresExports (Build.name "m")
        (object [("default", Build.name "m")]))]
  | .wildcard =>
    declare (name .wildcard) ["m"]
      [when declaresExports (returns (Build.name "m")),
        var "ns" (object []),
        when (.binary .notEqual (Build.name "m") .nullLiteral)
          (block [forEachKey "m"
            [when (keyIs "default") (.returnStatement .absent), forward "ns" "m"]]),
        run (assignTo (dot (Build.name "ns") "default") (Build.name "m")),
        returns (Build.name "ns")]
  | .star =>
    declare (name .star) ["from", "to"]
      [forEachKey "from"
        [when (.binary .or (.binary .or (keyIs "default") (keyIs marker))
            (call (dot (dot (dot (Build.name "Object") "prototype") "hasOwnProperty") "call")
              [Build.name "to", Build.name "k"]))
          (.returnStatement .absent),
          forward "to" "from"]]

end InteropHelper

end ModuleBundler
