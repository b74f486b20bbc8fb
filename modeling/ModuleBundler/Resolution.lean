import ModuleBundler.FileTree

/-!
From specifiers to files. A resolver is asked where a specifier leads from the site of the module
that imports it. What it answers need not be a file; that is for its caller to find out.
-/

set_option autoImplicit false

namespace ModuleBundler

/-- Where a module stands. -/
inductive Site where
  | file (path : Path)
  /-- Somewhere that has a name but is no file. -/
  | named (name : String)
  | unnamed
deriving DecidableEq, Repr

/-- A site as messages name it. -/
def Site.shown : Site → String
  | .file path => path.toString
  | .named name => "<" ++ name ++ ">"
  | .unnamed => "<anon>"

/-- Why a specifier leads nowhere. -/
inductive ResolveError where
  /-- The importing module is no file, so nothing is relative to it. -/
  | notAFile (specifier : String) (site : Site)
  /-- The importing path is inside of no directory. -/
  | noParent (path : Path)
  /-- The specifier leads to a path that is no file. -/
  | noFile (path : Path)
  /-- There is a file, and its canonical path cannot be found out. -/
  | notCanonical (cause : FileError)
deriving DecidableEq, Repr

/-- The text of an error. -/
def ResolveError.message : ResolveError → String
  | .notAFile specifier site => "cannot resolve '" ++ specifier ++ "' from " ++ site.shown
  | .noParent path => path.toString ++ " has no parent directory"
  | .noFile path => "no file at " ++ path.toString
  | .notCanonical cause => cause.message

/-- Says where specifiers lead in a tree. -/
abbrev Resolver := FileTree → Site → String → Except ResolveError Site

namespace Resolver

/-- Takes a specifier as a path relative to the directory of the importing file. Nothing is added
to it, and it has to lead to a file. -/
def relative : Resolver := fun t site specifier =>
  match site with
  | .file importer =>
    match importer.parent? with
    | none => .error (.noParent importer)
    | some directory =>
      let candidate := directory.join (Path.ofString specifier)
      if t.isFile candidate then
        match t.canonicalize candidate with
        | .ok p => .ok (.file p)
        | .error cause => .error (.notCanonical cause)
      else .error (.noFile candidate)
  | site => .error (.notAFile specifier site)

/-! ## Aliases -/

/-- A beginning of specifiers, and the directory below the working directory that it stands for;
without a directory it stands for no file at all. -/
structure Alias where
  start : String
  target : Option String

/-- What follows the alias in a specifier that begins with it. -/
def Alias.rest? (a : Alias) (specifier : String) : Option (List Char) :=
  if a.start.toList.isPrefixOf specifier.toList then
    some (specifier.toList.drop a.start.toList.length)
  else none

/-- Looks at aliases first; the first one that fits decides. -/
def withAliases (aliases : List Alias) (otherwise : Resolver) : Resolver := fun t site specifier =>
  match aliases.findSome? fun a => (a.rest? specifier).map fun rest => (a.target, rest) with
  | some (some target, rest) =>
    .ok (.file ⟨(FileTree.pathOf t.workingDirectory).text ++ '/' :: target.toList ++ '/' :: rest⟩)
  | some (none, _) => .ok (.named specifier)
  | none => otherwise t site specifier

end Resolver

/-- The path that a specifier of an importing file means, free of detours, if it leads to
anything. -/
def locate (resolver : Resolver) (t : FileTree) (importer : Path) (specifier : String) :
    Option Path :=
  match resolver t (.file importer) specifier with
  | .ok (.file p) => (t.canonicalize p).toOption
  | _ => none

end ModuleBundler
