import ModuleBundler.Path

/-!
A tree of files and directories without links, and what the operating system does with a path in
it. The tree is a list of located entries; a location is the list of names that leads to an entry
from the root. A path is followed piece by piece from the root or the working directory, and each
piece, an idle one too, needs a directory to stand on: that one rule decides which paths name
nothing, which run through a file, and which spellings mean the same file.
-/

set_option autoImplicit false

namespace ModuleBundler

/-- Why an operation on a path fails. -/
inductive FileError where
  | notFound
  | notADirectory
  | isADirectory
  | alreadyExists
  | invalidData
  | invalidInput
  | nameTooLong
deriving DecidableEq, Repr

/-- The text of an error, as the operating system or the library words it. -/
def FileError.message : FileError → String
  | .notFound => "No such file or directory (os error 2)"
  | .notADirectory => "Not a directory (os error 20)"
  | .isADirectory => "Is a directory (os error 21)"
  | .alreadyExists => "File exists (os error 17)"
  | .invalidData => "stream did not contain valid UTF-8"
  | .invalidInput => "file name contained an unexpected NUL byte"
  | .nameTooLong => "File name too long (os error 36)"

/-- The bytes of a file: a text, or bytes that encode none. -/
inductive Content where
  | text (text : String)
  | bytes (bytes : List UInt8)
deriving DecidableEq, Repr

/-- The content that bytes are. -/
def Content.ofBytes (bytes : List UInt8) : Content :=
  match String.fromUTF8? ⟨bytes.toArray⟩ with
  | some s => .text s
  | none => .bytes bytes

/-- What stands at a location. -/
inductive Entry where
  | directory
  | file (content : Content)
deriving DecidableEq, Repr

/-- The names from the root to an entry. -/
abbrev Location := List (List Char)

/-- Located entries, and the location that relative paths start from. -/
structure FileTree where
  workingDirectory : Location
  entries : List (Location × Entry)
deriving Repr

namespace FileTree

/-! ## Entries -/

/-- What stands at a location; the root is a directory. -/
def entry? (t : FileTree) (l : Location) : Option Entry :=
  if l.isEmpty then some .directory else t.entries.lookup l

/-- Replaces the entry at a location, or adds one. -/
def putEntry (l : Location) (e : Entry) : List (Location × Entry) → List (Location × Entry)
  | [] => [(l, e)]
  | (k, old) :: rest => if k = l then (k, e) :: rest else (k, old) :: putEntry l e rest

/-- The tree with an entry at a location. -/
def put (t : FileTree) (l : Location) (e : Entry) : FileTree :=
  { t with entries := putEntry l e t.entries }

/-- The tree with a directory at a location where nothing stood. -/
def ensureDirectory (t : FileTree) (l : Location) : FileTree :=
  if (t.entry? l).isNone then t.put l .directory else t

/-- The tree with directories at a location and all above it, where nothing stands yet. -/
def putDirectories (t : FileTree) (l : Location) : FileTree :=
  (List.range (l.length + 1)).foldl (fun t n => t.ensureDirectory (l.take n)) t

/-- The tree with an entry at a location and directories above it. -/
def plant (t : FileTree) (l : Location) (e : Entry) : FileTree :=
  (t.putDirectories l.dropLast).put l e

/-- A tree that holds only a working directory. -/
def empty (workingDirectory : Location) : FileTree :=
  putDirectories ⟨workingDirectory, []⟩ workingDirectory

/-- The location's path from the root. -/
def pathOf (l : Location) : Path := ⟨'/' :: Path.joinPieces l⟩

/-! ## Following a path -/

/-- The bytes that a text takes. -/
def byteCount (text : List Char) : Nat := text.foldl (fun n c => n + c.utf8Size) 0

/-- The most bytes that a name may take. -/
def nameLimit : Nat := 255

/-- The bytes that are too many for the text of a path. -/
def pathLimit : Nat := 4096

/-- Refuses a text that names nothing: an empty one, or one with a zero in it. -/
def checkName (p : Path) : Except FileError Unit :=
  if p.text.isEmpty then .error .notFound
  else if p.text.contains '\x00' then .error .invalidInput
  else .ok ()

/-- Refuses a text that cannot be the path of anything. -/
def checkText (p : Path) : Except FileError Unit :=
  match checkName p with
  | .ok () => if pathLimit ≤ byteCount p.text then .error .nameTooLong else .ok ()
  | .error e => .error e

/-- One piece further; what has been reached has to be a directory. -/
def step (t : FileTree) (l : Location) (piece : List Char) : Except FileError Location :=
  match t.entry? l with
  | some .directory =>
    if Path.isIdle piece then .ok l
    else if piece == ['.', '.'] then .ok l.dropLast
    else if nameLimit < byteCount piece then .error .nameTooLong
    else .ok (l ++ [piece])
  | some (.file _) => .error .notADirectory
  | none => .error .notFound

/-- Several pieces further. -/
def steps (t : FileTree) (l : Location) : List (List Char) → Except FileError Location
  | [] => .ok l
  | piece :: rest =>
    match t.step l piece with
    | .ok next => t.steps next rest
    | .error e => .error e

/-- Where a path starts to be followed. -/
def origin (t : FileTree) (p : Path) : Location := if p.isAbsolute then [] else t.workingDirectory

/-- The location a path leads to; nothing has to stand there. -/
def locate (t : FileTree) (p : Path) : Except FileError Location :=
  match checkText p with
  | .ok () => t.steps (t.origin p) (Path.splitPieces p.text)
  | .error e => .error e

/-- The location and the entry a path leads to. -/
def find (t : FileTree) (p : Path) : Except FileError (Location × Entry) :=
  match t.locate p with
  | .ok l =>
    match t.entry? l with
    | some e => .ok (l, e)
    | none => .error .notFound
  | .error e => .error e

/-- The path leads to a file. -/
def isFile (t : FileTree) (p : Path) : Bool :=
  match t.find p with
  | .ok (_, .file _) => true
  | _ => false

/-- The path leads to a directory. -/
def isDirectory (t : FileTree) (p : Path) : Bool :=
  match t.find p with
  | .ok (_, .directory) => true
  | _ => false

/-- The text of the file a path leads to. -/
def read (t : FileTree) (p : Path) : Except FileError String :=
  match t.find p with
  | .ok (_, .file (.text s)) => .ok s
  | .ok (_, .file (.bytes _)) => .error .invalidData
  | .ok (_, .directory) => .error .isADirectory
  | .error e => .error e

/-! ## Canonical paths

The operating system follows a path from where it starts. A path is canonicalized outside of it:
each name is looked up by the absolute path so far, so that path has to be short enough, and the
path as it is written does not. -/

/-- What comes after a name needs a directory there: a step up does, and idle pieces at the end. -/
def needsDirectory (rest : List (List Char)) : Bool :=
  match rest.dropWhile Path.isIdle with
  | [] => !rest.isEmpty
  | piece :: _ => piece == ['.', '.']

/-- The path that a location is looked up by; a separator after it asks for a directory. -/
def lookupPath (l : Location) (asDirectory : Bool) : Path :=
  ⟨(pathOf l).text ++ if asDirectory then ['/'] else []⟩

/-- Where pieces lead when each name among them is looked up from the root. Idle pieces and steps
up are taken without a look at the tree. -/
def lookupSteps (t : FileTree) (l : Location) : List (List Char) → Except FileError Location
  | [] => .ok l
  | piece :: rest =>
    if Path.isIdle piece then t.lookupSteps l rest
    else if piece == ['.', '.'] then t.lookupSteps l.dropLast rest
    else
      match t.find (lookupPath (l ++ [piece]) (needsDirectory rest)) with
      | .ok _ => t.lookupSteps (l ++ [piece]) rest
      | .error e => .error e

/-- The location of what a path leads to, by looking up its names one after another. The working
directory has to be there where a path starts from it. -/
def lookup (t : FileTree) (p : Path) : Except FileError Location :=
  match checkName p with
  | .ok () =>
    if (t.entry? (t.origin p)).isNone then .error .notFound
    else
      match t.lookupSteps (t.origin p) (Path.splitPieces p.text) with
      | .ok l => if (t.entry? l).isSome then .ok l else .error .notFound
      | .error e => .error e
  | .error e => .error e

/-- The path from the root, without idle pieces and steps up, of what a path leads to. -/
def canonicalize (t : FileTree) (p : Path) : Except FileError Path := (t.lookup p).map pathOf

/-! ## Changing the tree -/

/-- Makes one directory. Separators at the end of the path are passed over. -/
def makeDirectory (t : FileTree) (p : Path) : Except FileError FileTree := do
  checkText p
  match (Path.splitPieces p.text).reverse.dropWhile (·.isEmpty) with
  | [] => throw .alreadyExists
  | name :: before =>
    let above ← t.steps (t.origin p) before.reverse
    let l ← t.step above name
    if name == ['.'] || name == ['.', '.'] || (t.entry? l).isSome then throw .alreadyExists
    return t.put l .directory

/-- Makes a directory and those above it. Where one is missing, the parent path is made first;
each path is shorter than the one before, so `fuel` is the length of the text. -/
def makeDirectoriesWithin (fuel : Nat) (t : FileTree) (p : Path) : FileTree × Option FileError :=
  let settled (t : FileTree) (e : FileError) : FileTree × Option FileError :=
    if t.isDirectory p then (t, none) else (t, some e)
  if p.text.isEmpty then (t, none)
  else match t.makeDirectory p with
    | .ok t => (t, none)
    | .error .notFound =>
      match fuel, p.parent? with
      | fuel + 1, some parent =>
        match makeDirectoriesWithin fuel t parent with
        | (t, none) =>
          match t.makeDirectory p with
          | .ok t => (t, none)
          | .error e => settled t e
        | failed => failed
      | _, _ => (t, some .notFound)
    | .error e => settled t e

/-- Makes a directory and those above it. On failure those already made stay. -/
def makeDirectories (t : FileTree) (p : Path) : FileTree × Option FileError :=
  makeDirectoriesWithin p.text.length t p

/-- Where a file to be written stands. A path that ends in a separator names a directory, so it
fails whatever stands there. -/
def writeLocation (t : FileTree) (p : Path) : Except FileError Location := do
  checkText p
  match (Path.splitPieces p.text).reverse with
  | [] => throw .notFound
  | [] :: before =>
    let _ ← t.steps (t.origin p) (before.dropWhile (·.isEmpty)).reverse
    throw .isADirectory
  | name :: before =>
    let above ← t.steps (t.origin p) before.reverse
    let l ← t.step above name
    match t.entry? l with
    | some .directory => throw .isADirectory
    | _ => return l

/-- Writes a text to a file, a new one or in place of what it held. -/
def write (t : FileTree) (p : Path) (text : String) : Except FileError FileTree :=
  (t.writeLocation p).map fun l => t.put l (.file (.text text))

/-- The files of a tree that another one lacks or holds with other bytes. -/
def changedFiles (before after : FileTree) : List (Location × Content) :=
  after.entries.filterMap fun (l, e) =>
    match e with
    | .directory => none
    | .file c => if before.entry? l = some e then none else some (l, c)

end FileTree

end ModuleBundler
