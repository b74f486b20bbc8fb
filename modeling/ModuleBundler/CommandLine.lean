import ModuleBundler.Configuration

/-!
The commands of the program. `bundle` builds a bundle and says where it was written; `graph` lists
the modules of a build with their numbers and mappings. Arguments are read in two steps: first
into options and positional arguments by a table of the options there are, then into a command.
-/

set_option autoImplicit false

namespace ModuleBundler.CommandLine

/-! ## Arguments -/

/-- An option that a command has. -/
structure OptionKind where
  long : String
  short : Option Char
  takesValue : Bool

/-- The arguments of a command: each option given, with its value, and the positional ones. They
are misused where an option is given twice or lacks its value; that shows only when all of them
have been read. -/
structure Arguments where
  options : List (String × String) := []
  positional : List String := []
  misused : Bool := false

namespace Arguments

/-- Adds an option, which can be given once. -/
def withOption (a : Arguments) (kind : OptionKind) (value : String) : Arguments :=
  if (a.options.lookup kind.long).isSome then { a with misused := true }
  else { a with options := a.options ++ [(kind.long, value)] }

/-- The option was given. -/
def has (a : Arguments) (long : String) : Bool := (a.options.lookup long).isSome

/-- The value of an option as a path. -/
def path? (a : Arguments) (long : String) : Option Path :=
  (a.options.lookup long).map Path.ofString

/-- The entry. -/
def entry? (a : Arguments) : Option Path := a.positional.head?.map Path.ofString

end Arguments

/-- Why the reading of arguments ends before the last one. -/
inductive Stop where
  /-- There is no such option, or no place for the argument. -/
  | unknown
  /-- The version is asked for, whatever else is. -/
  | version
deriving DecidableEq, Repr

/-- Adds a positional argument, of which there can be one. -/
def Arguments.withPositional (a : Arguments) (s : String) : Except Stop Arguments :=
  if a.positional.isEmpty then .ok { a with positional := [s] } else .error .unknown

/-- The value that is written together with its option; an equals sign between them is left out. -/
def attachedValue (text : List Char) : String := String.ofList (text.dropWhile (· == '='))

/-- An option in its long form, with what follows an equals sign. Yields the arguments and the
option that still waits for its value. -/
def longOption (kinds : List OptionKind) (text : List Char) (a : Arguments) :
    Except Stop (Arguments × Option OptionKind) :=
  let name := String.ofList (text.takeWhile (· != '='))
  match kinds.find? (·.long == name) with
  | none => .error (if name = "version" then .version else .unknown)
  | some kind =>
    if !kind.takesValue then .ok (a.withOption kind "", none)
    else if text.contains '=' then
      .ok (a.withOption kind (attachedValue (text.dropWhile (· != '='))), none)
    else .ok (a, some kind)

/-- Options in their short forms, written together. Only the last one may take a value, and the
rest of the text is that value. -/
def shortOptions (kinds : List OptionKind) :
    List Char → Arguments → Except Stop (Arguments × Option OptionKind)
  | [], a => .ok (a, none)
  | c :: rest, a =>
    match kinds.find? (·.short == some c) with
    | none => .error (if c = 'V' then .version else .unknown)
    | some kind =>
      if !kind.takesValue then shortOptions kinds rest (a.withOption kind "")
      else if rest.isEmpty then .ok (a, some kind)
      else .ok (a.withOption kind (attachedValue rest), none)

/-- Reads arguments. `waiting` is an option whose value is due; a value cannot begin with a dash,
unless it is nothing else. After `--` all arguments are positional. -/
def readArguments (kinds : List OptionKind) :
    Option OptionKind → List String → Arguments → Except Stop Arguments
  | waiting, [], a => .ok { a with misused := a.misused || waiting.isSome }
  | waiting, arg :: rest, a =>
    let text := arg.toList
    let isOption := text.head? == some '-' && text != ['-']
    match waiting, isOption with
    | some kind, false => readArguments kinds none rest (a.withOption kind arg)
    | none, false => (a.withPositional arg).bind (readArguments kinds none rest)
    | waiting, true =>
      let a := { a with misused := a.misused || waiting.isSome }
      if arg == "--" then rest.foldlM (fun a s => a.withPositional s) a
      else
        (if text.take 2 == ['-', '-'] then longOption kinds (text.dropWhile (· == '-')) a
          else shortOptions kinds (text.drop 1) a).bind fun (a, waiting) =>
            readArguments kinds waiting rest a

/-! ## Commands -/

/-- The name of the program. -/
def programName : String := "pumice"

/-- The version of the program. -/
def programVersion : String := "0.1.0"

/-- What the program is asked to do. -/
inductive Command where
  | bundle (entry configuration output : Option Path) (parallel digested : Bool)
  | graph (entry configuration : Option Path) (withPaths : Bool)
  /-- Say which version of the program, or of a command, this is. -/
  | version (name : String)
deriving DecidableEq, Repr

/-- The option that names a configuration file. -/
def configurationOption : OptionKind := ⟨"config", some 'c', true⟩

/-- The options of `bundle`. -/
def bundleOptions : List OptionKind :=
  [⟨"output", some 'o', true⟩, configurationOption, ⟨"parallel", none, false⟩,
    ⟨"hash-output", none, false⟩]

/-- The options of `graph`. -/
def graphOptions : List OptionKind := [configurationOption, ⟨"include-file", some 'f', false⟩]

/-- The command of a name from its arguments, given the options it has and what it makes of them. -/
def namedCommand? (name : String) (kinds : List OptionKind) (make : Arguments → Command)
    (arguments : List String) : Option Command :=
  match readArguments kinds none arguments {} with
  | .ok a => if a.misused then none else some (make a)
  | .error .version => some (.version (programName ++ "-" ++ name))
  | .error .unknown => none

/-- The command that arguments give, if they are used right. Without a command, they can only ask
for the version. -/
def command? : List String → Option Command
  | "bundle" :: rest =>
    namedCommand? "bundle" bundleOptions (fun a =>
      .bundle a.entry? (a.path? "config") (a.path? "output") (a.has "parallel")
        (a.has "hash-output")) rest
  | "graph" :: rest =>
    namedCommand? "graph" graphOptions (fun a =>
      .graph a.entry? (a.path? "config") (a.has "include-file")) rest
  | first :: _ =>
    match readArguments [] none [first] {} with
    | .error .version => some (.version programName)
    | _ => none
  | [] => none

/-! ## Running -/

/-- The options of a build from a configuration file or an entry. -/
def options (t : FileTree) (configuration entry : Option Path) : Except BuildError Options :=
  match configuration, entry with
  | some file, entry => Configuration.loadOptions t file entry
  | none, some entry => .ok { entry := entry }
  | none, none => .error .noEntry

/-- A module in the listing of a graph: its number, its path if asked for, and its mapping. -/
def assetListing (withPaths : Bool) (a : Asset) : String :=
  toString a.id ++ (if withPaths then " " ++ a.path.toString else "") ++ "\n" ++
    String.join (a.mapping.map fun (s, id) => "  " ++ s ++ " -> " ++ toString id ++ "\n")

/-- Runs a command: the tree afterwards, and what is printed or why the command fails. -/
def Command.run (t : FileTree) : Command → FileTree × Except BuildError String
  | .bundle entry configuration output parallel digested =>
    match options t configuration entry with
    | .error e => (t, .error e)
    | .ok o =>
      let o := { o with
        output := output.getD o.output
        parallel := parallel || o.parallel
        plugins := o.plugins ++ (if digested then [Plugin.changeOutputPath] else []) }
      let (t, written) := Bundle.build t o Resolver.relative []
      (t, written.map fun p => p.toString ++ "\n")
  | .graph entry configuration withPaths =>
    (t, do
      let o ← options t configuration entry
      let assets ← Bundle.graph t o Resolver.relative
      return String.join (assets.map (assetListing withPaths)))
  | .version name => (t, .ok (name ++ " " ++ programVersion ++ "\n"))

/-- How a run of the program ends. -/
inductive Outcome where
  /-- The arguments make no command. -/
  | misused
  | failed (e : BuildError)
  | done (printed : String)
deriving DecidableEq, Repr

/-- Runs the program on arguments. -/
def run (t : FileTree) (arguments : List String) : FileTree × Outcome :=
  match command? arguments with
  | none => (t, .misused)
  | some c =>
    match c.run t with
    | (t, .ok printed) => (t, .done printed)
    | (t, .error e) => (t, .failed e)

end ModuleBundler.CommandLine
