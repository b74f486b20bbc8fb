import ModuleBundler.CommandLine

/-!
The program. It takes the files of the disk into a tree, runs the command on the tree, and carries
out on the disk what has changed. The tree holds what is below the working directory and below the
directories that arguments name; links are left out.
-/

set_option autoImplicit false

namespace ModuleBundler.Program

/-- The location of a path from the root without detours. -/
def locationOf (path : String) : Location :=
  (Path.splitPieces path.toList).filter (!Path.isIdle ·)

/-- The tree with what stands at a place on the disk and below it. -/
partial def plantBelow (t : FileTree) (place : String) : IO FileTree := do
  let real ← IO.FS.realPath place
  let l := locationOf real.toString
  if ← real.isDir then
    let mut t := t.putDirectories l
    for e in ← real.readDir do
      if (← IO.FS.realPath e.path) == e.path then t ← plantBelow t e.path.toString
    return t
  return t.plant l (.file (Content.ofBytes (← IO.FS.readBinFile real).toList))

/-- The directories that arguments name: those that paths in them are in. -/
def namedDirectories (arguments : List String) : List String :=
  (arguments.filterMap fun a => (Path.ofString a).parent?).map (·.toString)
    |>.filter fun d => d != "" && d != "/"

/-- The files of the disk that a run may look at. -/
def diskTree (arguments : List String) : IO FileTree := do
  let here ← IO.currentDir
  let mut t := FileTree.empty (locationOf here.toString)
  t ← plantBelow t here.toString
  for d in namedDirectories arguments do
    try t ← plantBelow t d catch _ => pure ()
  return t

/-- Makes the directories and writes the files of one tree that another one lacks. -/
def carryOut (before after : FileTree) : IO Unit := do
  for (l, e) in after.entries do
    if e == .directory && (before.entry? l).isNone then
      IO.FS.createDirAll (FileTree.pathOf l).toString
  for (l, content) in FileTree.changedFiles before after do
    match content with
    | .text s => IO.FS.writeFile (FileTree.pathOf l).toString s
    | .bytes bytes => IO.FS.writeBinFile (FileTree.pathOf l).toString ⟨bytes.toArray⟩

end ModuleBundler.Program

open ModuleBundler in
/-- Runs the program on its arguments. -/
def main (arguments : List String) : IO UInt32 := do
  let before ← Program.diskTree arguments
  let (after, outcome) := CommandLine.run before arguments
  Program.carryOut before after
  match outcome with
  | .done printed =>
    IO.print printed
    return 0
  | .failed e =>
    IO.eprintln ("Error: " ++ e.message)
    return 1
  | .misused =>
    IO.eprintln "usage: bundle|graph [options] [entry]"
    return 1
