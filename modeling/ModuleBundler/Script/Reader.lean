import ModuleBundler.Script.Reader.Statement

/-!
Reading whole texts. The readers of the grammar's parts call each other through `Readers`; here
the record is filled with the readers themselves. Each level of it may only call the level below,
so `readers` is a recursion on the number of levels, and every level of nesting in a text takes at
least one character: three levels for each character are more than any text uses.
-/

set_option autoImplicit false

namespace ModuleBundler.Script.Reader

/-! ## All readers -/

/-- The readers of a grammar nested up to a depth. -/
def readers : Nat → Readers
  | 0 =>
    { assignment := failEnd
      operand := fun _ => failEnd
      leftHand := failEnd
      callee := failEnd
      statement := fun _ => failEnd
      bindingTarget := failEnd }
  | depth + 1 =>
    { assignment := fun ctx s => assignment (readers depth) ctx s
      operand := fun arrowAllowed ctx s => operand (readers depth) arrowAllowed ctx s
      leftHand := fun ctx s => leftHand (readers depth) false ctx s
      callee := fun ctx s => callee (readers depth) ctx s
      statement := fun declarations ctx s => statement (readers depth) declarations ctx s
      bindingTarget := fun ctx s => bindingTarget (readers depth) ctx s }

/-- The readers for a text. -/
def readersFor (text : List Char) : Readers := readers (3 * text.length + 12)

/-! ## Beginning -/

/-- The line that names the interpreter of a text, without its mark, and what follows it. The mark
counts at the very start of the text alone. -/
def interpreterOf (s : Source) : Option String × Source :=
  if s.startsWith "#!" then
    let line := (s.rest.drop 2).takeWhile (!Text.isLineBreak ·)
    (some (String.ofList line), s.drop (2 + line.length))
  else (none, s)

/-- Reads a text in a context by a reader of what follows the line for the interpreter. -/
def run {α : Type} (ctx : Context) (x : Reading α) (text : List Char) :
    Except Fault (Option String × α × List Fault) := do
  let (interpreter, source) := interpreterOf (Source.ofText text)
  match (x ctx).run { lexer := .ofSource source } with
  | (.ok a, s) => return (interpreter, a, s.complaints)
  | (.error e, _) => throw e

/-! ## Scripts -/

/-- The statements of a script up to its end. -/
def scriptFrom (r : Readers) : Nat → List Statement → Reading (List Statement)
  | 0, _ => failEnd
  | fuel + 1, body => do
    if ← atEnd? then return body.reverse
    scriptFrom r fuel ((← outermostStatement r) :: body)

/-- The statements of a script, of which the first one may ask for strict code. -/
def script (r : Readers) : Reading (List Statement) := do
  if ← atEnd? then return []
  let first ← outermostStatement r
  withStrict (asksStrict first) do scriptFrom r (← tokensLeft) [first]

end ModuleBundler.Script.Reader

namespace ModuleBundler.Script

open Reader in
/-- The script of a text. Complaints do not stop it. -/
def Program.ofText (text : List Char) : Except Fault Program := do
  let (interpreter, body, _) ← run { isModule := false, strict := false }
    (script (readersFor text)) text
  return ⟨interpreter, body⟩

end ModuleBundler.Script
