import ModuleBundler.Script.Lexer.Source

/-!
What lies between two tokens: blanks, ends of lines and comments. Two things that look like tokens
are part of it. The comments of old begin with `<!--`, or with `-->` where a line begins, and take
the rest of the line; so do the marks that a failed merge leaves where a line begins.
-/

set_option autoImplicit false

namespace ModuleBundler.Script

/-- What has been found between two tokens. -/
structure Gap where
  hasLineBreak : Bool
  /-- The last character of the last comment. -/
  commentEnd : Option Char := none
  /-- Where the token begins for messages, if part of the gap looked like one. -/
  start : Option Position := none

namespace Gap

/-- Takes the rest of a line, its end apart. -/
def skipLine : Scan Unit := do
  let _ ← Scan.takeWhile (!Text.isLineBreak ·)

/-- Takes a block comment whose opening has been taken; says whether lines end in it. -/
def skipBlock (start : Position) : Nat → Bool → Scan Bool
  | 0, _ => Scan.failAt .unterminatedComment start
  | fuel + 1, broken => do
    match ← Scan.rest with
    | [] => Scan.failAt .unterminatedComment start
    | '*' :: '/' :: _ =>
      Scan.skip 2
      return broken
    | c :: _ =>
      Scan.skip 1
      skipBlock start fuel (broken || Text.isLineBreak c)

/-- The last visible character of a line. -/
def lastVisible (line : List Char) : Option Char := (line.filter (!Text.isBlank ·)).getLast?

/-- The gap after a comment that takes the line. -/
def afterLine (g : Gap) : Scan Gap := do
  let line := (← Scan.rest).takeWhile (!Text.isLineBreak ·)
  skipLine
  return { g with commentEnd := lastVisible line }

/-- The gap after a line that began like a token. -/
def afterFalseToken (g : Gap) : Scan Gap := do
  let start ← Scan.position
  let g ← g.afterLine
  return { g with start := some (g.start.getD start) }

/-- The marks of a failed merge, which begin lines. -/
def conflictMarkers : List String := ["<<<<<<< ", "=======", ">>>>>>> "]

/-- The source begins with a comment of old. -/
def atLegacyComment (g : Gap) (s : Source) : Bool :=
  s.startsWith "<!--" || (g.hasLineBreak && s.startsWith "-->")

/-- The source begins with a mark of a failed merge. -/
def atConflict (g : Gap) (s : Source) : Bool :=
  g.hasLineBreak && conflictMarkers.any s.startsWith

/-- Takes blanks and comments. Modules have no comments of old. -/
def skip (isModule : Bool) : Nat → Gap → Scan Gap
  | 0, g => return g
  | fuel + 1, g => do
    let s ← Scan.source
    match s.rest with
    | [] => return g
    | '/' :: '/' :: _ => skip isModule fuel (← g.afterLine)
    | '/' :: '*' :: _ =>
      Scan.skip 2
      let broken ← skipBlock s.position s.rest.length false
      skip isModule fuel
        { g with hasLineBreak := g.hasLineBreak || broken, commentEnd := some '/' }
    | c :: _ =>
      if Text.isLineBreak c then
        Scan.skip 1
        skip isModule fuel { g with hasLineBreak := true }
      else if Text.isBlank c then
        Scan.skip 1
        skip isModule fuel g
      else if g.atLegacyComment s then
        if isModule then Scan.complain .legacyComment s.position
        skip isModule fuel (← g.afterFalseToken)
      else if g.atConflict s then
        Scan.complain .conflictMarker s.position
        skip isModule fuel (← g.afterFalseToken)
      else return g

end Gap

end ModuleBundler.Script
