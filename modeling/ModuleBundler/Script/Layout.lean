/-!
Laying out printed text. A printer yields pieces: text, ends of lines, and changes of the
indentation. Laying them out is what decides where blanks and line feeds go: an end of line is
kept only where something stands on the line, and a line is indented when its first text comes.
-/

set_option autoImplicit false

namespace ModuleBundler.Script

/-- A piece of printed text. -/
inductive Piece where
  | text (s : List Char)
  | endLine
  | indent
  | outdent
deriving Repr, DecidableEq

abbrev Pieces := List Piece

namespace Pieces

/-- A text on its own. -/
def text (s : String) : Pieces := [.text s.toList]

/-- An end of line on its own. -/
def endLine : Pieces := [.endLine]

/-- Pieces one indentation deeper. -/
def indented (ps : Pieces) : Pieces := .indent :: ps ++ [.outdent]

/-- Pieces with others between them. -/
def separated (separator : Pieces) : List Pieces → Pieces
  | [] => []
  | [p] => p
  | p :: rest => p ++ separator ++ separated separator rest

/-- The blanks of one indentation. -/
def indentation : List Char := [' ', ' ', ' ', ' ']

/-- Lays out pieces at a depth, given whether the line is still empty. -/
def layoutFrom (depth : Nat) (atStart : Bool) : Pieces → List Char
  | [] => []
  | .text s :: rest =>
    if s.isEmpty then layoutFrom depth atStart rest
    else if atStart then
      (List.replicate depth indentation).flatten ++ s ++ layoutFrom depth false rest
    else s ++ layoutFrom depth false rest
  | .endLine :: rest =>
    if atStart then layoutFrom depth true rest else '\n' :: layoutFrom depth true rest
  | .indent :: rest => layoutFrom (depth + 1) atStart rest
  | .outdent :: rest => layoutFrom (depth - 1) atStart rest

/-- Lays out pieces from the start of a text. -/
def layout (ps : Pieces) : List Char := layoutFrom 0 true ps

end Pieces

end ModuleBundler.Script
