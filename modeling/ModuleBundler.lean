import ModuleBundler.Asset
import ModuleBundler.BuildError
import ModuleBundler.Bundle.Render
import ModuleBundler.Bundle.Runtime
import ModuleBundler.Bundle.Slots
import ModuleBundler.Bundle.Write
import ModuleBundler.CommandLine
import ModuleBundler.Configuration
import ModuleBundler.Data.Basic
import ModuleBundler.Data.Literal
import ModuleBundler.Emission
import ModuleBundler.FileTree
import ModuleBundler.Graph
import ModuleBundler.Json.Reader
import ModuleBundler.Json.Value
import ModuleBundler.Loader
import ModuleBundler.Main
import ModuleBundler.Module.Interop
import ModuleBundler.Module.Item
import ModuleBundler.Module.Lowering
import ModuleBundler.Module.Reader
import ModuleBundler.Module.Relink
import ModuleBundler.Number.Binary64
import ModuleBundler.Number.Shortest
import ModuleBundler.Path
import ModuleBundler.Proofs.Canonical
import ModuleBundler.Proofs.Data.Refusal
import ModuleBundler.Proofs.FirstOccurrences
import ModuleBundler.Proofs.Graph.Linking
import ModuleBundler.Proofs.Graph.Numbering
import ModuleBundler.Proofs.Graph.Rounds
import ModuleBundler.Proofs.Graph.Worklist
import ModuleBundler.Proofs.Mapping
import ModuleBundler.Proofs.Module.Contributions
import ModuleBundler.Proofs.Module.References
import ModuleBundler.Proofs.Module.RequireCalls
import ModuleBundler.Proofs.Module.Requires
import ModuleBundler.Proofs.Module.Rewriting
import ModuleBundler.Proofs.Script.Positions
import ModuleBundler.Proofs.Script.Reads
import ModuleBundler.Regex.Basic
import ModuleBundler.Regex.Bracket
import ModuleBundler.Regex.Escape
import ModuleBundler.Regex.Flags
import ModuleBundler.Regex.Measured
import ModuleBundler.Regex.Reader
import ModuleBundler.Resolution
import ModuleBundler.Script.Build
import ModuleBundler.Script.Context
import ModuleBundler.Script.Layout
import ModuleBundler.Script.Lexer
import ModuleBundler.Script.Lexer.Gap
import ModuleBundler.Script.Lexer.Number
import ModuleBundler.Script.Lexer.Situation
import ModuleBundler.Script.Lexer.Source
import ModuleBundler.Script.Lexer.Text
import ModuleBundler.Script.Lexer.Word
import ModuleBundler.Script.LiteralText
import ModuleBundler.Script.Node
import ModuleBundler.Script.Operator
import ModuleBundler.Script.Printer
import ModuleBundler.Script.Reader
import ModuleBundler.Script.Reader.Basic
import ModuleBundler.Script.Reader.Class
import ModuleBundler.Script.Reader.Cover
import ModuleBundler.Script.Reader.Expression
import ModuleBundler.Script.Reader.Function
import ModuleBundler.Script.Reader.Misplaced
import ModuleBundler.Script.Reader.Statement
import ModuleBundler.Script.Scope
import ModuleBundler.Script.SyntaxError
import ModuleBundler.Script.Token
import ModuleBundler.Text.CharSet
import ModuleBundler.Text.Classes
import ModuleBundler.Text.Digit
import ModuleBundler.Text.Property
import ModuleBundler.Text.Quoted
import ModuleBundler.Text.Unicode.Ages
import ModuleBundler.Text.Unicode.Breaks
import ModuleBundler.Text.Unicode.Categories
import ModuleBundler.Text.Unicode.LetterCase
import ModuleBundler.Text.Unicode.Properties
import ModuleBundler.Text.Unicode.ScriptExtensions
import ModuleBundler.Text.Unicode.Scripts
import ModuleBundler.Text.Units
import ModuleBundler.Proofs.Module.OwnStatements
import ModuleBundler.Proofs.Script.Names
import ModuleBundler.Proofs.Module.Names
import ModuleBundler.Proofs.Module.Receivers
import ModuleBundler.Proofs.Module.Declarations
import ModuleBundler.Proofs.Module.Factory
import ModuleBundler.Proofs.Module.Generated
import ModuleBundler.Proofs.Script.Written
import ModuleBundler.Proofs.Module.Hygiene
import ModuleBundler.Proofs.Script.Reader.Cover
import ModuleBundler.Proofs.Script.Reader.Class
import ModuleBundler.Proofs.Script.Reader.Expression
import ModuleBundler.Proofs.Script.Reader.Statement
import ModuleBundler.Proofs.Script.Reader.Whole
import ModuleBundler.Proofs.Module.Reading
import ModuleBundler.Proofs.Bundle.Slots
import ModuleBundler.Proofs.Bundle.Loader
import ModuleBundler.Proofs.Bundle.Rendering
import ModuleBundler.Proofs.Bundle.Keys
import ModuleBundler.Proofs.Bundle.ReadingBack
import ModuleBundler.Proofs.Graph.Levels
import ModuleBundler.Proofs.Graph.Faults
import ModuleBundler.Proofs.Writing
import ModuleBundler.Proofs.Bundle.Emission
import ModuleBundler.Proofs.Module.Interop
import ModuleBundler.Proofs.Module.Pieces
import ModuleBundler.Proofs.Module.ReadOnly
import ModuleBundler.Proofs.Graph.Building
import ModuleBundler.Proofs.Graph.Runs
import ModuleBundler.Proofs.Graph.Scheduling
import ModuleBundler.Proofs.Graph.Extension
import ModuleBundler.Proofs.Script.Bindings
import ModuleBundler.Proofs.Module.Exports
import ModuleBundler.Proofs.Module.DefinedOnce
import ModuleBundler.Proofs.Module.Shape
import ModuleBundler.Proofs.Module.ClosedNames
import ModuleBundler.Proofs.Number.Rounding
import ModuleBundler.Proofs.Number.Enclosing
import ModuleBundler.Proofs.Number.Shortest
import ModuleBundler.Proofs.Number.Naturals
import ModuleBundler.Proofs.Script.PropertyNames
import ModuleBundler.Proofs.Script.Lexer.Scanning
import ModuleBundler.Proofs.Script.Lexer.Tokens
import ModuleBundler.Proofs.Script.Lexer.Number
import ModuleBundler.Proofs.Script.Lexer.Lexemes
import ModuleBundler.Proofs.Script.Lexer.Spelling
import ModuleBundler.Proofs.Script.Phrase
import ModuleBundler.Proofs.Script.Reader.Standing
import ModuleBundler.Proofs.Script.Reader.Layers
import ModuleBundler.Proofs.Script.Reader.Primary
import ModuleBundler.Proofs.Script.Reader.Phrase
import ModuleBundler.Proofs.Script.Reader.Sentence
import ModuleBundler.Proofs.Script.Printing
import ModuleBundler.Proofs.Json.Expression
import ModuleBundler.Proofs.Json.Reading
import ModuleBundler.Proofs.Module.Plain
import ModuleBundler.Proofs.Json.Finite
import ModuleBundler.Proofs.Json.Canonical
import ModuleBundler.Proofs.Json.Mirroring
import ModuleBundler.Proofs.Loading
import ModuleBundler.Proofs.Script.Evaluation
import ModuleBundler.Proofs.OwnProperties
import ModuleBundler.Proofs.Sequencing
import ModuleBundler.Proofs.Number.Integers
import ModuleBundler.Proofs.Data.Integers
import ModuleBundler.Proofs.Data.Decoding
import ModuleBundler.Proofs.Path.Pieces
import ModuleBundler.Proofs.Path.Renaming
import ModuleBundler.Proofs.FileTree.Walking
import ModuleBundler.Proofs.FileTree.LookingUp
import ModuleBundler.Proofs.Resolution
import ModuleBundler.Proofs.Text.Digest
