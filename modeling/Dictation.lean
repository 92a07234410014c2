import Dictation.Cue
import Dictation.Segmentation
import Dictation.Unicode.FoldTable
import Dictation.Unicode.WordBreakTable
import Dictation.Vocabulary.BuiltIn
import Dictation.Vocabulary.Compiled
import Dictation.Vocabulary.Layered
import Dictation.Message
import Dictation.Source.Lexeme
import Dictation.Source.Lexer
import Dictation.Text.WordBounds
import Dictation.Files.Path
import Dictation.Source.Document
import Dictation.Pattern.Assertion
import Dictation.Pattern.Node
import Dictation.Pattern.Search
import Dictation.Pattern.Class
import Dictation.Pattern.Parse
import Dictation.Interpret.Command
import Dictation.Interpret.Interpreter
import Dictation.Interpret.RecordFormat
import Dictation.Json.Parser
import Dictation.Report
import Dictation.Failure
import Dictation.Files.Disk
import Dictation.Vocabulary.Store
import Dictation.Toml.Parser
import Dictation.Settings
import Dictation.Settings.Sources
import Dictation.Files.Glob
import Dictation.Files.Glob.Parse
import Dictation.Files.IgnoreRules
import Dictation.Files.Inputs
import Dictation.CommandLine.Options
import Dictation.CommandLine.Request
import Dictation.CommandLine.Run
import Dictation.Main
import Dictation.Proofs.Segmentation.Memo
import Dictation.Proofs.Segmentation.Partition
import Dictation.Proofs.Rewrite.OperatorRoundTrip
import Dictation.Proofs.Source.Coverage
import Dictation.Proofs.Interpret.NumeralRoundTrip
import Dictation.Proofs.Segmentation.Answering
import Dictation.Proofs.Source.Layout
import Dictation.Proofs.Source.Spoken
import Dictation.Proofs.Source.Statements
import Dictation.Proofs.Interpret.IdentifierRoundTrip
import Dictation.Proofs.Interpret.RunTogether
import Dictation.Proofs.Token.Grouping
import Dictation.Proofs.Source.Names
import Dictation.Proofs.Text.LetterCase
import Dictation.Proofs.Text.Utf8
import Dictation.Proofs.Source.Failures
import Dictation.Proofs.Vocabulary.CompiledFile
import Dictation.Proofs.Vocabulary.Agreement
import Dictation.Proofs.Files.Tasks
import Dictation.Proofs.Settings.Priority
import Dictation.Proofs.Source.OpenStatement
import Dictation.Proofs.Token.Boundaries
import Dictation.Proofs.Interpret.Extraction
import Dictation.Proofs.Text.Order
import Dictation.Proofs.Segmentation.Interleaving
import Dictation.Proofs.Files.PathOrder
import Dictation.Proofs.CommandLine.Batch
import Dictation.Proofs.Source.IdentifierScan
import Dictation.Proofs.Rewrite.SpelledOut
import Dictation.Proofs.Interpret.Verbatim
import Dictation.Proofs.Source.StringEnds
import Dictation.Proofs.Source.StringBodies
import Dictation.Proofs.Operator.LongestMatch
import Dictation.Proofs.Operator.Alternation
import Dictation.Proofs.Operator.Recovery
import Dictation.Proofs.Segmentation.Choice
import Dictation.Proofs.Segmentation.Completeness
import Dictation.Proofs.Segmentation.FixedPoints
import Dictation.Proofs.Segmentation.CaseBlind
import Dictation.Proofs.Source.LineEnds
import Dictation.Proofs.Source.InsertedLines
import Dictation.Proofs.Vocabulary.ReadBack
import Dictation.Proofs.Token.Origins
import Dictation.Proofs.Token.SingleWords
import Dictation.Proofs.Vocabulary.Layers
import Dictation.Proofs.Vocabulary.Imports
import Dictation.Proofs.Source.ProseLines
import Dictation.Proofs.Interpret.Contexts
import Dictation.Proofs.Interpret.Spans
import Dictation.Proofs.Vocabulary.WrittenListing
import Dictation.Proofs.Token.CaseWords
