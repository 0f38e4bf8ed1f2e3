import Lexicon.Baseline
import Lexicon.Config
import Lexicon.Extended
import Lexicon.Fault
import Lexicon.Json.Bracket
import Lexicon.Json.Cause
import Lexicon.Json.Container
import Lexicon.Json.Failure
import Lexicon.Json.Literal
import Lexicon.Json.Numeral
import Lexicon.Json.Quoted
import Lexicon.Json.Reader
import Lexicon.Json.Scalar
import Lexicon.Json.Skip
import Lexicon.Keyword.Classify
import Lexicon.Keyword.Script
import Lexicon.Keyword.Table
import Lexicon.Log
import Lexicon.Number.Decimal
import Lexicon.Number.Double
import Lexicon.Number.Ratio
import Lexicon.Number.Scaled
import Lexicon.Number.Shortest
import Lexicon.Proofs.Config.Format
import Lexicon.Proofs.Config.Sources
import Lexicon.Proofs.Json.Containers
import Lexicon.Proofs.Json.Contents
import Lexicon.Proofs.Json.Fields
import Lexicon.Proofs.Json.Grammar
import Lexicon.Proofs.Json.Literals
import Lexicon.Proofs.Json.Numerals
import Lexicon.Proofs.Json.Recognition
import Lexicon.Proofs.Json.Restriction
import Lexicon.Proofs.Json.Skipping
import Lexicon.Proofs.Json.Writing
import Lexicon.Proofs.Keyword.Answers
import Lexicon.Proofs.Keyword.Appending
import Lexicon.Proofs.Keyword.Building
import Lexicon.Proofs.Keyword.Checking
import Lexicon.Proofs.Keyword.Classification
import Lexicon.Proofs.Keyword.FixedLists
import Lexicon.Proofs.Keyword.Rebuilding
import Lexicon.Proofs.Keyword.SideBySide
import Lexicon.Proofs.Keyword.Tokens
import Lexicon.Proofs.Keyword.Widening
import Lexicon.Proofs.Log.Lines
import Lexicon.Proofs.Log.Programs
import Lexicon.Proofs.Log.Records
import Lexicon.Proofs.Log.Reports
import Lexicon.Proofs.Text.ByteOrder
import Lexicon.Proofs.Text.Lines
import Lexicon.Proofs.Text.Quoting
import Lexicon.Proofs.Text.Trimming
import Lexicon.Proofs.Text.Wording
import Lexicon.Proofs.Token.Format
import Lexicon.Proofs.Token.Moving
import Lexicon.Proofs.Token.Narrowing
import Lexicon.Proofs.Token.RoundTrip
import Lexicon.Proofs.Token.Texts
import Lexicon.Proofs.Token.WellFormed
import Lexicon.Proofs.Vocabulary.Labels
import Lexicon.Proofs.Vocabulary.Messages
import Lexicon.Proofs.Vocabulary.Names
import Lexicon.Recipe
import Lexicon.Script
import Lexicon.Session
import Lexicon.Taxonomy
import Lexicon.Text.Blank
import Lexicon.Text.GraphemeExtend
import Lexicon.Text.Quoted
import Lexicon.Text.Ranges
import Lexicon.Text.Unprintable
import Lexicon.Token
import Lexicon.Traced
import Lexicon.Version
import Lexicon.VocabularyError
import Lexicon.Widening
