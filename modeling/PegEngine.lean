import PegEngine.Catalogue
import PegEngine.CharClass
import PegEngine.Code
import PegEngine.Diagnostic
import PegEngine.Evaluation.Depth
import PegEngine.Evaluation.Expression
import PegEngine.Evaluation.Log
import PegEngine.Evaluation.Matching
import PegEngine.Evaluation.Parse
import PegEngine.Evaluation.Source
import PegEngine.Evaluation.State
import PegEngine.Expectations
import PegEngine.Grammar.Expr
import PegEngine.Grammar.Outline
import PegEngine.Grammar.Rendering
import PegEngine.Grammar.Rules
import PegEngine.Grammars.Arithmetic
import PegEngine.Grammars.Sample
import PegEngine.Memo
import PegEngine.Options
import PegEngine.Position
import PegEngine.Scopes
import PegEngine.Store
import PegEngine.Text.CodePoint
import PegEngine.Text.Listing
import PegEngine.Text.Numeral
import PegEngine.Text.Quoted
import PegEngine.Text.Record
import PegEngine.Text.Replacement
import PegEngine.Unicode.Alphabetic
import PegEngine.Unicode.CaseShift
import PegEngine.Unicode.Category
import PegEngine.Unicode.GraphemeExtend
import PegEngine.Unicode.LowercaseLetters
import PegEngine.Unicode.Numeric
import PegEngine.Unicode.RangeMap
import PegEngine.Unicode.Unprintable
import PegEngine.Unicode.UppercaseLetters
import PegEngine.Unicode.Whitespace
import PegEngine.Value
import PegEngine.Proofs.Boundaries
import PegEngine.Proofs.Outcomes
import PegEngine.Proofs.Places
import PegEngine.Proofs.Spans
import PegEngine.Proofs.Matchers
import PegEngine.Proofs.Discipline
import PegEngine.Proofs.Combinators
import PegEngine.Proofs.Changes
import PegEngine.Proofs.LeftRecursion
import PegEngine.Proofs.Parses
import PegEngine.Proofs.Termination
import PegEngine.Proofs.Visits
import PegEngine.Proofs.Frames
import PegEngine.Proofs.Yield
import PegEngine.Proofs.Ceiling
import PegEngine.Proofs.Cutoff
import PegEngine.Proofs.Readings
import PegEngine.Proofs.Adequacy
import PegEngine.Proofs.Pairing
import PegEngine.Proofs.Attribution
import PegEngine.Proofs.ByteOrder
import PegEngine.Proofs.Records
import PegEngine.Proofs.Attempts
import PegEngine.Proofs.Abreast
import PegEngine.Proofs.Replay
import PegEngine.Proofs.Memoization
import PegEngine.Proofs.Farthest
import PegEngine.Proofs.Validation
import PegEngine.Proofs.Faults
import PegEngine.Proofs.Cursors
import PegEngine.Proofs.Sightings
import PegEngine.Proofs.Malformed
import PegEngine.Proofs.Nodes
import PegEngine.Proofs.Attained
import PegEngine.Proofs.Freshness
import PegEngine.Proofs.Linear
import PegEngine.Proofs.Stances
import PegEngine.Proofs.Alignment
import PegEngine.Proofs.Complaints
import PegEngine.Proofs.Calls
import PegEngine.Proofs.Completions
import PegEngine.Proofs.Decoding
import PegEngine.Proofs.Integrity
import PegEngine.Proofs.Exactness
import PegEngine.Proofs.Passages
import PegEngine.Proofs.ArithmeticTrees
import PegEngine.Proofs.Evaluator
import PegEngine.Proofs.Scanners
import PegEngine.Proofs.SampleScanner
import PegEngine.Proofs.Tokenizer
import PegEngine.Proofs.RoundTrip
import PegEngine.Proofs.Moments
import PegEngine.Proofs.Footing
import PegEngine.Proofs.FailurePlaces
import PegEngine.Proofs.Recognition
import PegEngine.Proofs.Legibility
import PegEngine.Proofs.Lexemes
import PegEngine.Proofs.Rereading
import PegEngine.Proofs.Faithfulness
import PegEngine.Proofs.Reversal
import PegEngine.Proofs.Transcripts
import PegEngine.Proofs.Likeness
import PegEngine.Proofs.Echoes
import PegEngine.Proofs.Agreement
import PegEngine.Proofs.DoubleNegation
import PegEngine.Proofs.Tracing
import PegEngine.Proofs.Provenance
import PegEngine.Proofs.Lowering
import PegEngine.Proofs.Captions
import PegEngine.Proofs.CaseSteps
import PegEngine.Proofs.IgnoringCase
import PegEngine.Proofs.TokenTexts
import PegEngine.Proofs.Recycling
import PegEngine.Proofs.History
import PegEngine.Proofs.References
import PegEngine.Proofs.Nesting
