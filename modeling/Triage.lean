import Triage.Classification.Classifier
import Triage.Command.Arguments
import Triage.Command.Options
import Triage.Command.Run
import Triage.Counter.Basic
import Triage.Counter.Series
import Triage.Fault.Basic
import Triage.Fault.Build
import Triage.Fault.Class
import Triage.Fault.Label
import Triage.Fault.Origin
import Triage.Files.Tree
import Triage.Json.Printer
import Triage.Json.Reader
import Triage.Log.Book
import Triage.Log.Context
import Triage.Log.Level
import Triage.Log.Output
import Triage.Main
import Triage.Number.Binary64
import Triage.Observer.Action
import Triage.Observer.Basic
import Triage.Observer.Failure
import Triage.Pattern.Basic
import Triage.Pattern.Error
import Triage.Pattern.Fold
import Triage.Pattern.Match
import Triage.Pattern.Node
import Triage.Pattern.Parser
import Triage.Pattern.Program
import Triage.Pattern.Token
import Triage.Proofs.Classification.Decision
import Triage.Proofs.Classification.FirstMatch
import Triage.Proofs.Command.Validity
import Triage.Proofs.Fault.Label
import Triage.Proofs.Fault.Walk
import Triage.Proofs.Observer.Agreement
import Triage.Proofs.Observer.Answer
import Triage.Proofs.Observer.Attempt
import Triage.Proofs.Observer.Category
import Triage.Proofs.Observer.DepthLimit
import Triage.Proofs.Observer.Effect
import Triage.Proofs.Observer.Insertion
import Triage.Proofs.Observer.Loading
import Triage.Proofs.Observer.Recording
import Triage.Proofs.Observer.Run
import Triage.Proofs.Observer.Surfacing
import Triage.Proofs.Observer.Totality
import Triage.Proofs.Taxonomy.Compilation
import Triage.Proofs.Taxonomy.Grammar
import Triage.Proofs.Taxonomy.Refusal
import Triage.Proofs.Validation.Acceptance
import Triage.Proofs.Validation.Escape
import Triage.Settings.Basic
import Triage.Settings.EnvironmentFile
import Triage.Settings.Scalar
import Triage.Taxonomy.Basic
import Triage.Taxonomy.Document
import Triage.Taxonomy.Matching
import Triage.Taxonomy.Reading
import Triage.Taxonomy.Standard
import Triage.Text.Alphanumeric
import Triage.Text.Base64
import Triage.Text.Blank
import Triage.Text.CaseMap
import Triage.Text.CharacterName
import Triage.Text.CharacterName.Abugidas
import Triage.Text.CharacterName.Alphabets
import Triage.Text.CharacterName.Ancient
import Triage.Text.CharacterName.Notations
import Triage.Text.CharacterName.Pictographs
import Triage.Text.CharacterName.Row
import Triage.Text.CharacterName.Signs
import Triage.Text.CharacterName.Syllabaries
import Triage.Text.CodeRanges
import Triage.Text.Decoding
import Triage.Text.Digit
import Triage.Text.Identifier
import Triage.Text.Integer
import Triage.Text.Printable
import Triage.Text.Quoted
import Triage.Text.Raw
import Triage.Validation.Checked
import Triage.Validation.Field
import Triage.Validation.Issue
import Triage.Value.Basic
import Triage.Yaml.Construction
import Triage.Yaml.Error
import Triage.Yaml.Mark
import Triage.Yaml.Node
import Triage.Yaml.Scalar
import Triage.Yaml.Source
import Triage.Yaml.Tag
import Triage.Yaml.Token.Basic
import Triage.Yaml.Token.Scalar
import Triage.Yaml.Token.Stream
import Triage.Yaml.Token.Tag
import Triage.Proofs.Observer.LogContext
import Triage.Proofs.Observer.UnknownCategory
import Triage.Proofs.Counter.Samples
import Triage.Proofs.Observer.Order
import Triage.Proofs.Classification.Grouping
import Triage.Proofs.Observer.Uncategorised
import Triage.Proofs.Text.UpperCase
import Triage.Proofs.Fault.LabelSteps
import Triage.Proofs.Taxonomy.UnknownKey
import Triage.Proofs.Classification.LetterCase
import Triage.Proofs.Taxonomy.JsonText
import Triage.Proofs.Taxonomy.RoundTrip
import Triage.Proofs.Counter.Meter
import Triage.Proofs.Fault.CamelCase
import Triage.Proofs.Fault.Endings
import Triage.Proofs.Observer.EmptySource
import Triage.Proofs.Observer.OneLine
import Triage.Proofs.Observer.Restoring
import Triage.Proofs.Text.Trim
import Triage.Proofs.Settings.Overrides
import Triage.Proofs.Settings.Variables
import Triage.Proofs.Command.Flags
import Triage.Proofs.Command.Precedence
import Triage.Proofs.Number.Nearest
import Triage.Proofs.Text.Digits
import Triage.Proofs.Settings.Spelling
import Triage.Proofs.Yaml.NumberForm
import Triage.Proofs.Yaml.PlainLine
import Triage.Proofs.Yaml.BlockLine
import Triage.Proofs.Yaml.LineDocument
import Triage.Proofs.Yaml.SpelledNumber
import Triage.Proofs.Settings.LimitLine
import Triage.Proofs.Text.Boundary
import Triage.Proofs.Fault.CamelWords
import Triage.Proofs.Observer.Wiring
import Triage.Proofs.Command.Relay
import Triage.Proofs.Log.Reconfiguration
import Triage.Proofs.Text.Capital
import Triage.Proofs.Fault.NormalLabel
import Triage.Proofs.Observer.Relabelling
