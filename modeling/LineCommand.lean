import LineCommand.Catalog.Basic
import LineCommand.Catalog.Dispatch
import LineCommand.Console.Arguments
import LineCommand.Console.Basic
import LineCommand.Console.Help
import LineCommand.Console.Interface
import LineCommand.Console.Log
import LineCommand.Console.Request
import LineCommand.Conversion.Basic
import LineCommand.Conversion.Collection
import LineCommand.Conversion.Lookup
import LineCommand.Conversion.Object
import LineCommand.Conversion.Primitive
import LineCommand.Dispatch.Command
import LineCommand.Dispatch.Formatting
import LineCommand.Dispatch.Group
import LineCommand.Dispatch.Processor
import LineCommand.Dispatch.Target
import LineCommand.Fault
import LineCommand.Field
import LineCommand.Grammar.Assembly
import LineCommand.Grammar.Basic
import LineCommand.Journal
import LineCommand.Main
import LineCommand.Moment
import LineCommand.Name
import LineCommand.Number.Decimal
import LineCommand.Number.Double
import LineCommand.Number.Integer
import LineCommand.Number.Shortest
import LineCommand.Outcome.Basic
import LineCommand.Outcome.Kind
import LineCommand.Path
import LineCommand.Pattern.Basic
import LineCommand.Pattern.CharSet
import LineCommand.Pattern.Complaint
import LineCommand.Pattern.Matching
import LineCommand.Pattern.Reading
import LineCommand.Pattern.Token
import LineCommand.Settings.Basic
import LineCommand.Settings.Ini
import LineCommand.Settings.Report
import LineCommand.Template
import LineCommand.Text.Blank
import LineCommand.Text.Case
import LineCommand.Text.CaseMap
import LineCommand.Text.Cased
import LineCommand.Text.CharacterName
import LineCommand.Text.CharacterName.Alphabet
import LineCommand.Text.CharacterName.Basic
import LineCommand.Text.CharacterName.Latin
import LineCommand.Text.CharacterName.Picture
import LineCommand.Text.CharacterName.Punctuation
import LineCommand.Text.CharacterName.Syllable
import LineCommand.Text.CharacterName.Symbol
import LineCommand.Text.Fill
import LineCommand.Text.Identifier
import LineCommand.Text.Letter
import LineCommand.Text.Lines
import LineCommand.Text.Numeral
import LineCommand.Text.Printable
import LineCommand.Text.Quoted
import LineCommand.Text.Ranges
import LineCommand.Text.Word
import LineCommand.Value.Basic
import LineCommand.Value.Json
import LineCommand.Value.Written
import LineCommand.Yaml.Basic
import LineCommand.Yaml.Binary
import LineCommand.Yaml.Mark
import LineCommand.Yaml.Node
import LineCommand.Yaml.Scalar
import LineCommand.Yaml.Source
import LineCommand.Yaml.Tag
import LineCommand.Yaml.Token
import LineCommand.Yaml.Tokens
import LineCommand.Proofs.Dispatch.Evaluation
import LineCommand.Proofs.Dispatch.Policy
import LineCommand.Proofs.Dispatch.Precedence
import LineCommand.Proofs.Grammar.Declarations
import LineCommand.Proofs.Grammar.Reading
import LineCommand.Proofs.Grammar.Words
import LineCommand.Proofs.Dispatch.Phases
import LineCommand.Proofs.Dispatch.Answering
import LineCommand.Proofs.Pattern.Nesting
import LineCommand.Proofs.Pattern.Participation
import LineCommand.Proofs.Grammar.Blocks
import LineCommand.Proofs.Pattern.Reach
import LineCommand.Proofs.Grammar.Tame
import LineCommand.Proofs.Grammar.Optional
import LineCommand.Proofs.Dispatch.Filtering
import LineCommand.Proofs.Dispatch.Restraint
import LineCommand.Proofs.Catalog.Dispatchable
import LineCommand.Proofs.Pattern.Branches
import LineCommand.Proofs.Pattern.Standing
import LineCommand.Proofs.Grammar.Required
import LineCommand.Proofs.Dispatch.Unmatched
import LineCommand.Proofs.Dispatch.Ordering
import LineCommand.Proofs.Grammar.Leading
import LineCommand.Proofs.Dispatch.Gate
import LineCommand.Proofs.Catalog.Entries
import LineCommand.Proofs.Catalog.Examples
import LineCommand.Proofs.Catalog.Dispatching
import LineCommand.Proofs.Dispatch.Kinds
import LineCommand.Proofs.Grammar.Anchoring
import LineCommand.Proofs.Naming.Registering
import LineCommand.Proofs.Catalog.Answering
import LineCommand.Proofs.Console.Endings
import LineCommand.Proofs.Pattern.Excerpt
import LineCommand.Proofs.Grammar.Layout
import LineCommand.Proofs.Grammar.Meaning
import LineCommand.Proofs.Grammar.Separation
import LineCommand.Proofs.Grammar.RoundTrip
import LineCommand.Proofs.Catalog.Compiling
import LineCommand.Proofs.Dispatch.Omission
import LineCommand.Proofs.Dispatch.Rewording
import LineCommand.Proofs.Grammar.Padding
import LineCommand.Proofs.Grammar.Sources
import LineCommand.Proofs.Grammar.Leniency
import LineCommand.Proofs.Console.Showing
import LineCommand.Proofs.Text.Case
import LineCommand.Proofs.Catalog.Lookup
import LineCommand.Proofs.Grammar.Verbatim
import LineCommand.Proofs.Value.Dictionary
import LineCommand.Proofs.Grammar.Apartness
import LineCommand.Proofs.Conversion.Object
import LineCommand.Proofs.Grammar.Spelling
import LineCommand.Proofs.Value.Describing
import LineCommand.Proofs.Conversion.Settling
import LineCommand.Proofs.Conversion.Composition
import LineCommand.Proofs.Number.Integer
import LineCommand.Proofs.Conversion.Leniency
import LineCommand.Proofs.Conversion.Optionality
import LineCommand.Proofs.Number.Order
import LineCommand.Proofs.Conversion.Lookup
import LineCommand.Proofs.Naming.Loading
import LineCommand.Proofs.Dispatch.LeadWord
import LineCommand.Proofs.Settings.References
import LineCommand.Proofs.Settings.Layers
import LineCommand.Proofs.Settings.Recognition
import LineCommand.Proofs.Number.Rounding
import LineCommand.Proofs.Number.Decimal
import LineCommand.Proofs.Conversion.Number
import LineCommand.Proofs.Grammar.Reference
import LineCommand.Proofs.Naming.Views
import LineCommand.Proofs.Text.CaseMap
import LineCommand.Proofs.Text.Lowering
import LineCommand.Proofs.Text.Raising
import LineCommand.Proofs.Naming.Normalizing
