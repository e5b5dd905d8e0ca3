import MarkupRules.Main
import MarkupRules.Validation.FailureReader
import MarkupRules.Proofs.Validation.Visits
import MarkupRules.Proofs.Validation.Refinement
import MarkupRules.Proofs.Markup.Element
import MarkupRules.Proofs.Markup.Scan
import MarkupRules.Proofs.Except
import MarkupRules.Proofs.Markup.Attribute
import MarkupRules.Proofs.Markup.DataTree
import MarkupRules.Proofs.Schema.Model
import MarkupRules.Proofs.Validation.Elements
import MarkupRules.Proofs.Validation.TypedText
import MarkupRules.Proofs.Validation.Occurrences
import MarkupRules.Proofs.Validation.OccurrencePaths
import MarkupRules.Proofs.Text.Blank
import MarkupRules.Proofs.Markup.Nesting
import MarkupRules.Proofs.Schema.Refusal
import MarkupRules.Proofs.Validation.Readers
import MarkupRules.Proofs.Markup.Token
import MarkupRules.Proofs.Markup.Reading
import MarkupRules.Proofs.Markup.Name
import MarkupRules.Proofs.Markup.TagLanguage
import MarkupRules.Proofs.Markup.Escape
import MarkupRules.Proofs.Markup.StartTag
import MarkupRules.Proofs.Markup.Canonical
import MarkupRules.Proofs.Markup.Rendering
import MarkupRules.Proofs.Markup.RoundTrip
import MarkupRules.Proofs.Markup.Places
import MarkupRules.Proofs.Schema.Mirror
import MarkupRules.Proofs.Schema.Walk
import MarkupRules.Proofs.Schema.Soundness
import MarkupRules.Proofs.Schema.Verdict
import MarkupRules.Proofs.Validation.UndeclaredData
import MarkupRules.Proofs.Markup.Keys
import MarkupRules.Proofs.Validation.Follow
import MarkupRules.Proofs.Validation.Report
import MarkupRules.Proofs.Validation.Truthful
import MarkupRules.Proofs.Validation.WalkOrder
import MarkupRules.Proofs.Validation.Coverage
import MarkupRules.Proofs.Validation.CustomChecks
import MarkupRules.Proofs.Validation.UnknownTags
import MarkupRules.Proofs.Reordered
import MarkupRules.Proofs.Markup.Splice
import MarkupRules.Proofs.Markup.Outline
import MarkupRules.Proofs.Markup.Rearranged
import MarkupRules.Proofs.Markup.Siblings
import MarkupRules.Proofs.Schema.Rearranged
import MarkupRules.Proofs.Validation.SiblingOrder
import MarkupRules.Proofs.Markup.Depth
import MarkupRules.Proofs.Validation.DocumentTree
import MarkupRules.Proofs.Cli.Run
import MarkupRules.Proofs.Validation.DroppedBound
import MarkupRules.Proofs.Json.ReadBack
import MarkupRules.Proofs.Validation.FailureRecord
import MarkupRules.Proofs.Markup.TagLines
import MarkupRules.Proofs.Markup.Line
import MarkupRules.Proofs.Markup.DepthLimit
import MarkupRules.Proofs.Markup.AttributeModes
import MarkupRules.Proofs.Markup.LeadingBlanks
import MarkupRules.Proofs.Markup.Turn
import MarkupRules.Proofs.Calendar.Remainder
import MarkupRules.Proofs.Calendar.NumericDate
import MarkupRules.Proofs.Pattern.Matches
import MarkupRules.Proofs.Pattern.Word
import MarkupRules.Proofs.Markup.Spelling
import MarkupRules.Proofs.Markup.TagReplaced
import MarkupRules.Proofs.Schema.Draft
import MarkupRules.Proofs.Schema.View
import MarkupRules.Proofs.Schema.PatternSpelling
import MarkupRules.Proofs.Validation.ReplacedTags
import MarkupRules.Proofs.Validation.AttributeOrder
import MarkupRules.Proofs.Validation.RespelledPattern
import MarkupRules.Proofs.Number.Rounding
import MarkupRules.Proofs.Number.Numeral
import MarkupRules.Proofs.Number.RadixNumeral
import MarkupRules.Proofs.Number.WholeNumber
import MarkupRules.Proofs.Validation.IntegerLeaf
import MarkupRules.Proofs.Calendar.ClockTime
import MarkupRules.Proofs.Cli.Size
import MarkupRules.Proofs.Markup.ReportedLines
import MarkupRules.Proofs.Cli.SchemaRefusal
import MarkupRules.Proofs.Schema.Description
import MarkupRules.Proofs.Cli.RuleListing
