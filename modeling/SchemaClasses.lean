import SchemaClasses.Main
import SchemaClasses.Json.Writer
import SchemaClasses.Schema.Encoding
import SchemaClasses.Schema.Query
import SchemaClasses.Proofs.Accessors
import SchemaClasses.Proofs.Concatenation
import SchemaClasses.Proofs.Accounting
import SchemaClasses.Proofs.RecordSlots
import SchemaClasses.Proofs.SchemaDecoding
import SchemaClasses.Proofs.JsonNesting
import SchemaClasses.Proofs.JsonText
import SchemaClasses.Proofs.RoundTrip
import SchemaClasses.Proofs.Writing
import SchemaClasses.Proofs.Comparison
import SchemaClasses.Proofs.Retyping
import SchemaClasses.Proofs.LanguageParity
import SchemaClasses.Proofs.Skipping
import SchemaClasses.Proofs.Envelope
import SchemaClasses.Proofs.Session
import SchemaClasses.Proofs.FileLines
import SchemaClasses.Proofs.LineTexts
import SchemaClasses.Proofs.DefinitionNames
import SchemaClasses.Proofs.CommentRemoval
import SchemaClasses.Proofs.References
import SchemaClasses.Proofs.NameCollisions
import SchemaClasses.Proofs.BraceBalance
import SchemaClasses.Proofs.ReservedNames
import SchemaClasses.Proofs.WireNames
import SchemaClasses.Proofs.EnclosingNames
import SchemaClasses.Proofs.Indentation
import SchemaClasses.Proofs.Relevance
import SchemaClasses.Proofs.Validation
import SchemaClasses.Proofs.Rearrangement
import SchemaClasses.Proofs.MemberOrder
import SchemaClasses.Proofs.UnicodeEscapes
import SchemaClasses.Proofs.FlagReading
import SchemaClasses.Proofs.Verbosity
import SchemaClasses.Proofs.CommentFragments
import SchemaClasses.Proofs.CommentContents
import SchemaClasses.Proofs.WordCase
import SchemaClasses.Proofs.ClassNames
import SchemaClasses.Proofs.RequestHeaders
import SchemaClasses.Proofs.RemapHistories
import SchemaClasses.Proofs.OlderSpellings
import SchemaClasses.Proofs.TimeTexts
import SchemaClasses.Proofs.Capitalization
