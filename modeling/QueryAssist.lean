import QueryAssist.Assistant
import QueryAssist.Proofs.Diagnostic.Tracker
import QueryAssist.Proofs.Diagnostic.Updates
import QueryAssist.Proofs.Line.Literal
import QueryAssist.Proofs.Text.Lines
import QueryAssist.Proofs.Document.Cut
import QueryAssist.Proofs.Document.Layout
import QueryAssist.Proofs.Pattern.Search
import QueryAssist.Proofs.Text.Word
import QueryAssist.Proofs.Diagnostic.Names
import QueryAssist.Proofs.Diagnostic.Scan
import QueryAssist.Proofs.Diagnostic.Layout
import QueryAssist.Proofs.Completion.Offer
import QueryAssist.Proofs.Pattern.Capture
import QueryAssist.Proofs.Document.Parenthesis
import QueryAssist.Proofs.Document.TableScope
import QueryAssist.Proofs.Diagnostic.History
import QueryAssist.Proofs.Hover.Session
import QueryAssist.Proofs.Hover.Log
import QueryAssist.Proofs.Hover.Card
import QueryAssist.Proofs.Hover.Freshness
import QueryAssist.Proofs.Document.Call
import QueryAssist.Proofs.Document.Pipe
import QueryAssist.Proofs.Text.Returns
import QueryAssist.Proofs.Document.Returns
import QueryAssist.Proofs.Diagnostic.Flags
import QueryAssist.Proofs.Catalog.Normalized
import QueryAssist.Proofs.Completion.Accepted
import QueryAssist.Proofs.StableSort
import QueryAssist.Proofs.SortedMap
import QueryAssist.Proofs.Document.Content
import QueryAssist.Proofs.Diagnostic.Lines
import QueryAssist.Proofs.Diagnostic.Unknown
import QueryAssist.Proofs.Json.Reader
import QueryAssist.Proofs.Json.Decoder
import QueryAssist.Proofs.Catalog.RoundTrip
import QueryAssist.Proofs.Spelling.Distance
import QueryAssist.Proofs.Diagnostic.Documents
import QueryAssist.Proofs.Line.Name
import QueryAssist.Proofs.Line.Token
import QueryAssist.Proofs.Spelling.Suggest
import QueryAssist.Proofs.Pattern.Reading
import QueryAssist.Proofs.Pattern.LineEnd
import QueryAssist.Proofs.Line.Context
import QueryAssist.Proofs.Document.Locality
import QueryAssist.Proofs.Document.Position
import QueryAssist.Proofs.Document.CallName
import QueryAssist.Proofs.Diagnostic.Masked
import QueryAssist.Proofs.Diagnostic.Ranges
import QueryAssist.Proofs.Text.LetterCase
import QueryAssist.Proofs.Catalog.NormalForm
import QueryAssist.Proofs.Catalog.ResourceTypes
import QueryAssist.Proofs.Completion.Narrowing
import QueryAssist.Proofs.Pattern.TrailingRun
import QueryAssist.Proofs.Line.PartialWord
import QueryAssist.Proofs.Line.Parts
import QueryAssist.Proofs.Line.Masking
