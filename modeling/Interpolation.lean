import Interpolation.Text.Identifier
import Interpolation.Text.Classes
import Interpolation.Text.Case
import Interpolation.Text.Utf8
import Interpolation.Text.Octets
import Interpolation.Text.Search
import Interpolation.Text.Width
import Interpolation.Number.Decimal
import Interpolation.Extraction
import Interpolation.Error.Pretty
import Interpolation.Sigil.Parser
import Interpolation.Builtin.Call
import Interpolation.Context.Overlay
import Interpolation.Resolution
import Interpolation.Splice.Sink
import Interpolation.Data
import Interpolation.Session
import Interpolation.Proofs.Run
import Interpolation.Proofs.Purity
import Interpolation.Proofs.Extraction.Bounds
import Interpolation.Proofs.Token.Layout
import Interpolation.Proofs.Token.Separation
import Interpolation.Proofs.Sigil.Grammar
import Interpolation.Proofs.Sigil.Rendering
import Interpolation.Proofs.Sigil.Reading
import Interpolation.Proofs.Sigil.Parsing
import Interpolation.Proofs.Splice.Work
import Interpolation.Proofs.Splice.Reference
import Interpolation.Proofs.Splice.Asks
import Interpolation.Proofs.Context.Operation
import Interpolation.Proofs.Context.Handles
import Interpolation.Proofs.Context.History
import Interpolation.Proofs.Extraction.Octets
import Interpolation.Proofs.Extraction.Spans
import Interpolation.Proofs.Failure
import Interpolation.Proofs.Sigil.Location
import Interpolation.Proofs.Splice.Failure
import Interpolation.Proofs.Context.Entries
import Interpolation.Proofs.Context.Journal
import Interpolation.Proofs.Context.Scopes
import Interpolation.Proofs.Sigil.Regions
import Interpolation.Proofs.Error.Drawing
import Interpolation.Proofs.Error.Places
import Interpolation.Proofs.Splice.Policy
import Interpolation.Proofs.Context.Once
import Interpolation.Proofs.Text.Search
import Interpolation.Proofs.Extraction.Restoration
import Interpolation.Proofs.Extraction.Embedding
import Interpolation.Proofs.Sigil.Correspondence
import Interpolation.Proofs.Resolution
import Interpolation.Proofs.Context.Names
import Interpolation.Proofs.Token.Cutting
import Interpolation.Proofs.Sigil.Arguments
import Interpolation.Proofs.Sigil.Replacement
import Interpolation.Proofs.Splice.Sharing
import Interpolation.Proofs.Data.Erasure
import Interpolation.Proofs.Splice.Writing
import Interpolation.Proofs.Context.Sources
import Interpolation.Proofs.Session.Refusals
import Interpolation.Proofs.Context.Keys
import Interpolation.Proofs.Sigil.Chains
import Interpolation.Proofs.Splice.Vacancy
import Interpolation.Proofs.Splice.Depth
import Interpolation.Proofs.Token.Locality
import Interpolation.Proofs.Sigil.Order
import Interpolation.Proofs.Sigil.Nesting
import Interpolation.Proofs.Number.Numeral
import Interpolation.Proofs.Builtin.Arithmetic
import Interpolation.Proofs.Splice.Pairs
import Interpolation.Proofs.Value.Equality
import Interpolation.Proofs.Builtin.Splitting
import Interpolation.Proofs.Sigil.Calls
import Interpolation.Proofs.Sigil.Indices
import Interpolation.Proofs.Sigil.Integers
