import AtomicCss.Main
import AtomicCss.Markup.Admission
import AtomicCss.Pass.Session
import AtomicCss.Response.Exchange
import AtomicCss.Response.Wrapper
import AtomicCss.Proofs.OrderedMap
import AtomicCss.Proofs.Text.Trim
import AtomicCss.Proofs.Text.Repertoire
import AtomicCss.Proofs.Text.Occurrences
import AtomicCss.Proofs.Style.Segments
import AtomicCss.Proofs.Style.Grammar
import AtomicCss.Proofs.Style.Braces
import AtomicCss.Proofs.Style.Malformed
import AtomicCss.Proofs.Style.FirstNotice
import AtomicCss.Proofs.Style.Sequence
import AtomicCss.Proofs.Style.Layout
import AtomicCss.Proofs.Style.Parts
import AtomicCss.Proofs.Style.RoundTrip
import AtomicCss.Proofs.Style.Characters
import AtomicCss.Proofs.Rule.Atoms
import AtomicCss.Proofs.Rule.ClassNames
import AtomicCss.Proofs.Rule.Kinds
import AtomicCss.Proofs.Sheet.Grouped
import AtomicCss.Proofs.Sheet.History
import AtomicCss.Proofs.Sheet.Order
import AtomicCss.Proofs.Sheet.ReadBack
import AtomicCss.Proofs.Sheet.Escapes
import AtomicCss.Proofs.Sheet.Placeholder
import AtomicCss.Proofs.Sheet.Permuted
import AtomicCss.Proofs.Sheet.Renamed
import AtomicCss.Proofs.Restyle.Rules
import AtomicCss.Proofs.Restyle.Characters
import AtomicCss.Proofs.Restyle.Run
import AtomicCss.Proofs.Restyle.Ownership
import AtomicCss.Proofs.Restyle.Traversal
import AtomicCss.Proofs.Restyle.XmlTexts
import AtomicCss.Proofs.Restyle.Agreement
import AtomicCss.Proofs.Restyle.FirstFault
import AtomicCss.Proofs.Restyle.Plain
import AtomicCss.Proofs.Restyle.Refused
import AtomicCss.Proofs.Restyle.Layout
import AtomicCss.Proofs.Restyle.Residual
import AtomicCss.Proofs.Restyle.Permuted
import AtomicCss.Proofs.Markup.Remainder
import AtomicCss.Proofs.Markup.Steps
import AtomicCss.Proofs.Markup.Elements
import AtomicCss.Proofs.Markup.Skeleton
import AtomicCss.Proofs.Markup.Attributes
import AtomicCss.Proofs.Markup.References
import AtomicCss.Proofs.Markup.Tokens
import AtomicCss.Proofs.Markup.Trees
import AtomicCss.Proofs.Markup.Printed
import AtomicCss.Proofs.Markup.Written
import AtomicCss.Proofs.Markup.StyleBlock
import AtomicCss.Proofs.Markup.Plain
import AtomicCss.Proofs.Markup.ReadTags
import AtomicCss.Proofs.Markup.Scanned
import AtomicCss.Proofs.Markup.Built
import AtomicCss.Proofs.Markup.ReadBack
import AtomicCss.Proofs.Pass.Unmentioned
import AtomicCss.Proofs.Pass.Render
import AtomicCss.Proofs.Pass.Emptied
import AtomicCss.Proofs.Pass.ReadBack
import AtomicCss.Proofs.Pass.Characters
import AtomicCss.Proofs.Pass.History
import AtomicCss.Proofs.Pass.Flushed
import AtomicCss.Proofs.Pass.Nested
import AtomicCss.Proofs.Pass.Isolated
import AtomicCss.Proofs.Pass.Untouched
import AtomicCss.Proofs.Pass.Block
import AtomicCss.Proofs.Charset.Exact
import AtomicCss.Proofs.Response.Collected
import AtomicCss.Proofs.Response.Encodable
import AtomicCss.Proofs.Response.Forwarded
import AtomicCss.Proofs.Response.Framed
import AtomicCss.Proofs.Response.Headers
import AtomicCss.Proofs.Response.Order
import AtomicCss.Proofs.Response.Unchanged
import AtomicCss.Proofs.ClassToken
import AtomicCss.Proofs.CommandLine.Unmarked
import AtomicCss.Proofs.CommandLine.Shown
import AtomicCss.Proofs.CommandLine.Written
