import KbDocs.Main
import KbDocs.Proofs.Signature.Lowering
import KbDocs.Proofs.Text.Cut
import KbDocs.Proofs.Text.Words
import KbDocs.Xml.Path
import KbDocs.Proofs.Signature.Normal
import KbDocs.Proofs.Signature.Call
import KbDocs.Proofs.Signature.RoundTrip
import KbDocs.Proofs.DocComment.Tags
import KbDocs.Proofs.DocComment.Block
import KbDocs.Proofs.DocComment.RoundTrip
import KbDocs.Proofs.Export.Documentation
import KbDocs.Proofs.Export.Reconciled
import KbDocs.Proofs.Export.Provenance
import KbDocs.Proofs.Export.Tidy
import KbDocs.Proofs.Export.Directions
import KbDocs.Proofs.Site.Undocumented
import KbDocs.Proofs.Files.Tree
import KbDocs.Proofs.Page.Apart
import KbDocs.Proofs.Site.Run
import KbDocs.Proofs.Site.Kept
import KbDocs.Proofs.Files.Confined
import KbDocs.Proofs.Site.Confined
import KbDocs.Proofs.Site.Links
import KbDocs.Proofs.Extraction.Fold
import KbDocs.Proofs.Extraction.Faults
import KbDocs.Proofs.Export.FirstWins
import KbDocs.Proofs.Signature.Settled
import KbDocs.Proofs.Extraction.Records
import KbDocs.Proofs.Signature.CallText
import KbDocs.Proofs.Files.Attempts
import KbDocs.Proofs.Site.Rerun
import KbDocs.Proofs.Console.Layout
import KbDocs.Proofs.Console.Literal
import KbDocs.Proofs.CommandLine.Drawing
import KbDocs.Proofs.CommandLine.Printing
import KbDocs.Proofs.CommandLine.Screen
import KbDocs.Proofs.Xml.DocumentOrder
import KbDocs.Proofs.Signature.Variables
import KbDocs.Proofs.Signature.Enrichment
import KbDocs.Proofs.Signature.Reference
import KbDocs.Proofs.Signature.Layout
import KbDocs.Proofs.DocComment.Span
import KbDocs.Proofs.DocComment.PlainComment
import KbDocs.Proofs.DocComment.Lines
import KbDocs.Proofs.Export.Assembled
import KbDocs.Proofs.DocComment.Presence
import KbDocs.Proofs.Page.Table
import KbDocs.Proofs.Page.TableShape
import KbDocs.Proofs.Site.Failures
import KbDocs.Proofs.Site.PackageCounts
import KbDocs.Proofs.Page.Groupings
import KbDocs.Proofs.Signature.CommentLines
import KbDocs.Proofs.TypeName
import KbDocs.Proofs.Config
import KbDocs.Proofs.Export.LastProperty
import KbDocs.Proofs.Signature.NormalForm
