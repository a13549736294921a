import JsonTemplate.Binary64
import JsonTemplate.CommandLine.Arguments
import JsonTemplate.CommandLine.Run
import JsonTemplate.Function
import JsonTemplate.Json.Fault
import JsonTemplate.Json.Printer
import JsonTemplate.Json.Reader
import JsonTemplate.Json.Value
import JsonTemplate.Main
import JsonTemplate.Notice
import JsonTemplate.Options
import JsonTemplate.Path
import JsonTemplate.Placeholder
import JsonTemplate.Proofs.CommandLine.Endings
import JsonTemplate.Proofs.CommandLine.Parts
import JsonTemplate.Proofs.CommandLine.Strictness
import JsonTemplate.Proofs.Function.Calls
import JsonTemplate.Proofs.Function.Escaping
import JsonTemplate.Proofs.Function.Handles
import JsonTemplate.Proofs.Function.JsonText
import JsonTemplate.Proofs.Json.Addresses
import JsonTemplate.Proofs.Json.Readable
import JsonTemplate.Proofs.Json.RoundTrip
import JsonTemplate.Proofs.Json.Scalars
import JsonTemplate.Proofs.Json.Texts
import JsonTemplate.Proofs.Notice
import JsonTemplate.Proofs.Path.Alphabet
import JsonTemplate.Proofs.Path.Brackets
import JsonTemplate.Proofs.Path.Canonical
import JsonTemplate.Proofs.Path.Splitting
import JsonTemplate.Proofs.Placeholder.Assembly
import JsonTemplate.Proofs.Placeholder.Decoding
import JsonTemplate.Proofs.Placeholder.Segments
import JsonTemplate.Proofs.Records
import JsonTemplate.Proofs.Results
import JsonTemplate.Proofs.Session
import JsonTemplate.Proofs.Template.Filling
import JsonTemplate.Proofs.Template.MissingFunctions
import JsonTemplate.Proofs.Template.ReplaceAll
import JsonTemplate.Proofs.Template.Rewriting
import JsonTemplate.Proofs.Template.SinglePass
import JsonTemplate.Proofs.Template.Verdict
import JsonTemplate.Proofs.Template.Visibility
import JsonTemplate.Proofs.Text.Cuts
import JsonTemplate.Proofs.Text.Entities
import JsonTemplate.Proofs.Text.FirstAppearances
import JsonTemplate.Proofs.Text.Utf8
import JsonTemplate.Proofs.Walk.Addresses
import JsonTemplate.Proofs.Walk.Composition
import JsonTemplate.Proofs.Walk.Notices
import JsonTemplate.Renderer
import JsonTemplate.Reported
import JsonTemplate.Results
import JsonTemplate.Template
import JsonTemplate.Text.Basic
import JsonTemplate.Text.CaseTable
import JsonTemplate.Text.Characters
import JsonTemplate.Text.Replace
import JsonTemplate.Text.UnprintableTable
import JsonTemplate.Walk
