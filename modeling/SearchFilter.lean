import SearchFilter.Calendar.Reading
import SearchFilter.Failure.Report
import SearchFilter.Main
import SearchFilter.Proofs.CommandLine.Ending
import SearchFilter.Proofs.CommandLine.Outside
import SearchFilter.Proofs.Condition.TextOrder
import SearchFilter.Proofs.Connection.LifeCycle
import SearchFilter.Proofs.Document.Placement
import SearchFilter.Proofs.Document.Report
import SearchFilter.Proofs.Lowering.Foreign
import SearchFilter.Proofs.Lowering.Meaning
import SearchFilter.Proofs.Lowering.Range
import SearchFilter.Proofs.Lowering.Table
import SearchFilter.Proofs.Lowering.Warning
import SearchFilter.Proofs.Lowering.Wildcard
import SearchFilter.Proofs.NaturalKey.DigitRun
import SearchFilter.Proofs.Record.Nesting
import SearchFilter.Proofs.Request.Assembly
import SearchFilter.Proofs.Session.Answering
import SearchFilter.Proofs.Session.Atomicity
import SearchFilter.Proofs.Session.Locality
import SearchFilter.Proofs.Session.Preservation
import SearchFilter.Proofs.Session.RoundTrip
import SearchFilter.Proofs.Session.Summary
import SearchFilter.Proofs.Declarative.BareSort
import SearchFilter.Proofs.Operator.Spelling
import SearchFilter.Proofs.Session.Listing
import SearchFilter.Proofs.Settings.File
import SearchFilter.Proofs.Settings.Overlay
import SearchFilter.Proofs.Settings.Precedence
