import Tracepoint.Main
import Tracepoint.Render.Recorder
import Tracepoint.Template.Printer
import Tracepoint.Proofs.Grammar
import Tracepoint.Proofs.Assembly
import Tracepoint.Proofs.Scan
import Tracepoint.Proofs.WellFormed
import Tracepoint.Proofs.SourceMap
import Tracepoint.Proofs.Printing
import Tracepoint.Proofs.TokenBorder
import Tracepoint.Proofs.TableChange
import Tracepoint.Proofs.Legend
import Tracepoint.Proofs.CompileLog
import Tracepoint.Proofs.Rendering
import Tracepoint.Proofs.Preview
import Tracepoint.Proofs.Quoting
import Tracepoint.Proofs.RecordText
import Tracepoint.Proofs.Listing
import Tracepoint.Proofs.Lookup
import Tracepoint.Proofs.TableCheck
import Tracepoint.Proofs.OffsetReading
import Tracepoint.Proofs.ListingLines
import Tracepoint.Proofs.Loading
import Tracepoint.Proofs.PreviewRun
import Tracepoint.Proofs.Verbatim
import Tracepoint.Proofs.NameSuffixes
import Tracepoint.Proofs.FrameNumbers
import Tracepoint.Proofs.Composition
import Tracepoint.Proofs.DocumentSchema
import Tracepoint.Sample.Writing
import Tracepoint.Proofs.TypedReading
import Tracepoint.Proofs.DocumentForms
import Tracepoint.Proofs.Verbosity
import Tracepoint.Proofs.MatchOrder
import Tracepoint.Proofs.OpenText
