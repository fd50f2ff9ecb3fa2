import Splice.Number.Amount
import Splice.Number.Shortest
import Splice.Number.Thousandths
import Splice.Text.Blank
import Splice.Text.Charset
import Splice.Text.Digit
import Splice.Text.Lowercase
import Splice.Text.Percent
import Splice.Text.Quoted
import Splice.Text.Utf8
import Splice.Json.Octets
import Splice.Json.Reader
import Splice.Json.Writer
import Splice.Compile.Basic
import Splice.Timeline.Edit
import Splice.Payload.Reader
import Splice.Export.Request
import Splice.Payload.Plan
import Splice.Surroundings.Child
import Splice.Surroundings.Disk
import Splice.Surroundings.Job
import Splice.Surroundings.World
import Splice.Engine.Basic
import Splice.Engine.Convert
import Splice.Engine.Formats
import Splice.Engine.Lines
import Splice.Engine.Probe
import Splice.Engine.Progress
import Splice.Engine.Render
import Splice.Export.Assets
import Splice.Export.Service
import Splice.Storage.Sweep
import Splice.Settings.Environment
import Splice.Web.Attachment
import Splice.Web.Cors
import Splice.Web.FormName
import Splice.Web.Form
import Splice.Web.Multipart
import Splice.Web.Parameters
import Splice.Web.Url
import Splice.Web.Urlencoded
import Splice.Web.FileView
import Splice.Web.FormCheck
import Splice.Web.Client
import Splice.Web.App
import Splice.Text.Charset.Ahead
import Splice.Text.Charset.Chinese
import Splice.Text.Charset.EastAsian
import Splice.Proofs.Timeline.Runs
import Splice.Proofs.Compile.Acceptance
import Splice.Proofs.Compile.Picture
import Splice.Proofs.Timeline.Answers
import Splice.Proofs.Compile.Legible
import Splice.Proofs.Compile.Lengths
import Splice.Proofs.Engine.Stopping
import Splice.Proofs.Export.Accounts
import Splice.Proofs.Export.Leftovers
import Splice.Proofs.Export.Strategy
import Splice.Proofs.Export.Inputs
import Splice.Proofs.Timeline.Times
import Splice.Proofs.Export.Form
import Splice.Proofs.Export.Unstarted
import Splice.Proofs.Engine.Misbehaviour
import Splice.Proofs.Traffic.Interference
import Splice.Proofs.Compile.Dependence
import Splice.Proofs.Compile.Sound
import Splice.Proofs.Timeline.Transitions
import Splice.Proofs.Web.LifeCycle
import Splice.Proofs.Export.Claiming
import Splice.Proofs.Storage.Chunks
import Splice.Proofs.Storage.Inside
import Splice.Proofs.Number.Written
import Splice.Proofs.Engine.Reports
import Splice.Proofs.Storage.Outdated
import Splice.Proofs.Storage.Retention
import Splice.Proofs.Timeline.Reordering
import Splice.Proofs.Timeline.Locality
import Splice.Proofs.Timeline.Independence
import Splice.Proofs.Export.Omitted
import Splice.Proofs.Compile.Numbering
import Splice.Proofs.Engine.Complaints
