/-!
# Reports

Whatever goes wrong in a request and concerns its sender is reported with a kind, a message and
perhaps details. Kinds form a tree; each has an HTTP status and a standard message.
-/

namespace Splice

/-- The kind of a report. -/
inductive ReportKind
  | editor
  | validation
  | emptyTimeline
  | missingMediaAsset
  | invalidDuration
  | invalidOrder
  | unknownTimelineEntry
  | invalidMediaKind
  | invalidPayload
  | compilation
  | unsupportedTransition
  | unresolvedTransition
  | engine
  | engineUnavailable
  | exportCancelled
  deriving DecidableEq, Repr

namespace ReportKind

/-- Every kind. -/
def all : List ReportKind :=
  [editor, validation, emptyTimeline, missingMediaAsset, invalidDuration, invalidOrder,
   unknownTimelineEntry, invalidMediaKind, invalidPayload, compilation, unsupportedTransition,
   unresolvedTransition, engine, engineUnavailable, exportCancelled]

/-- The kinds from a kind up to the most general one. -/
def lineage : ReportKind → List ReportKind
  | editor => [editor]
  | validation => [validation, editor]
  | compilation => [compilation, editor]
  | engine => [engine, editor]
  | engineUnavailable => [engineUnavailable, editor]
  | exportCancelled => [exportCancelled, editor]
  | unsupportedTransition => [unsupportedTransition, compilation, editor]
  | unresolvedTransition => [unresolvedTransition, compilation, editor]
  | emptyTimeline => [emptyTimeline, validation, editor]
  | missingMediaAsset => [missingMediaAsset, validation, editor]
  | invalidDuration => [invalidDuration, validation, editor]
  | invalidOrder => [invalidOrder, validation, editor]
  | unknownTimelineEntry => [unknownTimelineEntry, validation, editor]
  | invalidMediaKind => [invalidMediaKind, validation, editor]
  | invalidPayload => [invalidPayload, validation, editor]

/-- The HTTP status of a kind. -/
def status (kind : ReportKind) : Nat :=
  if validation ∈ kind.lineage then 400
  else if compilation ∈ kind.lineage then 422
  else
    match kind with
    | engineUnavailable => 503
    | exportCancelled => 499
    | _ => 500

/-- The standard message of a kind. -/
def title : ReportKind → String
  | editor => "Export failed"
  | validation => "Invalid export request"
  | emptyTimeline => "Timeline is empty"
  | missingMediaAsset => "Timeline references an unknown media asset"
  | invalidDuration => "Duration must be greater than zero"
  | invalidOrder => "New order is not a permutation of the timeline entries"
  | unknownTimelineEntry => "Timeline entry not found"
  | invalidMediaKind => "Media kind cannot be used here"
  | invalidPayload => "Malformed request payload"
  | compilation => "Timeline could not be compiled"
  | unsupportedTransition => "Unsupported transition"
  | unresolvedTransition => "Transition between clips could not be resolved"
  | engine => "Video processing failed"
  | engineUnavailable => "FFmpeg not available"
  | exportCancelled => "Export cancelled by client"

end ReportKind

/-- What is reported to the sender of a request. -/
structure Report where
  kind : ReportKind
  message : String
  details : Option String
  deriving DecidableEq, Repr

/-- A report with a message of its own, or with the standard one if that is absent or empty. -/
def Report.of (kind : ReportKind) (message details : Option String) : Report :=
  let own := message.getD ""
  { kind, message := if own == "" then kind.title else own, details }

end Splice
