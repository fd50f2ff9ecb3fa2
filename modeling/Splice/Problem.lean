import Splice.Json.Reader
import Splice.Number.Amount
import Splice.Payload.Issue
import Splice.Report
import Splice.Surroundings.SystemError
import Splice.Text.Octets
import Splice.Timeline.Transition

/-!
# What can go wrong

A `Problem` is the request's own: a timeline that makes no sense, a payload that cannot be read, an
engine that fails or is not there. `Problem.report` gives the report that its sender gets. A `Fault`
is anything else that ends an operation: a refusal of the system, a number that does not exist, an
answer of the engine that has not the expected shape, or the cancellation of the task.
-/

namespace Splice

/-! ## Problems -/

/-- The thing whose duration was given. -/
inductive DurationSubject
  | entry (id : String)
  | transition (id : String)
  deriving DecidableEq, Repr

/-- The words for such a thing. -/
def DurationSubject.words : DurationSubject → String
  | entry id => s!"entry '{id}'"
  | transition id => s!"transition of '{id}'"

/-- Why a transition cannot be made. -/
inductive TransitionProblem
  | unknown (text : String)
  | noDuration (kind : TransitionKind) (seconds : Option Amount)
  deriving Repr

/-- The text of a number of seconds that may be missing. -/
def secondsText (seconds : Option Amount) : String :=
  (seconds.map Amount.text).getD "None"

/-- The words for such a reason. -/
def TransitionProblem.words : TransitionProblem → String
  | unknown text => s!"Unknown transition '{text}'"
  | noDuration kind seconds =>
    s!"Transition '{kind.name}' requires a positive duration, got {secondsText seconds}"

/-- What is wrong with a request, or with the engine that is to serve it. -/
inductive Problem
  /-- Two timeline entries have one id. -/
  | duplicateEntry (id : String)
  /-- A duration is missing, zero or negative. -/
  | duration (subject : DurationSubject) (seconds : Option Amount)
  /-- A new order does not hold the ids of the timeline. -/
  | order (current given : List String)
  | unknownEntry (id : String)
  | transition (cause : TransitionProblem)
  | emptyTimeline
  /-- An entry refers to an asset that is not there. -/
  | unknownAsset (entry asset : String)
  | audioOnVideoTrack (asset : String)
  | unknownVideoLength (asset : String)
  /-- The music refers to an asset that is not there. -/
  | unknownMusic (asset : String)
  | imageAsMusic (asset : String)
  | unknownMusicLength (asset : String)
  /-- The transition between two adjacent entries cannot be made. -/
  | unresolved (before after : String) (cause : TransitionProblem)
  /-- A form field is no JSON. -/
  | fieldSyntax (field : String) (fault : Json.SyntaxFault)
  /-- A payload does not have the expected shape. -/
  | payload (title : String) (issues : List Issue)
  | noUploads
  | uploadTooLarge (name : String) (limit : Amount)
  /-- The engine's program is not installed. -/
  | engineNotInstalled (binary : String)
  /-- The system did not find the engine's program. -/
  | engineNotStarted (error : SystemError)
  | formatsFailed (stderr : String)
  | probeFailed (stderr : String)
  | conversionFailed (stderr : String)
  | renderFailed (details : String)
  | cancelledByClient
  deriving Repr

namespace Problem

/-- The kind under which a problem is reported. -/
def kind : Problem → ReportKind
  | duplicateEntry _ => .validation
  | duration _ _ => .invalidDuration
  | order _ _ => .invalidOrder
  | unknownEntry _ => .unknownTimelineEntry
  | transition _ => .unsupportedTransition
  | emptyTimeline => .emptyTimeline
  | unknownAsset _ _ => .missingMediaAsset
  | audioOnVideoTrack _ => .invalidMediaKind
  | unknownVideoLength _ => .invalidDuration
  | unknownMusic _ => .missingMediaAsset
  | imageAsMusic _ => .invalidMediaKind
  | unknownMusicLength _ => .invalidDuration
  | unresolved _ _ _ => .unresolvedTransition
  | fieldSyntax _ _ => .invalidPayload
  | payload _ _ => .invalidPayload
  | noUploads => .invalidPayload
  | uploadTooLarge _ _ => .invalidPayload
  | engineNotInstalled _ => .engineUnavailable
  | engineNotStarted _ => .engineUnavailable
  | formatsFailed _ => .engine
  | probeFailed _ => .engine
  | conversionFailed _ => .engine
  | renderFailed _ => .engine
  | cancelledByClient => .exportCancelled

/-- The message of a problem that is not reported with the standard one of its kind. -/
def ownMessage : Problem → Option String
  | duplicateEntry _ => some "Duplicate timeline entry id"
  | noUploads => some "No files provided"
  | uploadTooLarge _ _ => some "File too large"
  | formatsFailed _ => some "Could not list formats"
  | probeFailed _ => some "Could not read media file"
  | conversionFailed _ => some "Processing failed"
  | _ => none

/-- The details of a problem. -/
def details : Problem → Option String
  | duplicateEntry id => some id
  | duration subject seconds =>
    some s!"Duration of {subject.words} must be > 0, got {secondsText seconds}"
  | order current given =>
    some s!"Expected a permutation of {Text.quotedList current}, got {Text.quotedList given}"
  | unknownEntry id => some s!"No timeline entry with id '{id}'"
  | transition cause => some cause.words
  | emptyTimeline => none
  | unknownAsset entry asset => some s!"Entry '{entry}' references unknown asset '{asset}'"
  | audioOnVideoTrack asset => some s!"Audio asset '{asset}' cannot be placed on the video track"
  | unknownVideoLength asset => some s!"Video asset '{asset}' has no known duration"
  | unknownMusic asset => some s!"Audio track references unknown asset '{asset}'"
  | imageAsMusic asset => some s!"Image asset '{asset}' cannot be used as the audio track"
  | unknownMusicLength asset => some s!"Audio asset '{asset}' has no known duration"
  | unresolved before after cause => some s!"Between '{before}' and '{after}': {cause.words}"
  | fieldSyntax field fault => some s!"Field '{field}' is not valid JSON: {fault.message}"
  | payload title issues => some (issuesHeading title issues)
  | noUploads => none
  | uploadTooLarge name limit => some s!"{name} exceeds {limit.text} bytes"
  | engineNotInstalled binary => some s!"'{binary}' not found"
  | engineNotStarted error => some error.message
  | formatsFailed stderr => some stderr
  | probeFailed stderr => some stderr
  | conversionFailed stderr => some stderr
  | renderFailed details => some details
  | cancelledByClient => none

/-- The report that the sender of the request gets. -/
def report (p : Problem) : Report := Report.of p.kind p.ownMessage p.details

/-- Whether a problem means that the engine cannot be invoked at all. -/
def isEngineUnavailable (p : Problem) : Bool := p.kind == .engineUnavailable

end Problem

/-! ## Faults -/

/-- What ends an operation without being a problem of its request. -/
inductive Fault
  | system (error : SystemError)
  /-- A number has no integer part. -/
  | noInteger (why : Binary64.NoInteger)
  /-- A quotient of integers is too large for a number. -/
  | oversizedQuotient
  /-- An integer is too large for a number. -/
  | oversizedInteger
  /-- A text is no number. -/
  | unreadableNumber (text : String)
  /-- A text is no integer. -/
  | unreadableInteger (text : String)
  /-- An integer has too many digits to be read. -/
  | longInteger (digits : Nat)
  /-- More lists and objects of a JSON text are open at once than the stack has room for. -/
  | tooDeep (nested : Json.Nested)
  | jsonSyntax (fault : Json.SyntaxFault)
  | encoding (malformation : Malformation)
  /-- A value should have been an object. -/
  | notObject (value : Json)
  /-- A value should have been a list. -/
  | notList (value : Json)
  /-- A value should have been a number. -/
  | notNumber (value : Json)
  /-- No file is known for an asset. -/
  | noLocation (asset : String)
  /-- A payload does not have the expected shape. -/
  | schema (title : String) (issues : List Issue)
  /-- The text of a setting cannot be read at all. -/
  | unreadableSetting (name : String)
  /-- A line of the engine is too long; whether it has an end is known. -/
  | longLine (ended : Bool)
  /-- A result is not where it should be. -/
  | noResult (path : String)
  | cancelled
  deriving Repr

/-- The fault of a text that cannot be read as JSON. -/
def Fault.ofRefusal : Json.Refusal → Fault
  | .fault fault => .jsonSyntax fault
  | .longInteger digits => .longInteger digits
  | .tooDeep nested => .tooDeep nested

/-- Why an operation failed. -/
inductive Failure
  | problem (p : Problem)
  | fault (f : Fault)
  deriving Repr

end Splice
