import Splice.Timeline.Entry

/-!
# The timeline and its edits

A timeline is a sequence of entries with distinct ids and no duration of zero or less, together
with the schedule that follows from it. The entries are the source of truth: every edit changes
them and then lays them out anew. An edit that is refused leaves the timeline as it was, for it
gives no timeline at all.
-/

namespace Splice

/-- A timeline: its entries, and where they lie. -/
structure Timeline where
  entries : List Entry
  rows : List Row
  deriving Repr

/-- Refuses a duration that is missing, zero or negative. -/
def checkDuration (subject : DurationSubject) (seconds : Option Amount) : Except Problem Float :=
  match seconds with
  | none => .error (.duration subject none)
  | some s => if s.value ≤ 0 then .error (.duration subject (some s)) else .ok s.value

namespace Timeline

/-- The timeline of some entries, laid out afresh. -/
def layOut (entries : List Entry) : Timeline := ⟨entries, schedule entries⟩

/-- The timeline without entries. -/
def empty : Timeline := layOut []

/-! ## Reading -/

/-- The ids of the entries, in order. -/
def ids (t : Timeline) : List String := t.entries.map Entry.id

/-- The number of entries. -/
def length (t : Timeline) : Nat := t.entries.length

/-- When the timeline ends. -/
def total (t : Timeline) : Float := scheduleEnd t.rows

/-- The row of the entry with an id. -/
def get (t : Timeline) (id : String) : Except Problem Row :=
  match t.rows.find? fun row => row.entry.id == id with
  | some row => .ok row
  | none => .error (.unknownEntry id)

/-- A number of seconds as minutes and two-digit seconds. -/
def clockText (seconds : Int) : String :=
  let rest := toString (seconds.fmod 60)
  toString (seconds.fdiv 60) ++ ":" ++ (if rest.length < 2 then "0" ++ rest else rest)

/-- The length of the timeline as minutes and seconds, fractions dropped. -/
def formatDuration (t : Timeline) : Except Binary64.NoInteger String :=
  (Binary64.truncate t.total).map clockText

/-! ## Editing -/

/-- Refuses an entry whose id is taken or whose duration is not positive. -/
def checkNew (entries : List Entry) (entry : Entry) : Except Problem Unit :=
  if entries.any fun other => other.id == entry.id then .error (.duplicateEntry entry.id)
  else (checkDuration (.entry entry.id) (some (.real entry.duration))).map fun _ => ()

/-- The timeline with one more entry at its end. -/
def append (t : Timeline) (entry : Entry) : Except Problem Timeline :=
  (checkNew t.entries entry).map fun _ => layOut (t.entries ++ [entry])

/-- The entries that pass the check for a new entry one after the other, after those before. -/
def acceptEach (before : List Entry) : List Entry → Except Problem (List Entry)
  | [] => .ok before
  | entry :: rest =>
    match checkNew before entry with
    | .error problem => .error problem
    | .ok () => acceptEach (before ++ [entry]) rest

/-- The timeline of some entries, unless one of them is refused. -/
def ofEntries (entries : List Entry) : Except Problem Timeline :=
  (acceptEach [] entries).map layOut

/-- The timeline in a new order of its ids. -/
def reorder (t : Timeline) (order : List String) : Except Problem Timeline :=
  if order.isPerm t.ids then
    .ok (layOut (order.filterMap fun id => t.entries.find? fun entry => entry.id == id))
  else .error (.order t.ids order)

/-- The timeline with the first entry of an id changed. -/
def replace (t : Timeline) (id : String) (change : Entry → Entry) : Except Problem Timeline :=
  match t.entries.findIdx? fun entry => entry.id == id with
  | some i => .ok (layOut (t.entries.modify i change))
  | none => .error (.unknownEntry id)

/-- The timeline with another duration of one entry. -/
def setDuration (t : Timeline) (id : String) (seconds : Option Float) : Except Problem Timeline :=
  match checkDuration (.entry id) (seconds.map .real) with
  | .error problem => .error problem
  | .ok s => t.replace id fun entry => { entry with duration := s }

/-- The kind of transition that a client means; nothing means a cut. -/
def readTransition (text : Option String) : Except TransitionProblem TransitionKind :=
  match text with
  | none => .ok .cut
  | some text =>
    match TransitionKind.read? text with
    | some kind => .ok kind
    | none => .error (.unknown text)

/-- Refuses a blending transition without a positive duration: the one given, or else the one that
the entry has already. -/
def checkTransition (t : Timeline) (id : String) (kind : TransitionKind) (seconds : Option Float) :
    Except Problem Unit :=
  if kind.isBlending then
    match seconds with
    | some s => (checkDuration (.transition id) (some (.real s))).map fun _ => ()
    | none =>
      match t.get id with
      | .error problem => .error problem
      | .ok row =>
        (checkDuration (.transition id) (some row.entry.transitionDuration)).map fun _ => ()
  else .ok ()

/-- The timeline with another transition behind one entry, and perhaps another duration of it. -/
def setTransition (t : Timeline) (id : String) (text : Option String) (seconds : Option Float) :
    Except Problem Timeline :=
  match readTransition text with
  | .error cause => .error (.transition cause)
  | .ok kind =>
    match t.checkTransition id kind seconds with
    | .error problem => .error problem
    | .ok () =>
      t.replace id fun entry =>
        { entry with
          transition := .known kind
          transitionDuration := (seconds.map .real).getD entry.transitionDuration }

end Timeline

end Splice
