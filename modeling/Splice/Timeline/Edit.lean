import Splice.Timeline.Basic

/-!
# Editing a timeline in place

A client holds one timeline and changes it by one edit after the other. An edit checks what it was
given, writes the entries, and then lays them out anew; the two writes are separate, and an edit
that fails leaves behind whatever it has written by then.

* `Edit.work` says what an edit checks and writes, in order, and which row it gives back.
* `Timeline.perform`, `Timeline.performAll` are the timeline after an edit, and after several, be
  they refused or not.
* `Timeline.edit` is the same edit as one function from timeline to timeline.
-/

namespace Splice

/-- A change that a client asks of a timeline. -/
inductive Edit
  | append (entry : Entry)
  | reorder (order : List String)
  | setDuration (id : String) (seconds : Option Float)
  | setTransition (id : String) (text : Option String) (seconds : Option Float)
  deriving Repr

/-- Work on a timeline in place. It may fail, and what it has written by then stays written. -/
abbrev Editing := EStateM Problem Timeline

namespace Editing

/-- The timeline that work leaves behind, whether it fails or not. -/
def leaves {α : Type} (work : Editing α) (t : Timeline) : Timeline :=
  match work.run t with
  | .ok _ t => t
  | .error _ t => t

/-- A check: it passes with a value or fails, and writes nothing. -/
def check {α : Type} : Except Problem α → Editing α
  | .ok a => pure a
  | .error problem => throw problem

/-- Writes the entries, and not yet the schedule. -/
def writeEntries (entries : List Entry) : Editing Unit := modify fun t => { t with entries }

/-- Lays the entries out anew. -/
def layOutAnew : Editing Unit := modify fun t => { t with rows := schedule t.entries }

/-- The row of the entry with an id. -/
def row (id : String) : Editing Row := do
  let t ← get
  check (t.get id)

/-- The last row; the id is that of the entry that should be there. -/
def lastRow (id : String) : Editing Row := do
  let t ← get
  match t.rows.getLast? with
  | some row => return row
  | none => throw (.unknownEntry id)

/-- Puts an entry at the end. -/
def append (entry : Entry) : Editing Row := do
  let t ← get
  check (Timeline.checkNew t.entries entry)
  writeEntries (t.entries ++ [entry])
  layOutAnew
  lastRow entry.id

/-- Brings the entries into a new order of their ids. -/
def reorder (order : List String) : Editing Unit := do
  let t ← get
  if order.isPerm t.ids then
    writeEntries (order.filterMap fun id => t.entries.find? fun entry => entry.id == id)
    layOutAnew
  else throw (.order t.ids order)

/-- Changes the first entry of an id. -/
def replace (id : String) (change : Entry → Entry) : Editing Unit := do
  let t ← get
  match t.entries.findIdx? fun entry => entry.id == id with
  | some i =>
    writeEntries (t.entries.modify i change)
    layOutAnew
  | none => throw (.unknownEntry id)

/-- Gives an entry another duration. -/
def setDuration (id : String) (seconds : Option Float) : Editing Row := do
  let s ← check (checkDuration (.entry id) (seconds.map .real))
  replace id fun entry => { entry with duration := s }
  row id

/-- Gives an entry another transition, and perhaps another duration of it. -/
def setTransition (id : String) (text : Option String) (seconds : Option Float) : Editing Row := do
  let kind ← check ((Timeline.readTransition text).mapError .transition)
  let t ← get
  check (t.checkTransition id kind seconds)
  replace id fun entry =>
    { entry with
      transition := .known kind
      transitionDuration := (seconds.map .real).getD entry.transitionDuration }
  row id

end Editing

/-- What an edit does to a timeline, and the row that it gives back, if it gives one. -/
def Edit.work : Edit → Editing (Option Row)
  | append entry => some <$> Editing.append entry
  | reorder order => do
    Editing.reorder order
    return none
  | setDuration id seconds => some <$> Editing.setDuration id seconds
  | setTransition id text seconds => some <$> Editing.setTransition id text seconds

namespace Timeline

/-- The timeline after an edit, whether it fails or not. -/
def perform (t : Timeline) (e : Edit) : Timeline := e.work.leaves t

/-- The timeline after several edits, one after the other. -/
def performAll (t : Timeline) (edits : List Edit) : Timeline := edits.foldl perform t

/-- The timeline that an edit gives, unless it is refused. -/
def edit (t : Timeline) : Edit → Except Problem Timeline
  | .append entry => t.append entry
  | .reorder order => t.reorder order
  | .setDuration id seconds => t.setDuration id seconds
  | .setTransition id text seconds => t.setTransition id text seconds

end Timeline

end Splice
