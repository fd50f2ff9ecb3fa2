import Splice.Plan.Basic
import Splice.Timeline.Basic

/-!
# What a timeline must satisfy to be compiled

Every entry refers to a picture or a video; a video that is rendered has a known length. The music
refers to a sound, or to a video for its sound, of known length. Every transition between adjacent
entries can be made; the one behind the last entry does not matter.
-/

namespace Splice.Compile

/-- A row of the schedule with the asset that it shows. -/
structure Clip where
  row : Row
  asset : MediaAsset
  deriving Repr

/-- The asset that a row shows. -/
def findVisual (assets : AssetTable) (lengths : Bool) (row : Row) : Except Problem Clip :=
  match assets.get? row.entry.mediaId with
  | none => .error (.unknownAsset row.entry.id row.entry.mediaId)
  | some asset =>
    if asset.kind = .audio then .error (.audioOnVideoTrack asset.id)
    else if lengths ∧ asset.kind = .video ∧ asset.duration.isNone then
      .error (.unknownVideoLength asset.id)
    else .ok ⟨row, asset⟩

/-- The assets that the rows show, in order; `lengths` asks for the lengths of videos too. -/
def findVisuals (assets : AssetTable) (lengths : Bool) : List Row → Except Problem (List Clip)
  | [] => .ok []
  | row :: rest =>
    match findVisual assets lengths row with
    | .error problem => .error problem
    | .ok clip => (findVisuals assets lengths rest).map (clip :: ·)

/-- The asset that is played as music. -/
def findMusic (assets : AssetTable) (track : AudioTrack) : Except Problem MediaAsset :=
  match assets.get? track.mediaId with
  | none => .error (.unknownMusic track.mediaId)
  | some asset =>
    if asset.kind = .image then .error (.imageAsMusic asset.id)
    else if asset.duration.isNone then .error (.unknownMusicLength asset.id)
    else .ok asset

/-- The joins between adjacent rows: the join at place `i` is between rows `i` and `i + 1`. -/
def resolveJoins : List Row → Except Problem (List Join)
  | before :: after :: rest =>
    match Join.resolve before.entry.transition (some before.entry.transitionDuration) before.stop with
    | .error cause => .error (.unresolved before.entry.id after.entry.id cause)
    | .ok join => (resolveJoins (after :: rest)).map (join :: ·)
  | _ => .ok []

/-- The checks that need no knowledge of the files' lengths. -/
def validate (timeline : Timeline) (assets : AssetTable) : Except Problem Timeline :=
  if timeline.rows.isEmpty then .error .emptyTimeline
  else do
    let _ ← findVisuals assets false timeline.rows
    let _ ← resolveJoins timeline.rows
    return timeline

end Splice.Compile
