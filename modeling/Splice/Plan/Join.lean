import Splice.Problem

/-!
# Joins between adjacent clips

A join is a transition made definite: what kind it is, how long it lasts, and when it begins, which
is when the clip before it ends on the timeline. A cut lasts no time; every other kind blends the
two clips and needs a duration above zero.
-/

namespace Splice

/-- How two adjacent clips are joined. -/
structure Join where
  kind : TransitionKind
  duration : Float
  /-- When the clip before the join ends. -/
  offset : Float
  /-- The engine's name for a blending transition. -/
  engineName : Option String
  deriving Repr

namespace Join

/-- Whether the clips overlap. -/
def isBlend (j : Join) : Bool := j.engineName.isSome

/-- The join that a transition asks for, at the end of the clip before it. -/
def resolve (transition : Transition) (duration : Option Amount) (offset : Float) :
    Except TransitionProblem Join :=
  match transition with
  | .unknown text => .error (.unknown text)
  | .known kind =>
    match kind.engineName? with
    | none => .ok ⟨kind, 0.0, offset, none⟩
    | some engineName =>
      match duration with
      | none => .error (.noDuration kind none)
      | some seconds =>
        if seconds.value ≤ 0 then .error (.noDuration kind (some seconds))
        else .ok ⟨kind, seconds.value, offset, some engineName⟩

end Join

end Splice
