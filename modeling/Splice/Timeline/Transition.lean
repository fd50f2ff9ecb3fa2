import Splice.Text.Blank
import Splice.Text.Lowercase

/-!
# Transitions between clips

Two adjacent clips are joined by a cut or by one of the blending transitions, in which the two
overlap for a while. A client names a transition freely as to case and surrounding blanks, and may
say `none` for a cut. A name that means nothing is kept as it is, since only the compiler knows
whether it matters.
-/

namespace Splice

/-- How a clip goes over into the next. -/
inductive TransitionKind
  | cut
  | crossfade
  | fade
  | slideLeft
  | slideRight
  | wipe
  deriving DecidableEq, Repr

namespace TransitionKind

/-- The word for a kind. -/
def name : TransitionKind → String
  | cut => "cut"
  | crossfade => "crossfade"
  | fade => "fade"
  | slideLeft => "slide-left"
  | slideRight => "slide-right"
  | wipe => "wipe"

/-- Every kind, in the order in which the kinds are listed to a client. -/
def all : List TransitionKind := [cut, crossfade, fade, slideLeft, slideRight, wipe]

/-- The kind with exactly this word. -/
def ofName? (word : String) : Option TransitionKind := all.find? fun kind => kind.name == word

/-- The kind that a client means by a text. -/
def read? (text : String) : Option TransitionKind :=
  match ofName? text with
  | some kind => some kind
  | none =>
    let word := Text.lower (Text.trim text)
    if word == "none" then some cut else ofName? word

/-- Whether the two clips overlap. -/
def isBlending (kind : TransitionKind) : Bool := kind != cut

/-- The engine's name for a blending transition. -/
def engineName? : TransitionKind → Option String
  | cut => none
  | crossfade => some "fade"
  | fade => some "fadeblack"
  | slideLeft => some "slideleft"
  | slideRight => some "slideright"
  | wipe => some "wipeleft"

end TransitionKind

/-- The transition that a timeline entry asks for: a kind, or a text that names none. -/
inductive Transition
  | known (kind : TransitionKind)
  | unknown (text : String)
  deriving DecidableEq, Repr

namespace Transition

/-- The transition that a client means by a text. -/
def ofText (text : String) : Transition :=
  match TransitionKind.read? text with
  | some kind => known kind
  | none => unknown text

/-- The transition that a client means by a text, where nothing and the empty text mean a cut. -/
def ofRequest (text : Option String) : Transition :=
  match text with
  | none => known .cut
  | some "" => known .cut
  | some text => ofText text

/-- The word for a transition, or the text that names none. -/
def name : Transition → String
  | known kind => kind.name
  | unknown text => text

end Transition

end Splice
