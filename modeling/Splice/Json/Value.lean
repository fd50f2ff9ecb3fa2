import Splice.Table

/-!
# JSON values

Integers and floating-point numbers are kept apart, since a payload field may ask for one of them.
The fields of an object stand in the order in which their names first occur.
-/

namespace Splice

/-- A JSON value. -/
inductive Json
  | null
  | bool (b : Bool)
  | int (n : Int)
  | float (x : Float)
  | text (s : String)
  | list (items : List Json)
  | object (fields : List (String × Json))
  deriving Inhabited, Repr

namespace Json

/-- The fields of an object. -/
abbrev Fields := Table String Json

/-- A text, or null for none. -/
def ofText? : Option String → Json
  | none => null
  | some s => text s

end Json

end Splice
