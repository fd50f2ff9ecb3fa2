import Splice.Number.Reading
import Splice.Payload.Checked

/-!
# Readers for payloads

A reader turns a JSON value into a value of the library or complains. Scalars are read with some
generosity: a number may be given as text, a whole number as a floating-point one, a truth value as
`0`, `1` or one of a few words. Records read their fields by name and ignore all others.
-/

namespace Splice.Payload

/-- A way of reading a JSON value. -/
abbrev Reader (α : Type) := Json → Checked α

variable {α : Type}

/-! ## Scalars -/

/-- A text. -/
def text : Reader String
  | .text s => .valid s
  | _ => .complain .notText

/-- A number. -/
def number : Reader Float
  | .float x => .valid x
  | .int n =>
    match Binary64.ofInt? n with
    | some x => .valid x
    | none => .complain .notNumber
  | .bool b => .valid (if b then 1.0 else 0.0)
  | .text s =>
    match Number.ofPayload? s with
    | some x => .valid x
    | none => .complain .unreadableNumber
  | _ => .complain .notNumber

/-- The integer that a floating-point number is. -/
def integerOfFloat (x : Float) : Checked Int :=
  match Binary64.ofFloat x with
  | .nan => .complain .notFinite
  | .infinite _ => .complain .notFinite
  | .finite negative m e =>
    if Binary64.numerator m e % Binary64.denominator e ≠ 0 then .complain .fractional
    else
      let size := Binary64.numerator m e / Binary64.denominator e
      if twoTo 63 ≤ size then .complain .oversizedInteger
      else .valid (if negative then -(size : Int) else size)

/-- An integer. -/
def integer : Reader Int
  | .int n => .valid n
  | .bool b => .valid (if b then 1 else 0)
  | .float x => integerOfFloat x
  | .text s =>
    match Number.integerOfPayload s with
    | .ok n => .valid n
    | .error .unreadable => .complain .unreadableInteger
    | .error .oversized => .complain .oversizedInteger
  | _ => .complain .notInteger

/-- The words for true and for false, in small letters. -/
def truthWords : List (String × Bool) :=
  [("0", false), ("f", false), ("n", false), ("no", false), ("off", false), ("false", false),
   ("1", true), ("t", true), ("y", true), ("yes", true), ("on", true), ("true", true)]

/-- The truth value that an integer stands for. One that does not fit into 64 bits is not even
considered. -/
def truthOfInteger (n : Int) : Checked Bool :=
  if n = 0 then .valid false
  else if n = 1 then .valid true
  else if -(twoTo 63 : Int) ≤ n ∧ n < twoTo 63 then .complain .unreadableTruth
  else .complain .notTruth

/-- A truth value. -/
def truth : Reader Bool
  | .bool b => .valid b
  | .int n => truthOfInteger n
  | .float x =>
    match integerOfFloat x with
    | .valid n => truthOfInteger n
    | .invalid _ => .complain .notTruth
  | .text s =>
    match truthWords.find? fun row => row.1 == s.map Char.toLower with
    | some (_, b) => .valid b
    | none => .complain .unreadableTruth
  | _ => .complain .notTruth

/-! ## Choices -/

/-- One of some values by its exact name; `complaint` says what the names are. -/
def choice (complaint : List String → Complaint) (name : α → String) (values : List α) : Reader α
  | .text s =>
    match values.find? fun value => name value == s with
    | some value => .valid value
    | none => .complain (complaint (values.map name))
  | _ => .complain (complaint (values.map name))

/-- A member of an enumeration. -/
def member (name : α → String) (values : List α) : Reader α := choice .notOneOf name values

/-- One of some literal texts. -/
def literal (name : α → String) (values : List α) : Reader α := choice .notLiteral name values

/-! ## Optional values and sequences -/

/-- A value that may be null. -/
def nullable (reader : Reader α) : Reader (Option α)
  | .null => .valid none
  | value => (reader value).map some

/-- The items of a sequence, each read in its place from `index` on. -/
def itemsFrom (reader : Reader α) (index : Nat) : List Json → List (Checked α)
  | [] => []
  | item :: rest => (reader item).under (.index index) :: itemsFrom reader (index + 1) rest

/-- A list. -/
def list (reader : Reader α) : Reader (List α)
  | .list items => Checked.all (itemsFrom reader 0 items)
  | _ => .complain .notList

/-- A tuple of any length. -/
def tuple (reader : Reader α) : Reader (List α)
  | .list items => Checked.all (itemsFrom reader 0 items)
  | _ => .complain .notTuple

/-- The item at a place of a pair. -/
def pairItem (reader : Reader α) (index : Nat) (items : List Json) : Checked α :=
  (match items[index]? with
    | some item => reader item
    | none => .complain .missing).under (.index index)

/-- A pair of values of one type. -/
def pair (reader : Reader α) : Reader (α × α)
  | .list items =>
    if 2 < items.length then .complain (.longTuple 2 items.length)
    else Prod.mk <$> pairItem reader 0 items <*> pairItem reader 1 items
  | _ => .complain .notTuple

/-! ## Records -/

/-- A record with the given title, read from its fields. -/
def record (title : String) (body : Json.Fields → Checked α) : Reader α
  | .object fields => body fields
  | _ => .complain (.notRecord title)

/-- A field that must be there. -/
def required (reader : Reader α) (name : String) (fields : Json.Fields) : Checked α :=
  (match fields.get? name with
    | some value => reader value
    | none => .complain .missing).under (.field name)

/-- A field with a value that it has when it is not there. -/
def optional (reader : Reader α) (default : α) (name : String) (fields : Json.Fields) : Checked α :=
  match fields.get? name with
  | some value => (reader value).under (.field name)
  | none => .valid default

end Splice.Payload
