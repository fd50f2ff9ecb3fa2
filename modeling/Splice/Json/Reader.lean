import Splice.Json.Value
import Splice.Number.Binary64
import Splice.Text.Digit
import Splice.Text.Quoted
import Splice.Text.Units

/-!
# Reading JSON

`Json.read` takes a text apart into one JSON value. Besides the standard it accepts the literals
`NaN`, `Infinity` and `-Infinity`; of several fields with one name the last gives the value. A text
that is no JSON is refused with a reason and a place, counted in characters.

The reader works on the characters that remain, and a refusal names how many remained at the place
of the fault; only `Json.read`, which knows the whole text, turns that into a line and a column.

Two limits are not those of the standard. An integer may have at most `Json.mostDigits` digits. And
every list and every object that is open takes up room on the stack: a text in which more of them
are open at once than there is room for is refused at the bracket that finds none left, whatever
stands behind it. How much room there is depends on who reads, so the reader is told.
-/

namespace Splice.Json

/-- What is wrong at a place of a text that is no JSON. -/
inductive Reason
  | value
  | propertyName
  | colon
  | comma
  | extraData
  | unterminatedString
  | controlCharacter
  | escape
  | unicodeEscape
  | byteOrderMark
  deriving DecidableEq, Repr

/-- The words for a reason. -/
def Reason.text : Reason → String
  | .value => "Expecting value"
  | .propertyName => "Expecting property name enclosed in double quotes"
  | .colon => "Expecting ':' delimiter"
  | .comma => "Expecting ',' delimiter"
  | .extraData => "Extra data"
  | .unterminatedString => "Unterminated string starting at"
  | .controlCharacter => "Invalid control character at"
  | .escape => "Invalid \\escape"
  | .unicodeEscape => "Invalid \\uXXXX escape"
  | .byteOrderMark => "Unexpected UTF-8 BOM (decode using utf-8-sig)"

/-- What a bracket opens. -/
inductive Nested
  | list
  | object
  deriving DecidableEq, Repr

/-- The word for it. -/
def Nested.word : Nested → String
  | .list => "array"
  | .object => "object"

/-- A refusal while reading: a fault with the number of characters that remained at it, an integer
with too many digits, or a bracket that finds no room left. -/
inductive Stop
  | fault (reason : Reason) (remaining : Nat)
  | longInteger (digits : Nat)
  | tooDeep (nested : Nested)
  deriving DecidableEq, Repr

/-- A reader's step: what was read, and the characters that remain. -/
abbrev Step (α : Type) := Except Stop (α × List Char)

/-- Refuses at the given remaining characters. -/
def refuse {α : Type} (reason : Reason) (rest : List Char) : Except Stop α :=
  .error (.fault reason rest.length)

/-- Whether a character may stand between the tokens. -/
def isSpace (c : Char) : Bool := c == ' ' || c == '\t' || c == '\n' || c == '\r'

/-- What remains after the space between two tokens. -/
def skip (cs : List Char) : List Char := cs.dropWhile isSpace

/-! ## Strings -/

/-- The number that four hexadecimal digits write. -/
def hexUnit? (a b c d : Char) : Option Nat := do
  let a ← Text.hexValue? a
  let b ← Text.hexValue? b
  let c ← Text.hexValue? c
  let d ← Text.hexValue? d
  return ((a * 16 + b) * 16 + c) * 16 + d

/-- The character that a letter after a backslash stands for. -/
def escaped? : Char → Option Char
  | '"' => some '"'
  | '\\' => some '\\'
  | '/' => some '/'
  | 'b' => some '\x08'
  | 'f' => some '\x0c'
  | 'n' => some '\n'
  | 'r' => some '\r'
  | 't' => some '\t'
  | _ => none

/-- The character of a unit that is not part of a pair. Half of a pair is none, and the replacement
character stands for it. -/
def loneUnit (unit : Nat) : Char :=
  if isHighUnit unit || isLowUnit unit then '\uFFFD' else Char.ofNat unit

/-- Reads a string behind its opening quote; `done` holds its characters so far, last first, and
`start` the number of characters that remained at the quote. The escape of a unit needs a
character behind its four digits, and two units make a pair only if one more follows. -/
def scanString (start : Nat) (done : List Char) : List Char → Step String
  | [] => .error (.fault .unterminatedString start)
  | '"' :: rest => .ok (String.ofList done.reverse, rest)
  | ['\\'] => .error (.fault .unterminatedString start)
  | '\\' :: 'u' :: a :: b :: c :: d :: '\\' :: 'u' :: e :: f :: g :: h :: next :: rest =>
    match hexUnit? a b c d with
    | none => .error (.fault .unicodeEscape (rest.length + 12))
    | some unit =>
      if isHighUnit unit then
        match hexUnit? e f g h with
        | none => .error (.fault .unicodeEscape (rest.length + 6))
        | some second =>
          if isLowUnit second then scanString start (pairedUnits unit second :: done) (next :: rest)
          else scanString start (loneUnit unit :: done) ('\\' :: 'u' :: e :: f :: g :: h :: next :: rest)
      else scanString start (loneUnit unit :: done) ('\\' :: 'u' :: e :: f :: g :: h :: next :: rest)
  | '\\' :: 'u' :: a :: b :: c :: d :: next :: rest =>
    match hexUnit? a b c d with
    | none => .error (.fault .unicodeEscape (rest.length + 6))
    | some unit => scanString start (loneUnit unit :: done) (next :: rest)
  | '\\' :: 'u' :: rest => .error (.fault .unicodeEscape (rest.length + 1))
  | '\\' :: letter :: rest =>
    match escaped? letter with
    | none => .error (.fault .escape (rest.length + 2))
    | some c => scanString start (c :: done) rest
  | c :: rest =>
    if c.toNat < 0x20 then .error (.fault .controlCharacter (rest.length + 1))
    else scanString start (c :: done) rest

/-! ## Numbers -/

/-- The most digits that an integer may have. -/
def mostDigits : Nat := 4300

/-- The number that decimal digits write. -/
def decimalValue (digits : List Char) : Nat :=
  digits.foldl (fun n c => n * 10 + (c.toNat - '0'.toNat)) 0

/-- The digits at the front, and what remains. -/
def scanDigits (cs : List Char) : List Char × List Char := (cs.takeWhile Char.isDigit, cs.dropWhile Char.isDigit)

/-- A fraction at the front, its digits if there are any, and what remains. -/
def scanFraction (cs : List Char) : Option (List Char) × List Char :=
  match cs with
  | '.' :: rest =>
    match scanDigits rest with
    | ([], _) => (none, cs)
    | (digits, rest) => (some digits, rest)
  | _ => (none, cs)

/-- An exponent at the front, its value if it is complete, and what remains. -/
def scanExponent (cs : List Char) : Option Int × List Char :=
  match cs with
  | e :: rest =>
    if e == 'e' || e == 'E' then
      let (negative, unsigned) := match rest with
        | '+' :: rest => (false, rest)
        | '-' :: rest => (true, rest)
        | rest => (false, rest)
      match scanDigits unsigned with
      | ([], _) => (none, cs)
      | (digits, rest) =>
        let n : Int := decimalValue digits
        (some (if negative then -n else n), rest)
    else (none, cs)
  | [] => (none, cs)

/-- Reads the number at the front, if there is one: it goes on as long as it stays a number. One
with a fraction or an exponent is a floating-point number, any other an integer. -/
def scanNumber? (cs : List Char) : Option (Step Json) :=
  let (negative, unsigned) := match cs with
    | '-' :: rest => (true, rest)
    | rest => (false, rest)
  let whole := match unsigned with
    | '0' :: rest => (['0'], rest)
    | rest => scanDigits rest
  match whole with
  | ([], _) => none
  | (digits, rest) =>
    let (fraction, rest) := scanFraction rest
    let (exponent, rest) := scanExponent rest
    if fraction.isNone && exponent.isNone then
      if mostDigits < digits.length then some (.error (.longInteger digits.length))
      else
        let n : Int := decimalValue digits
        some (.ok (.int (if negative then -n else n), rest))
    else
      let places := fraction.getD []
      let shift : Int := exponent.getD 0 - places.length
      some (.ok (.float (Binary64.ofDecimal negative (decimalValue (digits ++ places)) shift), rest))

/-! ## Values -/

/-- The literals and what they stand for. -/
def literals : List (List Char × Json) :=
  [("null".toList, .null), ("true".toList, .bool true), ("false".toList, .bool false),
   ("NaN".toList, .float Binary64.notANumber), ("Infinity".toList, .float (Binary64.infinity false)),
   ("-Infinity".toList, .float (Binary64.infinity true))]

/-- Reads a literal or a number at the front. -/
def scanAtom (cs : List Char) : Step Json :=
  match literals.find? fun (name, _) => name.isPrefixOf cs with
  | some (name, value) => .ok (value, cs.drop name.length)
  | none => (scanNumber? cs).getD (refuse .value cs)

mutual

/-- Reads the value at the front. The first argument bounds the depth of the calls, and `room` is
how many lists and objects may be open at once. -/
def scanValue : Nat → (room : Nat) → List Char → Step Json
  | 0, _, cs => refuse .value cs
  | depth + 1, room, cs =>
    match cs with
    | '"' :: rest => (scanString cs.length [] rest).map fun (s, rest) => (.text s, rest)
    | '[' :: rest =>
      match room with
      | 0 => .error (.tooDeep .list)
      | room + 1 =>
        match skip rest with
        | ']' :: rest => .ok (.list [], rest)
        | rest => scanItems depth room [] rest
    | '{' :: rest =>
      match room with
      | 0 => .error (.tooDeep .object)
      | room + 1 =>
        match skip rest with
        | '}' :: rest => .ok (.object [], rest)
        | rest => scanFields depth room [] rest
    | cs => scanAtom cs

/-- Reads the items of a list up to its end; `done` holds those read, last first. -/
def scanItems : Nat → (room : Nat) → List Json → List Char → Step Json
  | 0, _, _, cs => refuse .value cs
  | depth + 1, room, done, cs =>
    match scanValue depth room cs with
    | .error stop => .error stop
    | .ok (item, rest) =>
      match skip rest with
      | ']' :: rest => .ok (.list (item :: done).reverse, rest)
      | ',' :: rest => scanItems depth room (item :: done) (skip rest)
      | rest => refuse .comma rest

/-- Reads the fields of an object up to its end. -/
def scanFields : Nat → (room : Nat) → Fields → List Char → Step Json
  | 0, _, _, cs => refuse .value cs
  | depth + 1, room, done, cs =>
    match cs with
    | '"' :: rest =>
      match scanString cs.length [] rest with
      | .error stop => .error stop
      | .ok (name, rest) =>
        match skip rest with
        | ':' :: rest =>
          match scanValue depth room (skip rest) with
          | .error stop => .error stop
          | .ok (value, rest) =>
            match skip rest with
            | '}' :: rest => .ok (.object (done.put name value), rest)
            | ',' :: rest => scanFields depth room (done.put name value) (skip rest)
            | rest => refuse .comma rest
        | rest => refuse .colon rest
    | cs => refuse .propertyName cs

end

/-! ## Whole texts -/

/-- A fault in a text, with its place: the characters before it, and its line and column. -/
structure SyntaxFault where
  reason : Reason
  position : Nat
  line : Nat
  column : Nat
  deriving DecidableEq, Repr

/-- The words for a fault. -/
def SyntaxFault.message (f : SyntaxFault) : String :=
  s!"{f.reason.text}: line {f.line} column {f.column} (char {f.position})"

/-- Why a text gives no JSON value. -/
inductive Refusal
  | fault (f : SyntaxFault)
  | longInteger (digits : Nat)
  | tooDeep (nested : Nested)
  deriving DecidableEq, Repr

/-- The place of a fault with `remaining` of the characters behind it. -/
def locate (cs : List Char) (reason : Reason) (remaining : Nat) : SyntaxFault :=
  let before := cs.take (cs.length - remaining)
  { reason
    position := before.length
    line := before.count '\n' + 1
    column := (before.reverse.takeWhile (· != '\n')).length + 1 }

/-- Reads one value and nothing behind it. -/
def scanText (room : Nat) (cs : List Char) : Except Stop Json :=
  match scanValue (2 * cs.length + 2) room (skip cs) with
  | .error stop => .error stop
  | .ok (value, rest) =>
    match skip rest with
    | [] => .ok value
    | rest => refuse .extraData rest

/-- What was read of some characters, or the place of the fault. -/
def located (cs : List Char) : Except Stop Json → Except Refusal Json
  | .ok value => .ok value
  | .error (.fault reason remaining) => .error (.fault (locate cs reason remaining))
  | .error (.longInteger digits) => .error (.longInteger digits)
  | .error (.tooDeep nested) => .error (.tooDeep nested)

/-- The value that a JSON text writes, where a mark in front is no fault of its own. -/
def readUnmarked (room : Nat) (s : String) : Except Refusal Json :=
  located s.toList (scanText room s.toList)

/-- The value that a JSON text writes, read with room for so many open lists and objects. -/
def read (room : Nat) (s : String) : Except Refusal Json :=
  if s.toList.head? == some '\uFEFF' then located s.toList (refuse .byteOrderMark s.toList)
  else readUnmarked room s

/-- The room that a text finds where nothing in particular is known about its reader: calls may be
a thousand deep, and those around the reader are some tens. -/
def usualRoom : Nat := 900

end Splice.Json
