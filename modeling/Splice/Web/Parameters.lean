import Splice.Text.Blank
import Splice.Text.Lowercase
import Splice.Text.Percent
import Splice.Text.Separated

/-!
# Values with parameters

Some header values are a head with parameters behind it, separated by semicolons; a semicolon in
quotes separates nothing. A parameter is a name and a value with an equals sign between them, or a
name alone. A value may stand in quotes, where a backslash stands before a quote or a backslash.

A value may also be cut into numbered pieces, each under the name with a star and a number behind
it. A star at the very end says that a piece is percent-encoded, and then a character set and a
language may stand in front of the whole, each with an apostrophe behind it.
-/

namespace Splice.Web

/-- A head with its parameters, each a name and a value. The head is cut at an equals sign as
well. -/
structure Parametrized where
  head : String × String
  parameters : List (String × String)
  deriving DecidableEq, Repr

namespace Parametrized

/-! ## Items -/

/-- The stretches between the semicolons that stand in no quotes; `current` holds the characters of
the first one so far, last first. -/
def itemsFrom (quoted : Bool) (current : List Char) : List Char → List String
  | [] => [String.ofList current.reverse]
  | c :: rest =>
    if c == ';' && !quoted then String.ofList current.reverse :: itemsFrom false [] rest
    else
      let quoted := if c == '"' && current.head? != some '\\' then !quoted else quoted
      itemsFrom quoted (c :: current) rest

/-- An item as a name and a value. The name of an item without an equals sign keeps its capitals. -/
def item (text : String) : String × String :=
  if text.toList.contains '=' then
    let (name, value) := Text.cutAt '=' text
    (Text.lower (Text.trim name), Text.trim value)
  else (Text.trim text, "")

/-! ## Quotes -/

/-- The characters with one in the place of each pair of a backslash and it. -/
def dropBackslashes (c : Char) : List Char → List Char
  | '\\' :: d :: rest =>
    if d == c then c :: dropBackslashes c rest else '\\' :: dropBackslashes c (d :: rest)
  | d :: rest => d :: dropBackslashes c rest
  | [] => []

/-- A value without the quotes, or the angle brackets, around it. -/
def unquote (value : String) : String :=
  match value.toList, value.toList.getLast? with
  | '"' :: rest@(_ :: _), some '"' =>
    String.ofList (dropBackslashes '"' (dropBackslashes '\\' rest.dropLast))
  | '<' :: rest@(_ :: _), some '>' => String.ofList rest.dropLast
  | _, _ => value

/-! ## Pieces -/

/-- A piece of a value. -/
structure Fragment where
  name : String
  number : Option Nat
  value : String
  encoded : Bool
  deriving DecidableEq, Repr

/-- Whether a character belongs to the name in front of a star. -/
def isWordChar (c : Char) : Bool := c.isAlphanum || c == '_'

/-- The piece that a parameter is, if its name says so. -/
def fragment? (parameter : String × String) : Option Fragment :=
  let cs := parameter.1.toList
  let word := cs.takeWhile isWordChar
  match word, cs.drop word.length with
  | _ :: _, '*' :: rest =>
    let digits := rest.takeWhile Char.isDigit
    let fragment (encoded : Bool) : Fragment :=
      ⟨String.ofList word, (String.ofList digits).toNat?, parameter.2, encoded⟩
    match rest.drop digits.length with
    | [] => some (fragment digits.isEmpty)
    | ['*'] => if digits.isEmpty then none else some (fragment true)
    | _ => none
  | _, _ => none

namespace Fragment

/-- Whether a piece comes before another. -/
def before (a b : Fragment) : Bool :=
  match a.number, b.number with
  | none, some _ => true
  | some _, none => false
  | m, n => m.getD 0 < n.getD 0 || (m == n && a.value ≤ b.value)

/-- The characters of a piece. -/
def chars (f : Fragment) : List Char :=
  if f.encoded then Percent.decodeByNumber f.value.toList else f.value.toList

/-- What stands behind the character set and the language, if they are there. -/
def behindLanguage (cs : List Char) : List Char :=
  match stretches (· == '\'') cs with
  | charset :: language :: _ :: _ => cs.drop (charset.length + language.length + 2)
  | _ => cs

/-- The value that the pieces of one name make. -/
def joined (fragments : List Fragment) : String :=
  let cs := (fragments.mergeSort before).flatMap chars
  String.ofList (if fragments.any encoded then behindLanguage cs else cs)

end Fragment

/-- Parameters with whole values; those that were cut come last. -/
def join (parameters : List (String × String)) : List (String × String) :=
  let fragments := parameters.filterMap fragment?
  let names := (fragments.map Fragment.name).eraseDups
  parameters.filter (fun p => (fragment? p).isNone)
    ++ names.map fun name => (name, Fragment.joined (fragments.filter fun f => f.name == name))

/-! ## Reading -/

/-- The value that a text writes. -/
def ofText (text : String) : Parametrized :=
  match (itemsFrom false [] text.toList).map item with
  | [] => ⟨("", ""), []⟩
  | (name, value) :: rest =>
    ⟨(name, unquote value), join (rest.map fun (name, value) => (name, unquote value))⟩

/-- The value of the last parameter of a name. -/
def last? (p : Parametrized) (name : String) : Option String :=
  (p.parameters.reverse.find? fun row => row.1 == name).map (·.2)

/-- The value of the first item of a name in small letters, be it the head. -/
def first? (p : Parametrized) (name : String) : Option String :=
  ((p.head :: p.parameters).find? fun row => Text.lower row.1 == name).map (·.2)

end Parametrized

end Splice.Web
