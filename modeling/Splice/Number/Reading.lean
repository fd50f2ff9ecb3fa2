import Splice.Json.Reader
import Splice.Text.Blank
import Splice.Text.Digit

/-!
# Reading numbers from text

A decimal number is an optional sign with `inf`, `infinity` or `nan` in any case, or with digits
that may have a point and an exponent. Texts come from two sides. A *setting* may use the decimal
digits of any script and single underscores between digits. A *payload* uses the digits `0` to `9`,
and is generous about underscores and, for an integer, about zeros in front and a fraction of
zeros. Both may have white space around them.
-/

namespace Splice.Number

/-! ## The common grammar -/

/-- A sign at the front, and what remains. -/
def scanSign : List Char → Bool × List Char
  | '+' :: rest => (false, rest)
  | '-' :: rest => (true, rest)
  | rest => (false, rest)

/-- The number that digits with an optional point and exponent write. -/
def decimal? (negative : Bool) (cs : List Char) : Option Float :=
  let (whole, rest) := Json.scanDigits cs
  let (places, rest) := match rest with
    | '.' :: rest => Json.scanDigits rest
    | rest => ([], rest)
  if whole.isEmpty && places.isEmpty then none
  else
    match Json.scanExponent rest with
    | (exponent, []) =>
      some (Binary64.ofDecimal negative (Json.decimalValue (whole ++ places))
        (exponent.getD 0 - places.length))
    | _ => none

/-- The number that characters write. -/
def ofChars? (cs : List Char) : Option Float :=
  let (negative, unsigned) := scanSign cs
  let word := String.ofList (unsigned.map Char.toLower)
  if word == "inf" || word == "infinity" then some (Binary64.infinity negative)
  else if word == "nan" then some Binary64.notANumber
  else decimal? negative unsigned

/-! ## Settings -/

/-- The characters of a setting without white space around them, digits of all scripts as the
digits `0` to `9`. -/
def settingChars (text : String) : List Char :=
  (Text.trimWhile Text.isWhite text.toList).map fun c =>
    if c.toNat < 0x80 then c else ((Text.digitValue? c).map Nat.digitChar).getD c

/-- The characters without underscores, if each of these stands between two digits; `previous` is
the character before. -/
def joinDigits? (previous : Char) : List Char → Option (List Char)
  | [] => if previous == '_' then none else some []
  | c :: rest =>
    if c == '_' then
      if previous.isDigit then joinDigits? c rest else none
    else if previous == '_' && !c.isDigit then none
    else (joinDigits? c rest).map (c :: ·)

/-- The number that a setting writes. -/
def ofSetting? (text : String) : Option Float :=
  (joinDigits? ' ' (settingChars text)).bind ofChars?

/-- Why a setting writes no integer. -/
inductive IntegerRefusal
  | unreadable
  | long (digits : Nat)
  deriving DecidableEq, Repr

/-- The integer that a setting writes. -/
def integerOfSetting (text : String) : Except IntegerRefusal Int :=
  let (negative, unsigned) := scanSign (settingChars text)
  let numeral := unsigned.takeWhile fun c => c.isDigit || c == '_'
  match joinDigits? ' ' numeral with
  | none => .error .unreadable
  | some digits =>
    if Json.mostDigits < digits.length then .error (.long digits.length)
    else if digits.isEmpty || numeral.length < unsigned.length then .error .unreadable
    else
      let n : Int := Json.decimalValue digits
      .ok (if negative then -n else n)

/-! ## Payloads -/

/-- Whether two underscores stand side by side. -/
def hasDoubleUnderscore : List Char → Bool
  | '_' :: '_' :: _ => true
  | _ :: rest => hasDoubleUnderscore rest
  | [] => false

/-- The characters without underscores, if there are some, none of them at either end and no two
side by side. -/
def dropUnderscores? (cs : List Char) : Option (List Char) :=
  if cs.contains '_' && cs.head? != some '_' && cs.getLast? != some '_' && !hasDoubleUnderscore cs
  then some (cs.filter (· != '_'))
  else none

/-- The number that a text in a payload writes: white space may stand around it or underscores
inside it, but not both. -/
def ofPayload? (text : String) : Option Float :=
  match ofChars? (Text.trimWhile Text.isWhite text.toList) with
  | some x => some x
  | none => (dropUnderscores? text.toList).bind ofChars?

/-- Why a text in a payload writes no integer. -/
inductive PayloadRefusal
  | unreadable
  | oversized
  deriving DecidableEq, Repr

/-- The integer that a sign and the characters behind it write in full: digits without superfluous
zeros in front. -/
def plainDigits (negative : Bool) (cs : List Char) : Except PayloadRefusal Int :=
  let digits := cs.takeWhile Char.isDigit
  if cs = ['0'] then .ok 0
  else if digits.isEmpty || digits.head? == some '0' then .error .unreadable
  else if Json.mostDigits < digits.length then .error .oversized
  else if digits.length < cs.length then .error .unreadable
  else
    let n : Int := Json.decimalValue digits
    .ok (if negative then -n else n)

/-- The integer that characters write in full, without anything superfluous. -/
def plainInteger : List Char → Except PayloadRefusal Int
  | '-' :: rest => plainDigits true rest
  | cs => plainDigits false cs

/-- Whether a numeral can go on with a character after its zeros in front. -/
def opensNumeral (c : Char) : Bool := c.isDigit || c == '-'

/-- A numeral without the zeros in front of it, among which underscores may stand; the last one
stays where nothing else would, and in front of a point. -/
def dropLeadingZeros? (cs : List Char) : Option (List Char) :=
  match cs with
  | '0' :: _ =>
    let zeros := cs.takeWhile fun c => c == '0' || c == '_'
    match cs.drop zeros.length with
    | [] => some (zeros.drop (zeros.length - 1))
    | '.' :: rest => some (zeros.drop (zeros.length - 1) ++ '.' :: rest)
    | c :: rest => if opensNumeral c then some (c :: rest) else none
  | c :: _ => if opensNumeral c then some cs else none
  | [] => none

/-- A numeral without a fraction of zeros; a point with nothing behind it stays. -/
def dropZeroFraction (cs : List Char) : List Char :=
  let whole := cs.takeWhile (· != '.')
  let places := cs.drop (whole.length + 1)
  if !places.isEmpty && places.all (· == '0') then whole else cs

/-- A numeral without a plus sign, unless a minus sign follows on it. -/
def dropPlus? : List Char → Option (List Char)
  | '+' :: '-' :: _ => none
  | '+' :: rest => some rest
  | cs => some cs

/-- A numeral without what may be superfluous behind a minus sign or in its place: zeros in front, a
fraction of zeros and underscores, taken away one after the other. -/
def tidyDigits? (cs : List Char) : Option (List Char) :=
  (dropLeadingZeros? cs).map fun numeral =>
    let whole := dropZeroFraction numeral
    (dropUnderscores? whole).getD whole

/-- A numeral without what may be superfluous, which is also white space and a plus sign. -/
def tidy? (cs : List Char) : Option (List Char) :=
  (dropPlus? (Text.trimWhile Text.isWhite cs)).bind fun
    | '-' :: rest => (tidyDigits? rest).map ('-' :: ·)
    | rest => tidyDigits? rest

/-- The integer that a text in a payload writes. Only a text that has nothing superfluous is
refused for its size. -/
def integerOfPayload (text : String) : Except PayloadRefusal Int :=
  match plainInteger text.toList with
  | .error .unreadable =>
    match (tidy? text.toList).map plainInteger with
    | some (.ok n) => .ok n
    | _ => .error .unreadable
  | outcome => outcome

end Splice.Number
