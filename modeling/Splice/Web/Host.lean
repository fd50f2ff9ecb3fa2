import Splice.Text.Digit
import Splice.Text.Separated

/-!
# Hosts

A host is known by a name or by an address: four numbers with points between them, or in brackets up
to eight groups of hexadecimal digits with colons between them, where two colons on end stand for as
many groups of zeros as are missing. What looks like an address must be one.
-/

namespace Splice.Web.Host

/-- Whether characters are a number of an address. -/
def isNumber (cs : List Char) : Bool :=
  !cs.isEmpty && cs.length ≤ 3 && cs.all Char.isDigit && (cs == ['0'] || cs.head? != some '0')
    && (cs.foldl (fun n c => n * 10 + (c.toNat - '0'.toNat)) 0) ≤ 255

/-- Whether characters are an address of four numbers. -/
def isQuad (cs : List Char) : Bool :=
  let numbers := stretches (· == '.') cs
  numbers.length = 4 && numbers.all isNumber

/-- Whether characters are digits alone but for some places between them, each of one character. -/
def looksNumeric : Nat → List Char → Bool
  | 0, cs => !cs.isEmpty && cs.all Char.isDigit
  | places + 1, cs =>
    (List.range cs.length).any fun i =>
      0 < i && (cs.take i).all Char.isDigit && looksNumeric places (cs.drop (i + 1))

/-- Whether a host looks like an address of four numbers. -/
def looksQuad (cs : List Char) : Bool := looksNumeric 3 cs

/-- Whether characters are a group of an address. -/
def isGroup (cs : List Char) : Bool :=
  !cs.isEmpty && cs.length ≤ 4 && cs.all fun c => (Text.hexValue? c).isSome

/-- The groups of an address, with two in the place of four numbers at its end. -/
def groups (cs : List Char) : List (List Char) :=
  let groups := stretches (· == ':') cs
  match groups.getLast? with
  | some last => if isQuad last then groups.dropLast ++ [['0'], ['0']] else groups
  | none => groups

/-- Whether some groups are all of an address, or with two colons in one place. -/
def areGroups (groups : List (List Char)) : Bool :=
  let before := groups.takeWhile (! ·.isEmpty)
  let behind := (groups.reverse.takeWhile (! ·.isEmpty))
  if before.length = groups.length then groups.length = 8 && groups.all isGroup
  else
    let gap := groups.length - before.length - behind.length
    let edges := (if before.isEmpty then 1 else 0) + (if behind.isEmpty then 1 else 0)
    gap = 1 + edges && (before ++ behind).all isGroup && before.length + behind.length ≤ 7

/-- Whether characters are an address of groups; a percent sign opens the name of a zone. -/
def isGrouped (cs : List Char) : Bool :=
  let address := cs.takeWhile (· != '%')
  let zone := cs.drop (address.length + 1)
  (address.length = cs.length || (!zone.isEmpty && !zone.contains '%')) &&
    3 ≤ (stretches (· == ':') address).length && areGroups (groups address)

end Splice.Web.Host
