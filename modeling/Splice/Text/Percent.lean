import Splice.Text.Digit
import Splice.Text.Quoted
import Splice.Text.Utf8

/-!
# Percent encoding

An octet that cannot stand for itself travels as a percent sign and two hexadecimal digits. On
arrival such a triple becomes the octet again, and the octets become a text; a percent sign without
two digits behind it stands for itself. An encoded octet is always read back
(`octets_encodeOctet`).
-/

namespace Splice.Percent

/-- An octet, percent-encoded. -/
def encodeOctet (b : UInt8) : List Char :=
  '%' :: (Text.hexDigits 2 b.toNat).map Char.toUpper

/-- The octets that characters stand for, behind some others, last first. -/
def octetsBehind (done : Bytes) : List Char → Bytes
  | '%' :: a :: b :: rest =>
    match Text.hexValue? a, Text.hexValue? b with
    | some high, some low => octetsBehind ((high * 16 + low).toUInt8 :: done) rest
    | _, _ => octetsBehind (0x25 :: done) (a :: b :: rest)
  | c :: rest => octetsBehind ((Bytes.ofString (String.singleton c)).reverse ++ done) rest
  | [] => done.reverse

/-- The octets that characters stand for. -/
def octets (cs : List Char) : Bytes := octetsBehind [] cs

/-- The characters whose numbers stand percent-encoded, among others that stand for themselves. -/
def decodeByNumber : List Char → List Char
  | '%' :: a :: b :: rest =>
    match Text.hexValue? a, Text.hexValue? b with
    | some high, some low => Char.ofNat (high * 16 + low) :: decodeByNumber rest
    | _, _ => '%' :: decodeByNumber (a :: b :: rest)
  | c :: rest => c :: decodeByNumber rest
  | [] => []

/-- The digits of an octet have the values that they were made from. -/
theorem hexValue?_digitChar : ∀ n < 16, Text.hexValue? (Nat.digitChar n).toUpper = some n := by
  decide

/-- The octets that were read first stay in front. -/
theorem octetsBehind_append (done before : Bytes) (cs : List Char) :
    octetsBehind (done ++ before) cs = before.reverse ++ octetsBehind done cs := by
  fun_induction octetsBehind done cs with
  | case1 done a b rest high low isHigh isLow ih => simpa [octetsBehind, isHigh, isLow] using ih
  | case2 done a b rest noPair ih =>
    rw [← ih, octetsBehind]
    split
    next high low isHigh isLow => exact absurd isLow (noPair high low isHigh)
    next => rfl
  | case3 done c rest noTriple ih => simpa [octetsBehind, noTriple] using ih
  | case4 done => simp [octetsBehind]

/-- An encoded octet is read back, whatever stands behind it. -/
theorem octets_encodeOctet (b : UInt8) (rest : List Char) :
    octets (encodeOctet b ++ rest) = b :: octets rest := by
  have size : b.toNat < 256 := b.toNat_lt
  have high := hexValue?_digitChar (b.toNat / 16 % 16) (Nat.mod_lt _ (by decide))
  have low := hexValue?_digitChar (b.toNat % 16) (Nat.mod_lt _ (by decide))
  have whole : b.toNat / 16 % 16 * 16 + b.toNat % 16 = b.toNat := by omega
  have digits : encodeOctet b =
      ['%', (Nat.digitChar (b.toNat / 16 % 16)).toUpper, (Nat.digitChar (b.toNat % 16)).toUpper] := by
    simp [encodeOctet, Text.hexDigits, List.range, List.range.loop]
  rw [digits]
  simp only [List.cons_append, List.nil_append, octets, octetsBehind, high, low, whole]
  simpa using octetsBehind_append [] [b.toNat.toUInt8] rest

/-- The text that a percent-encoded one stands for. -/
def decode (text : String) : String := Utf8.lossy (octets text.toList)

end Splice.Percent
