import Splice.Text.Charset.Backslash
import Splice.Text.Charset.Shifting

/-!
# Character sets of several octets

The sets in which a character may have several octets and which are no form of Unicode, with their
names. Names are in small letters, with underscores between their parts.
-/

namespace Splice

/-- A character set of several octets. -/
inductive SeveralOctets
  | chinese
  | extendedChinese
  | completeChinese
  | tildeChinese
  | traditional
  | vendorTraditional
  | korean
  | extendedKorean
  | escapedKorean
  | japanese
  | shiftedJapanese
  | vendorJapanese
  | escapedJapanese
  | escapedMoreJapanese
  | escapedAllJapanese
  /-- Latin characters, and others behind a backslash. -/
  | backslash
  /-- Latin characters, and others by their numbers behind a backslash. -/
  | rawBackslash
  deriving DecidableEq, Repr

namespace SeveralOctets

/-- The names of the sets, the usual one first. -/
def named : List (List String × SeveralOctets) :=
  [(["gb2312", "chinese", "csiso58gb231280", "euc_cn", "euccn", "eucgb2312_cn", "gb2312_1980",
      "gb2312_80", "iso_ir_58", "x_mac_simp_chinese"], chinese),
   (["gbk", "936", "cp936", "ms936"], extendedChinese),
   (["gb18030", "gb18030_2000"], completeChinese),
   (["hz", "hz_gb", "hz_gb_2312", "hzgb"], tildeChinese),
   (["big5", "big5_tw", "csbig5", "x_mac_trad_chinese"], traditional),
   (["cp950", "950", "ms950"], vendorTraditional),
   (["euc_kr", "euckr", "korean", "ks_c_5601", "ks_c_5601_1987", "ks_x_1001", "ksc5601", "ksx1001",
      "x_mac_korean"], korean),
   (["cp949", "949", "ms949", "uhc"], extendedKorean),
   (["iso2022_kr", "csiso2022kr", "iso2022kr", "iso_2022_kr"], escapedKorean),
   (["euc_jp", "eucjp", "u_jis", "ujis"], japanese),
   (["shift_jis", "csshiftjis", "s_jis", "shiftjis", "sjis", "x_mac_japanese"], shiftedJapanese),
   (["cp932", "932", "ms932", "ms_kanji", "mskanji"], vendorJapanese),
   (["iso2022_jp", "csiso2022jp", "iso2022jp", "iso_2022_jp"], escapedJapanese),
   (["iso2022_jp_1", "iso2022jp_1", "iso_2022_jp_1"], escapedMoreJapanese),
   (["iso2022_jp_ext", "iso2022jp_ext", "iso_2022_jp_ext"], escapedAllJapanese),
   (["unicode_escape"], backslash),
   (["raw_unicode_escape"], rawBackslash)]

/-- The set of a name. -/
def ofName? (name : String) : Option SeveralOctets :=
  (named.find? fun row => row.1.contains name).map (·.2)

/-- The usual name of a set. -/
def name (s : SeveralOctets) : String :=
  ((named.find? fun row => row.2 == s).bind (·.1.head?)).getD ""

open EastAsian

/-- The pieces of octets. -/
def pieces (s : SeveralOctets) (octets : Bytes) : List Piece :=
  match s with
  | chinese => Ahead.pieces (fun _ => look ascii? firstPair?) () octets
  | extendedChinese => Ahead.pieces (fun _ => look ascii? extendedPair?) () octets
  | completeChinese => Ahead.pieces (fun _ => lookComplete) () octets
  | tildeChinese => Tilde.pieces octets
  | traditional => Ahead.pieces (fun _ => look ascii? traditionalPair?) () octets
  | vendorTraditional => Ahead.pieces (fun _ => look ascii? vendorTraditionalPair?) () octets
  | korean => Ahead.pieces (fun _ => lookKorean) () octets
  | extendedKorean => Ahead.pieces (fun _ => look ascii? extendedKoreanPair?) () octets
  | escapedKorean => Escape.pieces Escape.korean octets
  | japanese => Ahead.pieces (fun _ => lookExtended) () octets
  | shiftedJapanese => Ahead.pieces (fun _ => look shiftedOctet? shiftedPair?) () octets
  | vendorJapanese => Ahead.pieces (fun _ => look vendorOctet? vendorPair?) () octets
  | escapedJapanese => Escape.pieces Escape.japanese octets
  | escapedMoreJapanese => Escape.pieces Escape.moreJapanese octets
  | escapedAllJapanese => Escape.pieces Escape.allJapanese octets
  | backslash => Ahead.pieces (fun _ => Backslash.look) () octets
  | rawBackslash => Ahead.pieces Backslash.lookRaw false octets

end SeveralOctets

end Splice
