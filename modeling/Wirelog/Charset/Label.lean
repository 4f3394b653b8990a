import Wirelog.Charset.MultiByte
import Wirelog.Charset.SingleByte
import Wirelog.Charset.Unicode
import Wirelog.Text.Ascii
import Wirelog.Text.Blank
import Wirelog.Text.Utf8
/-!
The charsets that bodies may declare, with the labels that stand for them. A charset either decodes
the whole of a body or refuses it: nothing is replaced, and no byte order mark overrides the label.
-/
namespace Wirelog

/-- How the octets of a charset become characters. -/
inductive Charset.Scheme where
  | utf8
  | utf16 (bigEndian : Bool)
  | userDefined
  | gb18030
  | big5
  | eucJp
  | iso2022Jp
  | shiftJis
  | eucKr
  /-- ASCII with an upper half of its own. -/
  | table (upper : String)
  /-- A charset that is not safe to decode; only nothing decodes to nothing. -/
  | refused

/-- A charset. -/
structure Charset where
  /-- Its usual name. -/
  name : String
  /-- How it is decoded. -/
  scheme : Charset.Scheme
  /-- The labels that stand for it, in lower case. -/
  labels : List String

namespace Charset

/-- Unicode in 8-bit units, the charset of formats that say nothing else. -/
def utf8 : Charset :=
  ⟨"UTF-8", .utf8, ["unicode-1-1-utf-8", "unicode11utf8", "unicode20utf8", "utf-8", "utf8",
    "x-unicode20utf8"]⟩

/-- Western European, the charset of text that says nothing else. -/
def windows1252 : Charset :=
  ⟨"windows-1252", .table SingleByte.windows1252, ["ansi_x3.4-1968", "ascii", "cp1252", "cp819",
    "csisolatin1", "ibm819", "iso-8859-1", "iso-ir-100", "iso8859-1", "iso88591", "iso_8859-1",
    "iso_8859-1:1987", "l1", "latin1", "us-ascii", "windows-1252", "x-cp1252"]⟩

/-- The other charsets whose characters take one octet. -/
def singleByte : List Charset :=
  [ ⟨"IBM866", .table SingleByte.ibm866, ["866", "cp866", "csibm866", "ibm866"]⟩,
    ⟨"ISO-8859-2", .table SingleByte.iso8859n2, ["csisolatin2", "iso-8859-2", "iso-ir-101",
      "iso8859-2", "iso88592", "iso_8859-2", "iso_8859-2:1987", "l2", "latin2"]⟩,
    ⟨"ISO-8859-3", .table SingleByte.iso8859n3, ["csisolatin3", "iso-8859-3", "iso-ir-109",
      "iso8859-3", "iso88593", "iso_8859-3", "iso_8859-3:1988", "l3", "latin3"]⟩,
    ⟨"ISO-8859-4", .table SingleByte.iso8859n4, ["csisolatin4", "iso-8859-4", "iso-ir-110",
      "iso8859-4", "iso88594", "iso_8859-4", "iso_8859-4:1988", "l4", "latin4"]⟩,
    ⟨"ISO-8859-5", .table SingleByte.iso8859n5, ["csisolatincyrillic", "cyrillic", "iso-8859-5",
      "iso-ir-144", "iso8859-5", "iso88595", "iso_8859-5", "iso_8859-5:1988"]⟩,
    ⟨"ISO-8859-6", .table SingleByte.iso8859n6, ["arabic", "asmo-708", "csiso88596e",
      "csiso88596i", "csisolatinarabic", "ecma-114", "iso-8859-6", "iso-8859-6-e", "iso-8859-6-i",
      "iso-ir-127", "iso8859-6", "iso88596", "iso_8859-6", "iso_8859-6:1987"]⟩,
    ⟨"ISO-8859-7", .table SingleByte.iso8859n7, ["csisolatingreek", "ecma-118", "elot_928",
      "greek", "greek8", "iso-8859-7", "iso-ir-126", "iso8859-7", "iso88597", "iso_8859-7",
      "iso_8859-7:1987", "sun_eu_greek"]⟩,
    ⟨"ISO-8859-8", .table SingleByte.iso8859n8, ["csiso88598e", "csisolatinhebrew", "hebrew",
      "iso-8859-8", "iso-8859-8-e", "iso-ir-138", "iso8859-8", "iso88598", "iso_8859-8",
      "iso_8859-8:1988", "visual"]⟩,
    ⟨"ISO-8859-8-I", .table SingleByte.iso8859n8, ["csiso88598i", "iso-8859-8-i", "logical"]⟩,
    ⟨"ISO-8859-10", .table SingleByte.iso8859n10, ["csisolatin6", "iso-8859-10", "iso-ir-157",
      "iso8859-10", "iso885910", "l6", "latin6"]⟩,
    ⟨"ISO-8859-13", .table SingleByte.iso8859n13, ["iso-8859-13", "iso8859-13", "iso885913"]⟩,
    ⟨"ISO-8859-14", .table SingleByte.iso8859n14, ["iso-8859-14", "iso8859-14", "iso885914"]⟩,
    ⟨"ISO-8859-15", .table SingleByte.iso8859n15, ["csisolatin9", "iso-8859-15", "iso8859-15",
      "iso885915", "iso_8859-15", "l9"]⟩,
    ⟨"ISO-8859-16", .table SingleByte.iso8859n16, ["iso-8859-16"]⟩,
    ⟨"KOI8-R", .table SingleByte.koi8r, ["cskoi8r", "koi", "koi8", "koi8-r", "koi8_r"]⟩,
    ⟨"KOI8-U", .table SingleByte.koi8u, ["koi8-ru", "koi8-u"]⟩,
    ⟨"macintosh", .table SingleByte.macRoman, ["csmacintosh", "mac", "macintosh", "x-mac-roman"]⟩,
    ⟨"windows-874", .table SingleByte.windows874, ["dos-874", "iso-8859-11", "iso8859-11",
      "iso885911", "tis-620", "windows-874"]⟩,
    ⟨"windows-1250", .table SingleByte.windows1250, ["cp1250", "windows-1250", "x-cp1250"]⟩,
    ⟨"windows-1251", .table SingleByte.windows1251, ["cp1251", "windows-1251", "x-cp1251"]⟩,
    ⟨"windows-1253", .table SingleByte.windows1253, ["cp1253", "windows-1253", "x-cp1253"]⟩,
    ⟨"windows-1254", .table SingleByte.windows1254, ["cp1254", "csisolatin5", "iso-8859-9",
      "iso-ir-148", "iso8859-9", "iso88599", "iso_8859-9", "iso_8859-9:1989", "l5", "latin5",
      "windows-1254", "x-cp1254"]⟩,
    ⟨"windows-1255", .table SingleByte.windows1255, ["cp1255", "windows-1255", "x-cp1255"]⟩,
    ⟨"windows-1256", .table SingleByte.windows1256, ["cp1256", "windows-1256", "x-cp1256"]⟩,
    ⟨"windows-1257", .table SingleByte.windows1257, ["cp1257", "windows-1257", "x-cp1257"]⟩,
    ⟨"windows-1258", .table SingleByte.windows1258, ["cp1258", "windows-1258", "x-cp1258"]⟩,
    ⟨"x-mac-cyrillic", .table SingleByte.macCyrillic, ["x-mac-cyrillic", "x-mac-ukrainian"]⟩ ]

/-- The charsets with longer characters, and the one that is never decoded. -/
def multiByte : List Charset :=
  [ ⟨"GBK", .gb18030, ["chinese", "csgb2312", "csiso58gb231280", "gb2312", "gb_2312", "gb_2312-80",
      "gbk", "iso-ir-58", "x-gbk"]⟩,
    ⟨"gb18030", .gb18030, ["gb18030"]⟩,
    ⟨"Big5", .big5, ["big5", "big5-hkscs", "cn-big5", "csbig5", "x-x-big5"]⟩,
    ⟨"EUC-JP", .eucJp, ["cseucpkdfmtjapanese", "euc-jp", "x-euc-jp"]⟩,
    ⟨"ISO-2022-JP", .iso2022Jp, ["csiso2022jp", "iso-2022-jp"]⟩,
    ⟨"Shift_JIS", .shiftJis, ["csshiftjis", "ms932", "ms_kanji", "shift-jis", "shift_jis", "sjis",
      "windows-31j", "x-sjis"]⟩,
    ⟨"EUC-KR", .eucKr, ["cseuckr", "csksc56011987", "euc-kr", "iso-ir-149", "korean",
      "ks_c_5601-1987", "ks_c_5601-1989", "ksc5601", "ksc_5601", "windows-949"]⟩,
    ⟨"replacement", .refused, ["csiso2022kr", "hz-gb-2312", "iso-2022-cn", "iso-2022-cn-ext",
      "iso-2022-kr", "replacement"]⟩,
    ⟨"UTF-16BE", .utf16 true, ["unicodefffe", "utf-16be"]⟩,
    ⟨"UTF-16LE", .utf16 false, ["csunicode", "iso-10646-ucs-2", "ucs-2", "unicode", "unicodefeff",
      "utf-16", "utf-16le"]⟩,
    ⟨"x-user-defined", .userDefined, ["x-user-defined"]⟩ ]

/-- All charsets. -/
def all : List Charset :=
  utf8 :: windows1252 :: singleByte ++ multiByte

/-- The blanks that may stand around a label. -/
def isLabelBlank (c : Char) : Bool :=
  c == ' ' || c == '\t' || c == '\n' || c == '\r' || c == '\x0c'

/-- The charset that a label stands for. -/
def ofLabel? (label : String) : Option Charset :=
  let core := Text.dropTail isLabelBlank (Text.dropLead isLabelBlank label.toList)
  let lower := Text.asciiLower (String.ofList core)
  all.find? fun c => c.labels.contains lower

/-- The text of octets; `none` when they are not text in the charset. -/
def decode (c : Charset) (b : Bytes) : Option String :=
  match c.scheme with
  | .utf8 => b.toText?
  | .utf16 bigEndian => (decodeUtf16 bigEndian b.octets).map String.ofList
  | .userDefined => some (String.ofList (decodeUserDefined b.octets))
  | .gb18030 => (Guobiao.decode b.octets).map String.ofList
  | .big5 => (BigFive.decode b.octets).map String.ofList
  | .eucJp => (EucJp.decode b.octets).map String.ofList
  | .iso2022Jp => (Iso2022Jp.decode b.octets).map String.ofList
  | .shiftJis => (ShiftJis.decode b.octets).map String.ofList
  | .eucKr => (EucKr.decode b.octets).map String.ofList
  | .table upper => (SingleByte.decode upper b.octets).map String.ofList
  | .refused => if b.isEmpty then some "" else none

end Charset
end Wirelog
