import BearerAuth.Text.Charset.Chinese
import BearerAuth.Text.Charset.Japanese
import BearerAuth.Text.Charset.Korean
import BearerAuth.Text.Charset.SingleOctet
import BearerAuth.Text.Charset.Unicode

/-!
# Charsets

A charset says which text octets write. It is named by a label, in which case is of no account.
Octets that begin with the mark of a form of Unicode write in that form, whatever the charset.
-/

namespace BearerAuth.Text

/-- How octets write a text. -/
inductive Charset
  | utf8
  | utf16 (bigEndian : Bool)
  /-- The octets of ASCII and the characters of the last octets. -/
  | singleOctet (upper : String)
  /-- The octets of ASCII and octets of private use. -/
  | privateUse
  | shiftJis
  | eucJp
  | iso2022Jp
  | gb18030
  | big5
  | eucKr
  /-- A charset that is not read. -/
  | unreadable
  deriving DecidableEq, Repr

namespace Charset

def labels : List (Charset × List String) :=
  [(.utf8, ["unicode-1-1-utf-8", "unicode11utf8", "unicode20utf8", "utf-8", "utf8",
      "x-unicode20utf8"]),
    (.singleOctet Upper.ibm866, ["866", "cp866", "csibm866", "ibm866"]),
    (.singleOctet Upper.iso8859_2, ["csisolatin2", "iso-8859-2", "iso-ir-101", "iso8859-2",
      "iso88592", "iso_8859-2", "iso_8859-2:1987", "l2", "latin2"]),
    (.singleOctet Upper.iso8859_3, ["csisolatin3", "iso-8859-3", "iso-ir-109", "iso8859-3",
      "iso88593", "iso_8859-3", "iso_8859-3:1988", "l3", "latin3"]),
    (.singleOctet Upper.iso8859_4, ["csisolatin4", "iso-8859-4", "iso-ir-110", "iso8859-4",
      "iso88594", "iso_8859-4", "iso_8859-4:1988", "l4", "latin4"]),
    (.singleOctet Upper.iso8859_5, ["csisolatincyrillic", "cyrillic", "iso-8859-5", "iso-ir-144",
      "iso8859-5", "iso88595", "iso_8859-5", "iso_8859-5:1988"]),
    (.singleOctet Upper.iso8859_6, ["arabic", "asmo-708", "csiso88596e", "csiso88596i",
      "csisolatinarabic", "ecma-114", "iso-8859-6", "iso-8859-6-e", "iso-8859-6-i", "iso-ir-127",
      "iso8859-6", "iso88596", "iso_8859-6", "iso_8859-6:1987"]),
    (.singleOctet Upper.iso8859_7, ["csisolatingreek", "ecma-118", "elot_928", "greek", "greek8",
      "iso-8859-7", "iso-ir-126", "iso8859-7", "iso88597", "iso_8859-7", "iso_8859-7:1987",
      "sun_eu_greek"]),
    (.singleOctet Upper.iso8859_8, ["csiso88598e", "csisolatinhebrew", "hebrew", "iso-8859-8",
      "iso-8859-8-e", "iso-ir-138", "iso8859-8", "iso88598", "iso_8859-8", "iso_8859-8:1988",
      "visual", "csiso88598i", "iso-8859-8-i", "logical"]),
    (.singleOctet Upper.iso8859_10, ["csisolatin6", "iso-8859-10", "iso-ir-157", "iso8859-10",
      "iso885910", "l6", "latin6"]),
    (.singleOctet Upper.iso8859_13, ["iso-8859-13", "iso8859-13", "iso885913"]),
    (.singleOctet Upper.iso8859_14, ["iso-8859-14", "iso8859-14", "iso885914"]),
    (.singleOctet Upper.iso8859_15, ["csisolatin9", "iso-8859-15", "iso8859-15", "iso885915",
      "iso_8859-15", "l9"]),
    (.singleOctet Upper.iso8859_16, ["iso-8859-16"]),
    (.singleOctet Upper.koi8r, ["cskoi8r", "koi", "koi8", "koi8-r", "koi8_r"]),
    (.singleOctet Upper.koi8u, ["koi8-ru", "koi8-u"]),
    (.singleOctet Upper.macintosh, ["csmacintosh", "mac", "macintosh", "x-mac-roman"]),
    (.singleOctet Upper.windows874, ["dos-874", "iso-8859-11", "iso8859-11", "iso885911",
      "tis-620", "windows-874"]),
    (.singleOctet Upper.windows1250, ["cp1250", "windows-1250", "x-cp1250"]),
    (.singleOctet Upper.windows1251, ["cp1251", "windows-1251", "x-cp1251"]),
    (.singleOctet Upper.windows1252, ["ansi_x3.4-1968", "ascii", "cp1252", "cp819",
      "csisolatin1", "ibm819", "iso-8859-1", "iso-ir-100", "iso8859-1", "iso88591", "iso_8859-1",
      "iso_8859-1:1987", "l1", "latin1", "us-ascii", "windows-1252", "x-cp1252"]),
    (.singleOctet Upper.windows1253, ["cp1253", "windows-1253", "x-cp1253"]),
    (.singleOctet Upper.windows1254, ["cp1254", "csisolatin5", "iso-8859-9", "iso-ir-148",
      "iso8859-9", "iso88599", "iso_8859-9", "iso_8859-9:1989", "l5", "latin5", "windows-1254",
      "x-cp1254"]),
    (.singleOctet Upper.windows1255, ["cp1255", "windows-1255", "x-cp1255"]),
    (.singleOctet Upper.windows1256, ["cp1256", "windows-1256", "x-cp1256"]),
    (.singleOctet Upper.windows1257, ["cp1257", "windows-1257", "x-cp1257"]),
    (.singleOctet Upper.windows1258, ["cp1258", "windows-1258", "x-cp1258"]),
    (.singleOctet Upper.macCyrillic, ["x-mac-cyrillic", "x-mac-ukrainian"]),
    (.gb18030, ["chinese", "csgb2312", "csiso58gb231280", "gb2312", "gb_2312", "gb_2312-80",
      "gbk", "iso-ir-58", "x-gbk", "gb18030"]),
    (.big5, ["big5", "big5-hkscs", "cn-big5", "csbig5", "x-x-big5"]),
    (.eucJp, ["cseucpkdfmtjapanese", "euc-jp", "x-euc-jp"]),
    (.iso2022Jp, ["csiso2022jp", "iso-2022-jp"]),
    (.shiftJis, ["csshiftjis", "ms932", "ms_kanji", "shift-jis", "shift_jis", "sjis",
      "windows-31j", "x-sjis"]),
    (.eucKr, ["cseuckr", "csksc56011987", "euc-kr", "iso-ir-149", "korean", "ks_c_5601-1987",
      "ks_c_5601-1989", "ksc5601", "ksc_5601", "windows-949"]),
    (.unreadable, ["csiso2022kr", "hz-gb-2312", "iso-2022-cn", "iso-2022-cn-ext", "iso-2022-kr",
      "replacement"]),
    (.utf16 true, ["unicodefffe", "utf-16be"]),
    (.utf16 false, ["csunicode", "iso-10646-ucs-2", "ucs-2", "unicode", "unicodefeff", "utf-16",
      "utf-16le"]),
    (.privateUse, ["x-user-defined"])]

/-- Whether a character may stand around a label. -/
def isBlank (c : Char) : Bool :=
  c = ' ' || c = '\t' || c = '\n' || c = '\r' || c = '\x0c'

def ofLabel? (label : List Char) : Option Charset :=
  let bare := ((label.dropWhile isBlank).reverse.dropWhile isBlank).reverse
  let lower := String.ofList (bare.map Char.toLower)
  (labels.find? (·.2.contains lower)).map (·.1)

/-- The text that octets without a mark write. -/
def decodeUnmarked (charset : Charset) (b : Bytes) : List Char :=
  match charset with
  | utf8 => decodeUtf8 b
  | utf16 bigEndian => decodeUtf16 bigEndian none b
  | singleOctet upper => decodeSingle upper b
  | privateUse => decodePrivate b
  | shiftJis => decodeShiftJis b
  | eucJp => decodeEucJp b
  | iso2022Jp => decodeIso2022Jp b
  | gb18030 => decodeGb18030 b
  | big5 => decodeBig5 b
  | eucKr => decodeEucKr b
  | unreadable => if b.isEmpty then [] else [replacement]

def decode (charset : Charset) (b : Bytes) : String :=
  String.ofList <|
    match b with
    | 0xef :: 0xbb :: 0xbf :: rest => decodeUtf8 rest
    | 0xff :: 0xfe :: rest => decodeUtf16 false none rest
    | 0xfe :: 0xff :: rest => decodeUtf16 true none rest
    | _ => charset.decodeUnmarked b

end Charset

end BearerAuth.Text
