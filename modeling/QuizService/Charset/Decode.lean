import QuizService.Charset.Basic
import QuizService.Charset.Chinese
import QuizService.Charset.Japanese
import QuizService.Charset.Table.KsX1001
import QuizService.Charset.Table.SingleByte
import QuizService.Text.Utf8

namespace QuizService.Charset.EucKr

def char? (lead trail : Nat) : Option Char :=
  if isIn 0x41 0xFE trail then ksX1001.get? ((lead - 0x81) * 190 + (trail - 0x41)) else none

def step : Step := fun lead rest =>
  if lead < 0x80 then one lead
  else if isIn 0x81 0xFE lead then
    match rest with
    | [] => lone
    | trail :: _ => pair trail (char? lead trail)
  else lone

end QuizService.Charset.EucKr

namespace QuizService.Charset

open SingleByte

def labels : List (List String × Charset) :=
  [(["unicode-1-1-utf-8", "unicode11utf8", "unicode20utf8", "utf-8", "utf8", "x-unicode20utf8"],
      .utf8),
    (["866", "cp866", "csibm866", "ibm866"], .oneByte ibm866),
    (["csisolatin2", "iso-8859-2", "iso-ir-101", "iso8859-2", "iso88592", "iso_8859-2",
      "iso_8859-2:1987", "l2", "latin2"], .oneByte iso88592),
    (["csisolatin3", "iso-8859-3", "iso-ir-109", "iso8859-3", "iso88593", "iso_8859-3",
      "iso_8859-3:1988", "l3", "latin3"], .oneByte iso88593),
    (["csisolatin4", "iso-8859-4", "iso-ir-110", "iso8859-4", "iso88594", "iso_8859-4",
      "iso_8859-4:1988", "l4", "latin4"], .oneByte iso88594),
    (["csisolatincyrillic", "cyrillic", "iso-8859-5", "iso-ir-144", "iso8859-5", "iso88595",
      "iso_8859-5", "iso_8859-5:1988"], .oneByte iso88595),
    (["arabic", "asmo-708", "csiso88596e", "csiso88596i", "csisolatinarabic", "ecma-114",
      "iso-8859-6", "iso-8859-6-e", "iso-8859-6-i", "iso-ir-127", "iso8859-6", "iso88596",
      "iso_8859-6", "iso_8859-6:1987"], .oneByte iso88596),
    (["csisolatingreek", "ecma-118", "elot_928", "greek", "greek8", "iso-8859-7", "iso-ir-126",
      "iso8859-7", "iso88597", "iso_8859-7", "iso_8859-7:1987", "sun_eu_greek"], .oneByte iso88597),
    (["csiso88598e", "csisolatinhebrew", "hebrew", "iso-8859-8", "iso-8859-8-e", "iso-ir-138",
      "iso8859-8", "iso88598", "iso_8859-8", "iso_8859-8:1988", "visual", "csiso88598i",
      "iso-8859-8-i", "logical"], .oneByte iso88598),
    (["csisolatin6", "iso-8859-10", "iso-ir-157", "iso8859-10", "iso885910", "l6", "latin6"],
      .oneByte iso885910),
    (["iso-8859-13", "iso8859-13", "iso885913"], .oneByte iso885913),
    (["iso-8859-14", "iso8859-14", "iso885914"], .oneByte iso885914),
    (["csisolatin9", "iso-8859-15", "iso8859-15", "iso885915", "iso_8859-15", "l9"],
      .oneByte iso885915),
    (["iso-8859-16"], .oneByte iso885916),
    (["cskoi8r", "koi", "koi8", "koi8-r", "koi8_r"], .oneByte koi8R),
    (["koi8-ru", "koi8-u"], .oneByte koi8U),
    (["csmacintosh", "mac", "macintosh", "x-mac-roman"], .oneByte macintosh),
    (["dos-874", "iso-8859-11", "iso8859-11", "iso885911", "tis-620", "windows-874"],
      .oneByte windows874),
    (["cp1250", "windows-1250", "x-cp1250"], .oneByte windows1250),
    (["cp1251", "windows-1251", "x-cp1251"], .oneByte windows1251),
    (["ansi_x3.4-1968", "ascii", "cp1252", "cp819", "csisolatin1", "ibm819", "iso-8859-1",
      "iso-ir-100", "iso8859-1", "iso88591", "iso_8859-1", "iso_8859-1:1987", "l1", "latin1",
      "us-ascii", "windows-1252", "x-cp1252"], .oneByte windows1252),
    (["cp1253", "windows-1253", "x-cp1253"], .oneByte windows1253),
    (["cp1254", "csisolatin5", "iso-8859-9", "iso-ir-148", "iso8859-9", "iso88599",
      "iso_8859-9", "iso_8859-9:1989", "l5", "latin5", "windows-1254", "x-cp1254"],
      .oneByte windows1254),
    (["cp1255", "windows-1255", "x-cp1255"], .oneByte windows1255),
    (["cp1256", "windows-1256", "x-cp1256"], .oneByte windows1256),
    (["cp1257", "windows-1257", "x-cp1257"], .oneByte windows1257),
    (["cp1258", "windows-1258", "x-cp1258"], .oneByte windows1258),
    (["x-mac-cyrillic", "x-mac-ukrainian"], .oneByte xMacCyrillic),
    (["chinese", "csgb2312", "csiso58gb231280", "gb18030", "gb2312", "gb_2312", "gb_2312-80",
      "gbk", "iso-ir-58", "x-gbk"], .gb18030),
    (["big5", "big5-hkscs", "cn-big5", "csbig5", "x-x-big5"], .big5),
    (["cseucpkdfmtjapanese", "euc-jp", "x-euc-jp"], .eucJp),
    (["csiso2022jp", "iso-2022-jp"], .iso2022Jp),
    (["csshiftjis", "ms932", "ms_kanji", "shift-jis", "shift_jis", "sjis", "windows-31j",
      "x-sjis"], .shiftJis),
    (["cseuckr", "csksc56011987", "euc-kr", "iso-ir-149", "korean", "ks_c_5601-1987",
      "ks_c_5601-1989", "ksc5601", "ksc_5601", "windows-949"], .eucKr),
    (["csiso2022kr", "hz-gb-2312", "iso-2022-cn", "iso-2022-cn-ext", "iso-2022-kr",
      "replacement"], .refused),
    (["unicodefffe", "utf-16be"], .utf16 true),
    (["csunicode", "iso-10646-ucs-2", "ucs-2", "unicode", "unicodefeff", "utf-16", "utf-16le"],
      .utf16 false),
    (["x-user-defined"], .userDefined)]

def isBlank (c : Char) : Bool :=
  c ∈ ['\t', '\n', '\x0c', '\r', ' ']

def ofLabel? (label : List Char) : Option Charset :=
  let bare := ((label.dropWhile isBlank).reverse.dropWhile isBlank).reverse
  let name := String.ofList (bare.map Char.toLower)
  (labels.find? fun p => name ∈ p.1).map Prod.snd

def readBare (c : Charset) (bytes : List UInt8) : List Char :=
  let numbers := bytes.map UInt8.toNat
  match c with
  | .utf8 => Utf8.lossy bytes
  | .utf16 isBigEndian => Utf16.read isBigEndian numbers
  | .oneByte upper => read (oneByteStep upper.toList.toArray) numbers
  | .gb18030 => read Gb18030.step numbers
  | .big5 => read Big5.step numbers
  | .eucJp => read EucJp.step numbers
  | .iso2022Jp => Iso2022Jp.read .ascii false numbers
  | .shiftJis => read ShiftJis.step numbers
  | .eucKr => read EucKr.step numbers
  | .userDefined => read userDefinedStep numbers
  | .refused => if bytes.isEmpty then [] else [gap]

def decode (c : Charset) : List UInt8 → String
  | 0xEF :: 0xBB :: 0xBF :: rest => String.ofList (readBare .utf8 rest)
  | 0xFE :: 0xFF :: rest => String.ofList (readBare (.utf16 true) rest)
  | 0xFF :: 0xFE :: rest => String.ofList (readBare (.utf16 false) rest)
  | bytes => String.ofList (readBare c bytes)

end QuizService.Charset
