import HtmlTree.Source.Chinese
import HtmlTree.Source.Codepage
import HtmlTree.Source.Designation
import HtmlTree.Source.Unicode
import HtmlTree.Text.Blank
import HtmlTree.Text.Lower

namespace HtmlTree.Source

-- The ways of writing text as bytes that are known here.
inductive Encoding where
  | utf8
  | utf16le
  | utf16be
  -- the upper bytes are private code points
  | userDefined
  | codepage (page : Codepage)
  | gbk
  | gb18030
  | switchedGb
  | big5
  | eucJapanese
  | shiftJis
  | eucKorean
  | sevenBit (language : Language)
deriving DecidableEq, Repr, Inhabited

namespace Encoding

def name : Encoding → String
  | .utf8 => "utf-8"
  | .utf16le => "utf-16le"
  | .utf16be => "utf-16be"
  | .userDefined => "x-user-defined"
  | .codepage page => page.name
  | .gbk => "gbk"
  | .gb18030 => "gb18030"
  | .switchedGb => "hz-gb-2312"
  | .big5 => "big5"
  | .eucJapanese => "euc-jp"
  | .shiftJis => "shift_jis"
  | .eucKorean => "euc-kr"
  | .sevenBit .japanese => "iso-2022-jp"
  | .sevenBit .korean => "iso-2022-kr"

-- What text is taken to be written in if nothing tells.
def usual : Encoding := .codepage .windows1252

-- The labels that stand for each encoding.
def labels : List (Encoding × List String) :=
  [(.utf8, ["unicode-1-1-utf-8", "utf-8", "utf8"]),
   (.utf16le, ["utf-16", "utf-16le"]),
   (.utf16be, ["utf-16be"]),
   (.userDefined, ["x-user-defined"]),
   (.gbk,
    ["chinese", "csgb2312", "csiso58gb231280", "gb2312", "gb_2312", "gb_2312-80", "gbk",
     "iso-ir-58", "x-gbk"]),
   (.gb18030, ["gb18030"]),
   (.switchedGb, ["hz-gb-2312"]),
   (.big5, ["big5", "big5-hkscs", "cn-big5", "csbig5", "x-x-big5"]),
   (.eucJapanese, ["cseucpkdfmtjapanese", "euc-jp", "x-euc-jp"]),
   (.sevenBit .japanese, ["csiso2022jp", "iso-2022-jp"]),
   (.shiftJis,
    ["csshiftjis", "ms_kanji", "shift-jis", "shift_jis", "sjis", "windows-31j", "x-sjis"]),
   (.eucKorean,
    ["cseuckr", "csksc56011987", "euc-kr", "iso-ir-149", "korean", "ks_c_5601-1987",
     "ks_c_5601-1989", "ksc5601", "ksc_5601", "windows-949"]),
   (.sevenBit .korean, ["csiso2022kr", "iso-2022-kr"]),
   (.codepage .ibm866, ["866", "cp866", "csibm866", "ibm866"]),
   (.codepage .latin2,
    ["csisolatin2", "iso-8859-2", "iso-ir-101", "iso8859-2", "iso88592", "iso_8859-2",
     "iso_8859-2:1987", "l2", "latin2"]),
   (.codepage .latin3,
    ["csisolatin3", "iso-8859-3", "iso-ir-109", "iso8859-3", "iso88593", "iso_8859-3",
     "iso_8859-3:1988", "l3", "latin3"]),
   (.codepage .latin4,
    ["csisolatin4", "iso-8859-4", "iso-ir-110", "iso8859-4", "iso88594", "iso_8859-4",
     "iso_8859-4:1988", "l4", "latin4"]),
   (.codepage .latinCyrillic,
    ["csisolatincyrillic", "cyrillic", "iso-8859-5", "iso-ir-144", "iso8859-5", "iso88595",
     "iso_8859-5", "iso_8859-5:1988"]),
   (.codepage .latinArabic,
    ["arabic", "asmo-708", "csiso88596e", "csiso88596i", "csisolatinarabic", "ecma-114",
     "iso-8859-6", "iso-8859-6-e", "iso-8859-6-i", "iso-ir-127", "iso8859-6", "iso88596",
     "iso_8859-6", "iso_8859-6:1987"]),
   (.codepage .latinGreek,
    ["csisolatingreek", "ecma-118", "elot_928", "greek", "greek8", "iso-8859-7", "iso-ir-126",
     "iso8859-7", "iso88597", "iso_8859-7", "iso_8859-7:1987", "sun_eu_greek"]),
   (.codepage .latinHebrew,
    ["csiso88598e", "csisolatinhebrew", "hebrew", "iso-8859-8", "iso-8859-8-e", "iso-ir-138",
     "iso8859-8", "iso88598", "iso_8859-8", "iso_8859-8:1988", "visual"]),
   (.codepage .latinHebrewLogical, ["csiso88598i", "iso-8859-8-i", "logical"]),
   (.codepage .latin6,
    ["csisolatin6", "iso-8859-10", "iso-ir-157", "iso8859-10", "iso885910", "l6", "latin6"]),
   (.codepage .latin7, ["iso-8859-13", "iso8859-13", "iso885913"]),
   (.codepage .latin8, ["iso-8859-14", "iso8859-14", "iso885914"]),
   (.codepage .latin9,
    ["csisolatin9", "iso-8859-15", "iso8859-15", "iso885915", "iso_8859-15", "l9"]),
   (.codepage .latin10, ["iso-8859-16"]),
   (.codepage .koi8r, ["cskoi8r", "koi", "koi8", "koi8-r", "koi8_r"]),
   (.codepage .koi8u, ["koi8-u"]),
   (.codepage .macRoman, ["csmacintosh", "mac", "macintosh", "x-mac-roman"]),
   (.codepage .macCyrillic, ["x-mac-cyrillic", "x-mac-ukrainian"]),
   (.codepage .windows874,
    ["dos-874", "iso-8859-11", "iso8859-11", "iso885911", "tis-620", "windows-874"]),
   (.codepage .windows1250, ["cp1250", "windows-1250", "x-cp1250"]),
   (.codepage .windows1251, ["cp1251", "windows-1251", "x-cp1251"]),
   (.codepage .windows1252,
    ["ansi_x3.4-1968", "ascii", "cp1252", "cp819", "csisolatin1", "ibm819", "iso-8859-1",
     "iso-ir-100", "iso8859-1", "iso88591", "iso_8859-1", "iso_8859-1:1987", "l1", "latin1",
     "us-ascii", "windows-1252", "x-cp1252"]),
   (.codepage .windows1253, ["cp1253", "windows-1253", "x-cp1253"]),
   (.codepage .windows1254,
    ["cp1254", "csisolatin5", "iso-8859-9", "iso-ir-148", "iso8859-9", "iso88599", "iso_8859-9",
     "iso_8859-9:1989", "l5", "latin5", "windows-1254", "x-cp1254"]),
   (.codepage .windows1255, ["cp1255", "windows-1255", "x-cp1255"]),
   (.codepage .windows1256, ["cp1256", "windows-1256", "x-cp1256"]),
   (.codepage .windows1257, ["cp1257", "windows-1257", "x-cp1257"]),
   (.codepage .windows1258, ["cp1258", "windows-1258", "x-cp1258"])]

-- The encoding that a label names, in either case and with white space around it.
def ofLabel? (label : String) : Option Encoding :=
  let key := Text.lowerAscii (String.ofList (Text.trim Text.isSpace label.toList))
  (labels.find? fun entry => entry.2.contains key).map Prod.fst

def isUtf16 : Encoding → Bool
  | .utf16le | .utf16be => true
  | _ => false

def pieces (e : Encoding) (bytes : List UInt8) : List Piece :=
  match e with
  | .utf8 => piecesUtf8 bytes.length bytes
  | .utf16le => piecesUtf16 unitLittle bytes.length bytes
  | .utf16be => piecesUtf16 unitBig bytes.length bytes
  | .userDefined => bytes.map fun b =>
      .char (Char.ofNat (if b < 0x80 then b.toNat else 0xF700 + b.toNat))
  | .codepage page => bytes.map fun b => ((page.char? b).map Piece.char).getD .broken
  | .gbk => Sight.piecesAlike Chinese.seeGbk bytes
  | .gb18030 => Sight.piecesAlike Chinese.seeGb18030 bytes
  | .switchedGb => Sight.pieces Chinese.seeSwitched bytes.length false bytes
  | .big5 => Sight.piecesAlike Chinese.seeBig5 bytes
  | .eucJapanese => Sight.piecesAlike Japanese.seeEuc bytes
  | .shiftJis => Sight.piecesAlike Japanese.seeShifted bytes
  | .eucKorean => Sight.piecesAlike Korean.seeEuc bytes
  | .sevenBit language => Sight.pieces (Designation.see language) bytes.length .start bytes

-- Reads what can be read, with a stand-in for what cannot.
def decode (e : Encoding) (bytes : List UInt8) : String :=
  String.ofList ((e.pieces bytes).filterMap Piece.shown?)

-- The text, if every piece of it is a character.
def decode? (e : Encoding) (bytes : List UInt8) : Option String :=
  ((e.pieces bytes).mapM Piece.char?).map String.ofList

end Encoding
end HtmlTree.Source
