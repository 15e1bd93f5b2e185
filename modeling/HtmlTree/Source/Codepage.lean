import HtmlTree.Source.Piece

namespace HtmlTree.Source

-- Character sets of one byte to the character. The bytes below 80 are those of ASCII in all of them.
inductive Codepage where
  | ibm866
  | latin2
  | latin3
  | latin4
  | latinCyrillic
  | latinArabic
  | latinGreek
  | latinHebrew
  | latinHebrewLogical
  | latin6
  | latin7
  | latin8
  | latin9
  | latin10
  | koi8r
  | koi8u
  | macRoman
  | macCyrillic
  | windows874
  | windows1250
  | windows1251
  | windows1252
  | windows1253
  | windows1254
  | windows1255
  | windows1256
  | windows1257
  | windows1258
deriving DecidableEq, Repr, Inhabited

namespace Codepage

def name : Codepage → String
  | .ibm866 => "ibm866"
  | .latin2 => "iso-8859-2"
  | .latin3 => "iso-8859-3"
  | .latin4 => "iso-8859-4"
  | .latinCyrillic => "iso-8859-5"
  | .latinArabic => "iso-8859-6"
  | .latinGreek => "iso-8859-7"
  | .latinHebrew => "iso-8859-8"
  | .latinHebrewLogical => "iso-8859-8-i"
  | .latin6 => "iso-8859-10"
  | .latin7 => "iso-8859-13"
  | .latin8 => "iso-8859-14"
  | .latin9 => "iso-8859-15"
  | .latin10 => "iso-8859-16"
  | .koi8r => "koi8-r"
  | .koi8u => "koi8-u"
  | .macRoman => "macintosh"
  | .macCyrillic => "x-mac-cyrillic"
  | .windows874 => "windows-874"
  | .windows1250 => "windows-1250"
  | .windows1251 => "windows-1251"
  | .windows1252 => "windows-1252"
  | .windows1253 => "windows-1253"
  | .windows1254 => "windows-1254"
  | .windows1255 => "windows-1255"
  | .windows1256 => "windows-1256"
  | .windows1257 => "windows-1257"
  | .windows1258 => "windows-1258"

-- The characters of the upper bytes, sixteen to a row, up to the byte FF. A byte below the first row
-- stands for the code point of its own number. A blank, or the end of a row, stands for bytes that
-- are not taken.
def rows : Codepage → List String
  | .ibm866 =>
    ["АБВГДЕЖЗИЙКЛМНОП", "РСТУФХЦЧШЩЪЫЬЭЮЯ", "абвгдежзийклмноп", "░▒▓│┤╡╢╖╕╣║╗╝╜╛┐",
     "└┴┬├─┼╞╟╚╔╩╦╠═╬╧", "╨╤╥╙╘╒╓╫╪┘┌█▄▌▐▀", "рстуфхцчшщъыьэюя", "ЁёЄєЇїЎў°∙·√№¤■\u00a0"]
  | .latin2 =>
    ["\u00a0Ą˘Ł¤ĽŚ§¨ŠŞŤŹ\u00adŽŻ", "°ą˛ł´ľśˇ¸šşťź˝žż", "ŔÁÂĂÄĹĆÇČÉĘËĚÍÎĎ", "ĐŃŇÓÔŐÖ×ŘŮÚŰÜÝŢß",
     "ŕáâăäĺćçčéęëěíîď", "đńňóôőö÷řůúűüýţ˙"]
  | .latin3 =>
    ["\u00a0Ħ˘£¤ Ĥ§¨İŞĞĴ\u00ad Ż", "°ħ²³´µĥ·¸ışğĵ½ ż", "ÀÁÂ ÄĊĈÇÈÉÊËÌÍÎÏ", " ÑÒÓÔĠÖ×ĜÙÚÛÜŬŜß",
     "àáâ äċĉçèéêëìíîï", " ñòóôġö÷ĝùúûüŭŝ˙"]
  | .latin4 =>
    ["\u00a0ĄĸŖ¤ĨĻ§¨ŠĒĢŦ\u00adŽ¯", "°ą˛ŗ´ĩļˇ¸šēģŧŊžŋ", "ĀÁÂÃÄÅÆĮČÉĘËĖÍÎĪ", "ĐŅŌĶÔÕÖ×ØŲÚÛÜŨŪß",
     "āáâãäåæįčéęëėíîī", "đņōķôõö÷øųúûüũū˙"]
  | .latinCyrillic =>
    ["\u00a0ЁЂЃЄЅІЇЈЉЊЋЌ\u00adЎЏ", "АБВГДЕЖЗИЙКЛМНОП", "РСТУФХЦЧШЩЪЫЬЭЮЯ", "абвгдежзийклмноп",
     "рстуфхцчшщъыьэюя", "№ёђѓєѕіїјљњћќ§ўџ"]
  | .latinArabic =>
    ["\u00a0   ¤       ،\u00ad", "           ؛   ؟", " ءآأؤإئابةتثجحخد", "ذرزسشصضطظعغ",
     "ـفقكلمنهوىي\u064b\u064c\u064d\u064e\u064f", "\u0650\u0651\u0652"]
  | .latinGreek =>
    ["\u00a0‘’£€₯¦§¨©ͺ«¬\u00ad ―", "°±²³΄΅Ά·ΈΉΊ»Ό½ΎΏ", "ΐΑΒΓΔΕΖΗΘΙΚΛΜΝΞΟ", "ΠΡ ΣΤΥΦΧΨΩΪΫάέήί",
     "ΰαβγδεζηθικλμνξο", "πρςστυφχψωϊϋόύώ"]
  | .latinHebrew | .latinHebrewLogical =>
    ["\u00a0 ¢£¤¥¦§¨©×«¬\u00ad®¯", "°±²³´µ¶·¸¹÷»¼½¾", "", "               ‗", "אבגדהוזחטיךכלםמן",
     "נסעףפץצקרשת  \u200e\u200f"]
  | .latin6 =>
    ["\u00a0ĄĒĢĪĨĶ§ĻĐŠŦŽ\u00adŪŊ", "°ąēģīĩķ·ļđšŧž―ūŋ", "ĀÁÂÃÄÅÆĮČÉĘËĖÍÎÏ", "ÐŅŌÓÔÕÖŨØŲÚÛÜÝÞß",
     "āáâãäåæįčéęëėíîï", "ðņōóôõöũøųúûüýþĸ"]
  | .latin7 =>
    ["\u00a0”¢£¤„¦§Ø©Ŗ«¬\u00ad®Æ", "°±²³“µ¶·ø¹ŗ»¼½¾æ", "ĄĮĀĆÄÅĘĒČÉŹĖĢĶĪĻ", "ŠŃŅÓŌÕÖ×ŲŁŚŪÜŻŽß",
     "ąįāćäåęēčéźėģķīļ", "šńņóōõö÷ųłśūüżž’"]
  | .latin8 =>
    ["\u00a0Ḃḃ£ĊċḊ§Ẁ©ẂḋỲ\u00ad®Ÿ", "ḞḟĠġṀṁ¶ṖẁṗẃṠỳẄẅṡ", "ÀÁÂÃÄÅÆÇÈÉÊËÌÍÎÏ", "ŴÑÒÓÔÕÖṪØÙÚÛÜÝŶß",
     "àáâãäåæçèéêëìíîï", "ŵñòóôõöṫøùúûüýŷÿ"]
  | .latin9 =>
    ["\u00a0¡¢£€¥Š§š©ª«¬\u00ad®¯", "°±²³Žµ¶·ž¹º»ŒœŸ¿", "ÀÁÂÃÄÅÆÇÈÉÊËÌÍÎÏ", "ÐÑÒÓÔÕÖ×ØÙÚÛÜÝÞß",
     "àáâãäåæçèéêëìíîï", "ðñòóôõö÷øùúûüýþÿ"]
  | .latin10 =>
    ["\u00a0ĄąŁ€„Š§š©Ș«Ź\u00adźŻ", "°±ČłŽ”¶·žčș»ŒœŸż", "ÀÁÂĂÄĆÆÇÈÉÊËÌÍÎÏ", "ĐŃÒÓÔŐÖŚŰÙÚÛÜĘȚß",
     "àáâăäćæçèéêëìíîï", "đńòóôőöśűùúûüęțÿ"]
  | .koi8r =>
    ["─│┌┐└┘├┤┬┴┼▀▄█▌▐", "░▒▓⌠■∙√≈≤≥\u00a0⌡°²·÷", "═║╒ё╓╔╕╖╗╘╙╚╛╜╝╞", "╟╠╡Ё╢╣╤╥╦╧╨╩╪╫╬©",
     "юабцдефгхийклмно", "пярстужвьызшэщчъ", "ЮАБЦДЕФГХИЙКЛМНО", "ПЯРСТУЖВЬЫЗШЭЩЧЪ"]
  | .koi8u =>
    ["─│┌┐└┘├┤┬┴┼▀▄█▌▐", "░▒▓⌠■∙√≈≤≥\u00a0⌡°²·÷", "═║╒ёє╔ії╗╘╙╚╛ґ╝╞", "╟╠╡ЁЄ╣ІЇ╦╧╨╩╪Ґ╬©",
     "юабцдефгхийклмно", "пярстужвьызшэщчъ", "ЮАБЦДЕФГХИЙКЛМНО", "ПЯРСТУЖВЬЫЗШЭЩЧЪ"]
  | .macRoman =>
    ["ÄÅÇÉÑÖÜáàâäãåçéè", "êëíìîïñóòôöõúùûü", "†°¢£§•¶ß®©™´¨≠ÆØ", "∞±≤≥¥µ∂∑∏π∫ªºΩæø",
     "¿¡¬√ƒ≈∆«»…\u00a0ÀÃÕŒœ", "–—“”‘’÷◊ÿŸ⁄€‹›ﬁﬂ", "‡·‚„‰ÂÊÁËÈÍÎÏÌÓÔ", "\uf8ffÒÚÛÙıˆ˜¯˘˙˚¸˝˛ˇ"]
  | .macCyrillic =>
    ["АБВГДЕЖЗИЙКЛМНОП", "РСТУФХЦЧШЩЪЫЬЭЮЯ", "†°Ґ£§•¶І®©™Ђђ≠Ѓѓ", "∞±≤≥іµґЈЄєЇїЉљЊњ",
     "јЅ¬√ƒ≈∆«»…\u00a0ЋћЌќѕ", "–—“”‘’÷„ЎўЏџ№Ёёя", "абвгдежзийклмноп", "рстуфхцчшщъыьэю€"]
  | .windows874 =>
    ["€    …", " ‘’“”•–—", "\u00a0กขฃคฅฆงจฉชซฌญฎฏ", "ฐฑฒณดตถทธนบปผฝพฟ", "ภมยรฤลฦวศษสหฬอฮฯ",
     "ะ\u0e31าำ\u0e34\u0e35\u0e36\u0e37\u0e38\u0e39\u0e3a    ฿",
     "เแโใไๅๆ\u0e47\u0e48\u0e49\u0e4a\u0e4b\u0e4c\u0e4d\u0e4e๏", "๐๑๒๓๔๕๖๗๘๙๚๛"]
  | .windows1250 =>
    ["€ ‚ „…†‡ ‰Š‹ŚŤŽŹ", " ‘’“”•–— ™š›śťžź", "\u00a0ˇ˘Ł¤Ą¦§¨©Ş«¬\u00ad®Ż", "°±˛ł´µ¶·¸ąş»Ľ˝ľż",
     "ŔÁÂĂÄĹĆÇČÉĘËĚÍÎĎ", "ĐŃŇÓÔŐÖ×ŘŮÚŰÜÝŢß", "ŕáâăäĺćçčéęëěíîď", "đńňóôőö÷řůúűüýţ˙"]
  | .windows1251 =>
    ["ЂЃ‚ѓ„…†‡€‰Љ‹ЊЌЋЏ", "ђ‘’“”•–— ™љ›њќћџ", "\u00a0ЎўЈ¤Ґ¦§Ё©Є«¬\u00ad®Ї", "°±Ііґµ¶·ё№є»јЅѕї",
     "АБВГДЕЖЗИЙКЛМНОП", "РСТУФХЦЧШЩЪЫЬЭЮЯ", "абвгдежзийклмноп", "рстуфхцчшщъыьэюя"]
  | .windows1252 =>
    ["€ ‚ƒ„…†‡ˆ‰Š‹Œ Ž", " ‘’“”•–—˜™š›œ žŸ", "\u00a0¡¢£¤¥¦§¨©ª«¬\u00ad®¯", "°±²³´µ¶·¸¹º»¼½¾¿",
     "ÀÁÂÃÄÅÆÇÈÉÊËÌÍÎÏ", "ÐÑÒÓÔÕÖ×ØÙÚÛÜÝÞß", "àáâãäåæçèéêëìíîï", "ðñòóôõö÷øùúûüýþÿ"]
  | .windows1253 =>
    ["€ ‚ƒ„…†‡ ‰ ‹", " ‘’“”•–— ™ ›", "\u00a0΅Ά£¤¥¦§¨© «¬\u00ad®―", "°±²³΄µ¶·ΈΉΊ»Ό½ΎΏ",
     "ΐΑΒΓΔΕΖΗΘΙΚΛΜΝΞΟ", "ΠΡ ΣΤΥΦΧΨΩΪΫάέήί", "ΰαβγδεζηθικλμνξο", "πρςστυφχψωϊϋόύώ"]
  | .windows1254 =>
    ["€ ‚ƒ„…†‡ˆ‰Š‹Œ", " ‘’“”•–—˜™š›œ  Ÿ", "\u00a0¡¢£¤¥¦§¨©ª«¬\u00ad®¯", "°±²³´µ¶·¸¹º»¼½¾¿",
     "ÀÁÂÃÄÅÆÇÈÉÊËÌÍÎÏ", "ĞÑÒÓÔÕÖ×ØÙÚÛÜİŞß", "àáâãäåæçèéêëìíîï", "ğñòóôõö÷øùúûüışÿ"]
  | .windows1255 =>
    ["€ ‚ƒ„…†‡ˆ‰ ‹", " ‘’“”•–—˜™ ›", "\u00a0¡¢£₪¥¦§¨©×«¬\u00ad®¯", "°±²³´µ¶·¸¹÷»¼½¾¿",
     "\u05b0\u05b1\u05b2\u05b3\u05b4\u05b5\u05b6\u05b7\u05b8\u05b9 \u05bb\u05bc\u05bd־\u05bf",
     "׀\u05c1\u05c2׃װױײ׳״", "אבגדהוזחטיךכלםמן", "נסעףפץצקרשת  \u200e\u200f"]
  | .windows1256 =>
    ["€پ‚ƒ„…†‡ˆ‰ٹ‹Œچژڈ", "گ‘’“”•–—ک™ڑ›œ\u200c\u200dں", "\u00a0،¢£¤¥¦§¨©ھ«¬\u00ad®¯",
     "°±²³´µ¶·¸¹؛»¼½¾؟", "ہءآأؤإئابةتثجحخد", "ذرزسشصض×طظعغـفقك", "àلâمنهوçèéêëىيîï",
     "\u064b\u064c\u064d\u064eô\u064f\u0650÷\u0651ù\u0652ûü\u200e\u200fے"]
  | .windows1257 =>
    ["€ ‚ „…†‡ ‰ ‹ ¨ˇ¸", " ‘’“”•–— ™ › ¯˛", "\u00a0 ¢£¤ ¦§Ø©Ŗ«¬\u00ad®Æ", "°±²³´µ¶·ø¹ŗ»¼½¾æ",
     "ĄĮĀĆÄÅĘĒČÉŹĖĢĶĪĻ", "ŠŃŅÓŌÕÖ×ŲŁŚŪÜŻŽß", "ąįāćäåęēčéźėģķīļ", "šńņóōõö÷ųłśūüżž˙"]
  | .windows1258 =>
    ["€ ‚ƒ„…†‡ˆ‰ ‹Œ", " ‘’“”•–—˜™ ›œ  Ÿ", "\u00a0¡¢£¤¥¦§¨©ª«¬\u00ad®¯", "°±²³´µ¶·¸¹º»¼½¾¿",
     "ÀÁÂĂÄÅÆÇÈÉÊË\u0300ÍÎÏ", "ĐÑ\u0309ÓÔƠÖ×ØÙÚÛÜƯ\u0303ß", "àáâăäåæçèéêë\u0301íîï",
     "đñ\u0323óôơö÷øùúûüư₫ÿ"]

-- The character of a byte, if it is taken.
def char? (p : Codepage) (b : UInt8) : Option Char :=
  let rows := p.rows
  let first := 0x100 - 16 * rows.length
  let n := b.toNat
  if n < first then some (Char.ofNat n)
  else ((rows[(n - first) / 16]?).bind fun row => row.toList[(n - first) % 16]?).filter (· != ' ')

end Codepage
end HtmlTree.Source
