import HtmlTree.Source.Piece
import HtmlTree.Source.Grid.Gb2312
import HtmlTree.Source.Grid.Big5

namespace HtmlTree.Source.Chinese

-- The second bytes of GBK in a row: from 40 on, without 7F.
def cell? (b : Nat) : Option Nat :=
  if b < 0x40 || b == 0x7F || b == 0xFF then none
  else some (if b < 0x7F then b - 0x40 else b - 0x41)

-- Signs of GBK by the first byte and the cell of the first of them. Two of them take the place of
-- signs of GB 2312.
def signs : List (Nat × Nat × String) :=
  [(0xA1, 99, "·"), (0xA1, 105, "—"), (0xA2, 96, "ⅰⅱⅲⅳⅴⅵⅶⅷⅸⅹ"),
   (0xA6, 159, "︵︶︹︺︿﹀︽︾﹁﹂﹃﹄  ︻︼︷︸︱ ︳︴"),
   (0xA8, 0,
    "ˊˋ˙–―‥‵℅℉↖↗↘↙∕∟∣≒≦≧⊿═║╒╓╔╕╖╗╘╙╚╛╜╝╞╟╠╡╢╣╤╥╦╧╨╩╪╫╬╭╮╯╰╱╲╳▁▂▃▄▅▆▇█▉▊▋▌▍▎▏▓▔▕▼▽◢◣◤◥☉⊕〒〝〞"),
   (0xA8, 122, "ɑ ńň ɡ"),
   (0xA9, 0,
    "〡〢〣〤〥〦〧〨〩㊣㎎㎏㎜㎝㎞㎡㏄㏎㏑㏒㏕︰￢￤ ℡㈱ ‐   ー゛゜ヽヾ〆ゝゞ﹉﹊﹋﹌﹍﹎﹏﹐﹑﹒﹔﹕﹖﹗﹙﹚﹛﹜﹝﹞﹟﹠﹡﹢﹣﹤﹥﹦﹨﹩﹪﹫             〇")]

def sign? (a cell : Nat) : Option Char :=
  signs.findSome? fun (lead, start, text) =>
    if lead = a ∧ start ≤ cell then text.toList[cell - start]?.filter (· != ' ') else none

-- The ideographs from 4E00 on, up to the last one of the first edition.
def ideographCount : Nat := 0x51A6

-- Which of the ideographs are in GB 2312.
def common : Array Bool :=
  let mark (marks : Array Bool) (c : Char) : Array Bool :=
    if 0x4E00 ≤ c.toNat then marks.setIfInBounds (c.toNat - 0x4E00) true else marks
  Grid.gb2312.rows.foldl (fun marks row => row.toList.foldl mark marks)
    (Array.replicate ideographCount false)

-- The ideographs that GBK adds: all that GB 2312 leaves out, in the order of their code points, and
-- some that are there for compatibility.
def further : Array Char :=
  let left := (List.range ideographCount).filter fun k => !(common[k]?.getD false)
  ((left.map fun k => Char.ofNat (0x4E00 + k)) ++ compatible.toList).toArray
where
  compatible : String :=
    "\uf92c\uf979\uf995\uf9e7\uf9f1\ufa0c\ufa0d\ufa0e\ufa0f\ufa11\ufa13\ufa14" ++
    "\ufa18\ufa1f\ufa20\ufa21\ufa23\ufa24\ufa27\ufa28\ufa29"

-- Where those ideographs are: in the rows in front of GB 2312, and in the cells to the left of it.
def furtherPlace? (a cell : Nat) : Option Nat :=
  if 0x81 ≤ a && a ≤ 0xA0 then some ((a - 0x81) * 190 + cell)
  else if 0xAA ≤ a && a ≤ 0xFE && cell < 96 then some (32 * 190 + (a - 0xAA) * 96 + cell)
  else none

-- The character of two bytes of GBK.
def gbk? (a b : Nat) : Option Char := do
  let cell ← cell? b
  (sign? a cell).or ((Grid.gb2312.upper? a b).or ((furtherPlace? a cell).bind (further[·]?)))

-- The parts of the plane that are left to users: private code points.
def userCode? (a cell : Nat) : Option Nat :=
  if 0xAA ≤ a && a ≤ 0xAF && 96 ≤ cell then some (0xE000 + (a - 0xAA) * 94 + (cell - 96))
  else if 0xF8 ≤ a && a ≤ 0xFE && 96 ≤ cell then some (0xE234 + (a - 0xF8) * 94 + (cell - 96))
  else if 0xA1 ≤ a && a ≤ 0xA7 && cell < 96 then some (0xE4C6 + (a - 0xA1) * 96 + cell)
  else none

-- The cells that GBK leaves free, in runs: the first byte, the first cell, how many there are, and
-- the characters that GB 18030 has put there. Blank ones stand for private code points.
def freeRuns : List (Nat × Nat × Nat × String) :=
  [(0xA2, 106, 6, ""), (0xA2, 162, 2, "€"), (0xA2, 174, 2, ""), (0xA2, 188, 2, ""),
   (0xA4, 179, 11, ""), (0xA5, 182, 8, ""), (0xA6, 120, 8, ""), (0xA6, 152, 7, ""),
   (0xA6, 171, 2, ""), (0xA6, 178, 1, ""), (0xA6, 181, 9, ""), (0xA7, 129, 15, ""),
   (0xA7, 177, 13, ""), (0xA8, 85, 11, ""), (0xA8, 123, 1, ""), (0xA8, 126, 1, "ǹ"),
   (0xA8, 128, 4, ""), (0xA8, 169, 21, ""), (0xA9, 24, 1, ""), (0xA9, 27, 1, ""), (0xA9, 29, 3, ""),
   (0xA9, 72, 13, "〾⿰⿱⿲⿳⿴⿵⿶⿷⿸⿹⿺⿻"), (0xA9, 86, 13, ""), (0xA9, 175, 15, ""), (0xD7, 185, 5, ""),
   (0xFE, 16, 80, "⺁   ⺄㑳㑇⺈⺋ 㖞㘚㘎⺌⺗㥮㤘 㧏㧟㩳㧐  㭎㱮㳠⺧  ⺪䁖䅟⺮䌷⺳⺶⺷ 䎱䎬⺻䏝䓖䙡䙌 䜣䜩䝼䞍⻊䥇䥺䥽䦂䦃䦅䦆䦟䦛䦷䦶  䲣䲟䲠䲡䱷䲢䴓䴔䴕䴖䴗䴘䴙䶮")]

-- The character in a free cell. `code` is the private code point that the next run begins with.
def free? (a cell : Nat) : Nat → List (Nat × Nat × Nat × String) → Option Char
  | _, [] => none
  | code, (lead, start, count, text) :: runs =>
    if lead = a ∧ start ≤ cell ∧ cell < start + count then
      let place := cell - start
      (text.toList[place]?.filter (· != ' ')).or (some (Char.ofNat (code + place)))
    else free? a cell (code + count) runs

-- The character of two bytes of GB 18030.
def gb18030? (a b : Nat) : Option Char := do
  let cell ← cell? b
  (gbk? a b).or (((userCode? a cell).map Char.ofNat).or (free? a cell 0xE766 freeRuns))

-- Four bytes stand for the code points that have no shorter form, in their order. The runs of them:
-- the number of the first, and its code point.
def longRuns : List (Nat × Nat) :=
  [(0, 0x80), (36, 0xA5), (38, 0xA9), (45, 0xB2), (50, 0xB8), (81, 0xD8), (89, 0xE2), (95, 0xEB),
   (96, 0xEE), (100, 0xF4), (103, 0xF8), (104, 0xFB), (105, 0xFD), (109, 0x102), (126, 0x114),
   (133, 0x11C), (148, 0x12C), (172, 0x145), (175, 0x149), (179, 0x14E), (208, 0x16C), (306, 0x1CF),
   (307, 0x1D1), (308, 0x1D3), (309, 0x1D5), (310, 0x1D7), (311, 0x1D9), (312, 0x1DB), (313, 0x1DD),
   (341, 0x1FA), (428, 0x252), (443, 0x262), (544, 0x2C8), (545, 0x2CC), (558, 0x2DA), (741, 0x3A2),
   (742, 0x3AA), (749, 0x3C2), (750, 0x3CA), (805, 0x402), (819, 0x450), (820, 0x452),
   (7922, 0x2011), (7924, 0x2017), (7925, 0x201A), (7927, 0x201E), (7934, 0x2027), (7943, 0x2031),
   (7944, 0x2034), (7945, 0x2036), (7950, 0x203C), (8062, 0x20AD), (8148, 0x2104), (8149, 0x2106),
   (8152, 0x210A), (8164, 0x2117), (8174, 0x2122), (8236, 0x216C), (8240, 0x217A), (8262, 0x2194),
   (8264, 0x219A), (8374, 0x2209), (8380, 0x2210), (8381, 0x2212), (8384, 0x2216), (8388, 0x221B),
   (8390, 0x2221), (8392, 0x2224), (8393, 0x2226), (8394, 0x222C), (8396, 0x222F), (8401, 0x2238),
   (8406, 0x223E), (8416, 0x2249), (8419, 0x224D), (8424, 0x2253), (8437, 0x2262), (8439, 0x2268),
   (8445, 0x2270), (8482, 0x2296), (8485, 0x229A), (8496, 0x22A6), (8521, 0x22C0), (8603, 0x2313),
   (8936, 0x246A), (8946, 0x249C), (9046, 0x254C), (9050, 0x2574), (9063, 0x2590), (9066, 0x2596),
   (9076, 0x25A2), (9092, 0x25B4), (9100, 0x25BE), (9108, 0x25C8), (9111, 0x25CC), (9113, 0x25D0),
   (9131, 0x25E6), (9162, 0x2607), (9164, 0x260A), (9218, 0x2641), (9219, 0x2643), (11329, 0x2E82),
   (11331, 0x2E85), (11334, 0x2E89), (11336, 0x2E8D), (11346, 0x2E98), (11361, 0x2EA8),
   (11363, 0x2EAB), (11366, 0x2EAF), (11370, 0x2EB4), (11372, 0x2EB8), (11375, 0x2EBC),
   (11389, 0x2ECB), (11682, 0x2FFC), (11686, 0x3004), (11687, 0x3018), (11692, 0x301F),
   (11694, 0x302A), (11714, 0x303F), (11716, 0x3094), (11723, 0x309F), (11725, 0x30F7),
   (11730, 0x30FF), (11736, 0x312A), (11982, 0x322A), (11989, 0x3232), (12102, 0x32A4),
   (12336, 0x3390), (12348, 0x339F), (12350, 0x33A2), (12384, 0x33C5), (12393, 0x33CF),
   (12395, 0x33D3), (12397, 0x33D6), (12510, 0x3448), (12553, 0x3474), (12851, 0x359F),
   (12962, 0x360F), (12973, 0x361B), (13738, 0x3919), (13823, 0x396F), (13919, 0x39D1),
   (13933, 0x39E0), (14080, 0x3A74), (14298, 0x3B4F), (14585, 0x3C6F), (14698, 0x3CE1),
   (15583, 0x4057), (15847, 0x4160), (16318, 0x4338), (16434, 0x43AD), (16438, 0x43B2),
   (16481, 0x43DE), (16729, 0x44D7), (17102, 0x464D), (17122, 0x4662), (17315, 0x4724),
   (17320, 0x472A), (17402, 0x477D), (17418, 0x478E), (17859, 0x4948), (17909, 0x497B),
   (17911, 0x497E), (17915, 0x4984), (17916, 0x4987), (17936, 0x499C), (17939, 0x49A0),
   (17961, 0x49B8), (18664, 0x4C78), (18703, 0x4CA4), (18814, 0x4D1A), (18962, 0x4DAF),
   (19043, 0x9FA6), (33469, 0xE76C), (33470, 0xE7C8), (33471, 0xE7E7), (33484, 0xE815),
   (33485, 0xE819), (33490, 0xE81F), (33497, 0xE827), (33501, 0xE82D), (33505, 0xE833),
   (33513, 0xE83C), (33520, 0xE844), (33536, 0xE856), (33550, 0xE865), (37845, 0xF92D),
   (37921, 0xF97A), (37948, 0xF996), (38029, 0xF9E8), (38038, 0xF9F2), (38064, 0xFA10),
   (38065, 0xFA12), (38066, 0xFA15), (38069, 0xFA19), (38075, 0xFA22), (38076, 0xFA25),
   (38078, 0xFA2A), (39108, 0xFE32), (39109, 0xFE45), (39113, 0xFE53), (39114, 0xFE58),
   (39115, 0xFE67), (39116, 0xFE6C), (39265, 0xFF5F), (39394, 0xFFE6)]

-- How many code points of the first plane have four bytes.
def longCount : Nat := 39420

-- The character of four bytes of GB 18030.
def long? (a b c d : Nat) : Option Char :=
  if 0x81 ≤ a && a ≤ 0xFE && 0x30 ≤ b && b ≤ 0x39 && 0x81 ≤ c && c ≤ 0xFE && 0x30 ≤ d && d ≤ 0x39
  then
    let number := (((a - 0x81) * 10 + (b - 0x30)) * 126 + (c - 0x81)) * 10 + (d - 0x30)
    let beyond := 15 * 12600
    if number < longCount then
      (longRuns.takeWhile fun run => run.1 ≤ number).getLast?.map fun run =>
        Char.ofNat (run.2 + (number - run.1))
    else if beyond ≤ number && number < beyond + 0x100000 then
      some (Char.ofNat (0x10000 + (number - beyond)))
    else none
  else none

def seeGbk (b : UInt8) (rest : List UInt8) : Sight :=
  if b < 0x80 then .char (Char.ofNat b.toNat) 1
  else
    match rest with
    | c :: _ => .ofPair (gbk? b.toNat c.toNat)
    | [] => .short

-- A digit as the second byte tells that there are four.
def seeGb18030 (b : UInt8) (rest : List UInt8) : Sight :=
  if b < 0x80 then .char (Char.ofNat b.toNat) 1
  else
    match rest with
    | [] => .short
    | c :: rest =>
      if 0x30 ≤ c && c ≤ 0x39 then
        match rest with
        | d :: e :: _ =>
          match long? b.toNat c.toNat d.toNat e.toNat with
          | some found => .char found 4
          | none => .broken 1
        | _ => .short
      else .ofPair (gb18030? b.toNat c.toNat)

-- Seven-bit text in which a tilde and a brace switch to GB 2312 and back. `switched` tells which it
-- is.
def seeSwitched (switched : Bool) (b : UInt8) (rest : List UInt8) : Sight × Bool :=
  if b == 0x7E then
    match switched, rest with
    | _, [] => (.short, switched)
    | false, 0x7E :: _ => (.char '~' 2, false)
    | false, 0x7B :: _ => (.silent 2, true)
    | false, 0x0A :: _ => (.silent 2, false)
    | true, 0x7D :: _ => (.silent 2, false)
    | _, _ => (.broken 1, switched)
  else if 0x80 ≤ b then (.broken 1, switched)
  else if switched then
    match rest with
    | c :: _ => (.ofPair (Grid.gb2312.plain? b.toNat c.toNat), true)
    | [] => (.short, true)
  else (.char (Char.ofNat b.toNat) 1, false)

def big5? (a b : Nat) : Option Char :=
  if a < 0xA1 then none
  else if 0x40 ≤ b && b ≤ 0x7E then Grid.big5.at? (2 * (a - 0xA1)) (b - 0x40)
  else if 0xA1 ≤ b && b ≤ 0xFE then Grid.big5.at? (2 * (a - 0xA1) + 1) (b - 0xA1)
  else none

def seeBig5 (b : UInt8) (rest : List UInt8) : Sight :=
  if b < 0x80 then .char (Char.ofNat b.toNat) 1
  else
    match rest with
    | c :: _ => .ofPair (big5? b.toNat c.toNat)
    | [] => .short

end HtmlTree.Source.Chinese
