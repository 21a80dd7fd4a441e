import ContractAudit.Unicode.CharSet

/-!
# Scripts

The characters of every script, by its long and short names in lower case without blanks. The extensions of a script are
characters of no script of their own, or of another one, that are used with it.
-/

namespace ContractAudit.Unicode

/-- The names of the scripts with their runs of characters. -/
def scripts : List (List String × List Nat) := [
  (["adlam", "adlm"], [125184, 75, 5, 9, 5, 1]),
  (["ahom"], [71424, 26, 3, 14, 5, 22]),
  (["anatolianhieroglyphs", "hluw"], [82944, 582]),
  (["arabic", "arab"], [
    1536, 4, 2, 5, 2, 13, 2, 2, 2, 31, 2, 9, 12, 25, 2, 107, 2, 33, 81, 47, 241, 30, 2, 1, 7, 73, 2, 28, 62033, 114, 17,
    362, 3, 79, 3, 53, 8, 0, 33, 15, 113, 4, 2, 134, 3940, 30, 127, 2, 57089, 3, 2, 26, 2, 1, 2, 0, 3, 0, 2, 9, 2, 3, 2,
    0, 2, 0, 7, 0, 5, 0, 2, 0, 2, 0, 2, 2, 2, 1, 2, 0, 3, 0, 2, 0, 2, 0, 2, 0, 2, 0, 2, 1, 2, 0, 3, 3, 2, 6, 2, 3, 2, 3,
    2, 0, 2, 9, 2, 16, 6, 2, 2, 4, 2, 16, 53, 1]),
  (["armenian", "armn"], [1329, 37, 3, 49, 3, 2, 62852, 4]),
  (["avestan", "avst"], [68352, 53, 4, 6]),
  (["balinese", "bali"], [6912, 76, 4, 46]),
  (["bamum", "bamu"], [42656, 87, 49417, 568]),
  (["bassavah", "bass"], [92880, 29, 3, 5]),
  (["batak", "batk"], [7104, 51, 9, 3]),
  (["bengali", "beng"], [2432, 3, 2, 7, 3, 1, 3, 21, 2, 6, 2, 0, 4, 3, 3, 8, 3, 1, 3, 3, 9, 0, 5, 1, 2, 4, 3, 24]),
  (["bhaiksuki", "bhks"], [72704, 8, 2, 44, 2, 13, 11, 28]),
  (["bopomofo", "bopo"], [746, 1, 11802, 42, 113, 31]),
  (["brahmi", "brah"], [69632, 77, 5, 35, 10, 0]),
  (["braille", "brai"], [10240, 255]),
  (["buginese", "bugi"], [6656, 27, 3, 1]),
  (["buhid", "buhd"], [5952, 19]),
  (["canadianaboriginal", "cans"], [5120, 639, 561, 69, 65979, 15]),
  (["carian", "cari"], [66208, 48]),
  (["caucasianalbanian", "aghb"], [66864, 51, 12, 0]),
  (["chakma", "cakm"], [69888, 52, 2, 17]),
  (["cham"], [43520, 54, 10, 13, 3, 9, 3, 3]),
  (["cherokee", "cher"], [5024, 85, 3, 5, 38771, 79]),
  (["chorasmian", "chrs"], [69552, 27]),
  (["common", "zyyy"], [
    0, 64, 27, 5, 27, 46, 2, 14, 2, 4, 24, 0, 32, 0, 450, 38, 6, 4, 3, 19, 117, 0, 10, 0, 7, 0, 2, 0, 638, 0, 7, 0, 15,
    0, 4, 0, 33, 0, 157, 0, 517, 0, 130, 1, 1242, 0, 406, 3, 291, 0, 1520, 2, 72, 1, 204, 1, 2, 0, 1230, 0, 14, 0, 8, 3,
    2, 5, 2, 2, 3, 0, 774, 11, 3, 86, 2, 10, 4, 10, 2, 14, 18, 32, 64, 37, 2, 2, 3, 5, 2, 26, 2, 16, 42, 2, 5, 662, 26,
    10, 22, 927, 257, 627, 3, 31, 2, 104, 513, 93, 403, 11, 5, 4, 2, 0, 2, 24, 16, 7, 5, 3, 92, 1, 4, 0, 91, 1, 148, 15,
    33, 35, 61, 63, 32, 80, 48, 0, 89, 167, 6593, 63, 22785, 33, 103, 2, 166, 9, 245, 0, 161, 0, 396, 0, 15, 1, 20947,
    1, 209, 9, 23, 34, 2, 18, 2, 3, 148, 0, 2, 31, 27, 5, 27, 10, 11, 0, 46, 1, 65, 6, 2, 6, 11, 4, 259, 2, 5, 44, 4, 8,
    81, 12, 52, 44, 229, 26, 47525, 3, 4781, 115, 61, 245, 11, 38, 3, 61, 4, 16, 9, 1, 8, 29, 5, 60, 214, 19, 13, 19,
    13, 86, 10, 24, 136, 84, 2, 70, 2, 1, 3, 0, 3, 1, 3, 3, 2, 11, 2, 0, 2, 6, 2, 64, 2, 3, 3, 7, 2, 6, 2, 27, 2, 3, 2,
    4, 2, 0, 4, 6, 2, 339, 3, 291, 3, 49, 5234, 67, 77, 60, 707, 43, 5, 99, 13, 14, 3, 14, 2, 14, 2, 36, 11, 173, 57,
    25, 2, 1, 14, 43, 5, 8, 8, 1, 15, 5, 155, 983, 5, 16, 4, 12, 4, 118, 5, 94, 7, 11, 5, 0, 16, 11, 5, 55, 9, 9, 7, 39,
    9, 29, 3, 1, 79, 339, 13, 13, 3, 12, 4, 8, 8, 45, 2, 6, 9, 13, 5, 8, 8, 8, 8, 146, 2, 54, 38, 9, 787464, 0, 31,
    95]),
  (["coptic", "copt", "qaac"], [994, 13, 10385, 115, 6, 6]),
  (["cuneiform", "xsux"], [73728, 921, 103, 110, 2, 4, 12, 195]),
  (["cypriot", "cprt"], [67584, 5, 3, 0, 2, 43, 2, 1, 4, 0, 3, 0]),
  (["cyprominoan", "cpmn"], [77712, 98]),
  (["cyrillic", "cyrl"], [
    1024, 132, 3, 168, 5969, 8, 163, 0, 77, 0, 4200, 31, 30785, 95, 22415, 1, 57857, 61, 34, 0]),
  (["deseret", "dsrt"], [66560, 79]),
  (["devanagari", "deva"], [2304, 80, 5, 14, 3, 25, 40801, 31, 29185, 9]),
  (["divesakuru", "diak"], [71936, 6, 3, 0, 3, 7, 2, 1, 2, 29, 2, 1, 3, 11, 10, 9]),
  (["dogra", "dogr"], [71680, 59]),
  (["duployan", "dupl"], [113664, 106, 6, 12, 4, 8, 8, 9, 3, 3]),
  (["egyptianhieroglyphs", "egyp"], [77824, 1109]),
  (["elbasan", "elba"], [66816, 39]),
  (["elymaic", "elym"], [69600, 22]),
  (["ethiopic", "ethi"], [
    4608, 72, 2, 3, 3, 6, 2, 0, 2, 3, 3, 40, 2, 3, 3, 32, 2, 3, 3, 6, 2, 0, 2, 3, 3, 14, 2, 56, 2, 3, 3, 66, 3, 31, 4,
    25, 6631, 22, 10, 6, 2, 6, 2, 6, 2, 6, 2, 6, 2, 6, 2, 6, 2, 6, 32035, 5, 3, 5, 3, 5, 10, 6, 2, 6, 81074, 6, 2, 3, 2,
    1, 2, 14]),
  (["garay", "gara"], [68928, 37, 4, 28, 9, 1]),
  (["georgian", "geor"], [4256, 37, 2, 0, 6, 0, 3, 42, 2, 3, 2961, 42, 3, 2, 4161, 37, 2, 0, 6, 0]),
  (["glagolitic", "glag"], [11264, 95, 111521, 6, 2, 16, 3, 6, 2, 1, 2, 4]),
  (["gothic", "goth"], [66352, 26]),
  (["grantha", "gran"], [
    70400, 3, 2, 7, 3, 1, 3, 21, 2, 6, 2, 1, 2, 4, 3, 8, 3, 1, 3, 2, 3, 0, 7, 0, 6, 6, 3, 6, 4, 4]),
  (["greek", "grek"], [
    880, 3, 2, 2, 3, 3, 2, 0, 5, 0, 2, 0, 2, 2, 2, 0, 2, 19, 2, 62, 15, 15, 6439, 4, 51, 4, 5, 4, 85, 0, 321, 21, 3, 5,
    3, 37, 3, 5, 3, 7, 2, 0, 2, 0, 2, 0, 2, 30, 3, 52, 2, 14, 2, 13, 3, 5, 2, 18, 3, 2, 2, 8, 296, 0, 35391, 0, 21979,
    78, 18, 0, 53344, 69]),
  (["gujarati", "gujr"], [2689, 2, 2, 8, 2, 2, 2, 21, 2, 6, 2, 1, 2, 4, 3, 9, 2, 2, 2, 2, 3, 0, 16, 3, 3, 11, 8, 6]),
  (["gunjalagondi", "gong"], [73056, 5, 2, 1, 2, 36, 2, 1, 2, 5, 8, 9]),
  (["gurmukhi", "guru"], [
    2561, 2, 2, 5, 5, 1, 3, 21, 2, 6, 2, 1, 2, 1, 2, 1, 3, 0, 2, 4, 5, 1, 3, 2, 4, 0, 8, 3, 2, 0, 8, 16]),
  (["gurungkhema", "gukh"], [90368, 57]),
  (["han", "hani"], [
    11904, 25, 2, 88, 13, 213, 48, 0, 2, 0, 26, 8, 15, 3, 965, 6591, 65, 20991, 22785, 365, 3, 105, 29961, 1, 13, 1,
    36879, 42719, 33, 4153, 7, 221, 3, 5761, 15, 7472, 16, 621, 2467, 541, 1507, 4938, 6, 4191]),
  (["hangul", "hang"], [
    4352, 255, 7727, 1, 258, 93, 114, 30, 66, 30, 30434, 28, 644, 11171, 13, 22, 5, 48, 10149, 30, 4, 5, 3, 5, 3, 5, 3,
    2]),
  (["hanifirohingya", "rohg"], [68864, 39, 9, 9]),
  (["hanunoo", "hano"], [5920, 20]),
  (["hatran", "hatr"], [67808, 18, 2, 1, 6, 4]),
  (["hebrew", "hebr"], [1425, 54, 9, 26, 5, 5, 62761, 25, 2, 4, 2, 0, 2, 1, 2, 1, 2, 9]),
  (["hiragana", "hira"], [12353, 85, 7, 2, 98146, 286, 19, 0, 30, 2, 16558, 0]),
  (["imperialaramaic", "armi"], [67648, 21, 2, 8]),
  (["inherited", "zinh", "qaai"], [
    768, 111, 278, 1, 453, 10, 27, 0, 737, 3, 4444, 30, 514, 2, 2, 12, 2, 6, 5, 0, 7, 0, 4, 1, 199, 63, 525, 1, 195, 32,
    3898, 3, 108, 1, 52582, 15, 17, 13, 976, 0, 227, 0, 4187, 0, 48069, 45, 3, 22, 545, 2, 18, 7, 3, 6, 31, 3, 798547,
    239]),
  (["inscriptionalpahlavi", "phli"], [68448, 18, 6, 7]),
  (["inscriptionalparthian", "prti"], [68416, 21, 3, 7]),
  (["javanese", "java"], [43392, 77, 3, 9, 5, 1]),
  (["kaithi", "kthi"], [69760, 66, 11, 0]),
  (["kannada", "knda"], [3200, 12, 2, 2, 2, 22, 2, 9, 2, 4, 3, 8, 2, 2, 2, 3, 8, 1, 7, 1, 2, 3, 3, 9, 2, 2]),
  (["katakana", "kana"], [
    12449, 89, 3, 2, 241, 15, 209, 46, 2, 87, 52239, 9, 2, 44, 45139, 3, 2, 6, 2, 1, 2, 0, 288, 2, 51, 0, 15, 3]),
  (["kawi"], [73472, 16, 2, 40, 4, 27]),
  (["kayahli", "kali"], [43264, 45, 2, 0]),
  (["kharoshthi", "khar"], [68096, 3, 2, 1, 6, 7, 2, 2, 2, 28, 3, 2, 5, 9, 8, 8]),
  (["khitansmallscript", "kits"], [94180, 0, 6940, 469]),
  (["khmer", "khmr"], [6016, 93, 3, 9, 7, 9, 487, 31]),
  (["khojki", "khoj"], [70144, 17, 2, 46]),
  (["khudawadi", "sind"], [70320, 58, 6, 9]),
  (["kiratrai", "krai"], [93504, 57]),
  (["lao", "laoo"], [3713, 1, 2, 0, 2, 4, 2, 23, 2, 0, 2, 22, 3, 4, 2, 0, 2, 6, 2, 9, 3, 3]),
  (["latin", "latn"], [
    65, 25, 7, 25, 48, 0, 16, 0, 6, 22, 2, 30, 2, 448, 40, 4, 6684, 37, 7, 48, 6, 3, 6, 12, 2, 69, 66, 255, 370, 0, 14,
    0, 17, 12, 142, 1, 7, 0, 28, 0, 18, 40, 2776, 31, 31395, 101, 4, 63, 6, 1, 2, 0, 2, 4, 25, 13, 817, 42, 2, 8, 2, 3,
    20375, 6, 1051, 25, 7, 25, 2086, 5, 2, 41, 2, 8, 55110, 30, 7, 5]),
  (["lepcha", "lepc"], [7168, 55, 4, 14, 4, 2]),
  (["limbu", "limb"], [6400, 30, 2, 11, 5, 11, 5, 0, 4, 11]),
  (["lineara", "lina"], [67072, 310, 10, 21, 11, 7]),
  (["linearb", "linb"], [65536, 11, 2, 25, 2, 18, 2, 1, 2, 14, 3, 13, 35, 122]),
  (["lisu"], [42192, 47, 31409, 0]),
  (["lycian", "lyci"], [66176, 28]),
  (["lydian", "lydi"], [67872, 25, 6, 0]),
  (["mahajani", "mahj"], [69968, 38]),
  (["makasar", "maka"], [73440, 24]),
  (["malayalam", "mlym"], [3328, 12, 2, 2, 2, 50, 2, 2, 2, 5, 5, 15, 3, 25]),
  (["mandaic", "mand"], [2112, 27, 3, 0]),
  (["manichaean", "mani"], [68288, 38, 5, 11]),
  (["marchen", "marc"], [72816, 31, 3, 21, 2, 13]),
  (["masaramgondi", "gonm"], [72960, 6, 2, 1, 2, 43, 4, 0, 2, 1, 2, 8, 9, 9]),
  (["medefaidrin", "medf"], [93760, 90]),
  (["meeteimayek", "mtei"], [43744, 22, 202, 45, 3, 9]),
  (["mendekikakui", "mend"], [124928, 196, 3, 15]),
  (["meroiticcursive", "merc"], [68000, 23, 5, 19, 3, 45]),
  (["meroitichieroglyphs", "mero"], [67968, 31]),
  (["miao", "plrd"], [93952, 74, 5, 56, 8, 16]),
  (["modi"], [71168, 68, 12, 9]),
  (["mongolian", "mong"], [6144, 1, 3, 0, 2, 19, 7, 88, 8, 42, 64950, 12]),
  (["mro", "mroo"], [92736, 30, 2, 9, 5, 1]),
  (["multani", "mult"], [70272, 6, 2, 0, 2, 3, 2, 14, 2, 10]),
  (["myanmar", "mymr"], [4096, 159, 39233, 30, 98, 31]),
  (["nabataean", "nbat"], [67712, 30, 9, 8]),
  (["nagmundari", "nagm"], [124112, 41]),
  (["nandinagari", "nand"], [72096, 7, 3, 45, 3, 10]),
  (["newa"], [70656, 91, 2, 4]),
  (["newtailue", "talu"], [6528, 43, 5, 25, 7, 10, 4, 1]),
  (["nko", "nkoo"], [1984, 58, 3, 2]),
  (["nushu", "nshu"], [94177, 0, 16783, 395]),
  (["nyiakengpuachuehmong", "hmnp"], [123136, 44, 4, 13, 3, 9, 5, 1]),
  (["ogham", "ogam"], [5760, 28]),
  (["olchiki", "olck"], [7248, 47]),
  (["oldhungarian", "hung"], [68736, 50, 14, 50, 8, 5]),
  (["olditalic", "ital"], [66304, 35, 10, 2]),
  (["oldnortharabian", "narb"], [68224, 31]),
  (["oldpermic", "perm"], [66384, 42]),
  (["oldpersian", "xpeo"], [66464, 35, 5, 13]),
  (["oldsogdian", "sogo"], [69376, 39]),
  (["oldsoutharabian", "sarb"], [68192, 31]),
  (["oldturkic", "orkh"], [68608, 72]),
  (["olduyghur", "ougr"], [69488, 25]),
  (["olonal", "onao"], [124368, 42, 5, 0]),
  (["oriya", "orya"], [2817, 2, 2, 7, 3, 1, 3, 21, 2, 6, 2, 1, 2, 4, 3, 8, 3, 1, 3, 2, 8, 2, 5, 1, 2, 4, 3, 17]),
  (["osage", "osge"], [66736, 35, 5, 35]),
  (["osmanya", "osma"], [66688, 29, 3, 9]),
  (["pahawhhmong", "hmng"], [92928, 69, 11, 9, 2, 6, 2, 20, 6, 18]),
  (["palmyrene", "palm"], [67680, 31]),
  (["paucinhau", "pauc"], [72384, 56]),
  (["phagspa", "phag"], [43072, 55]),
  (["phoenician", "phnx"], [67840, 27, 4, 0]),
  (["psalterpahlavi", "phlp"], [68480, 17, 8, 3, 13, 6]),
  (["rejang", "rjng"], [43312, 35, 12, 0]),
  (["runic", "runr"], [5792, 74, 4, 10]),
  (["samaritan", "samr"], [2048, 45, 3, 14]),
  (["saurashtra", "saur"], [43136, 69, 9, 11]),
  (["sharada", "shrd"], [70016, 95]),
  (["shavian", "shaw"], [66640, 47]),
  (["siddham", "sidd"], [71040, 53, 3, 37]),
  (["signwriting", "sgnw"], [120832, 651, 16, 4, 2, 14]),
  (["sinhala", "sinh"], [3457, 2, 2, 17, 4, 23, 2, 8, 2, 0, 3, 6, 4, 0, 5, 5, 2, 0, 2, 7, 7, 9, 3, 2, 66541, 19]),
  (["sogdian", "sogd"], [69424, 41]),
  (["sorasompeng", "sora"], [69840, 24, 8, 9]),
  (["soyombo", "soyo"], [72272, 82]),
  (["sundanese", "sund"], [7040, 63, 257, 7]),
  (["sunuwar", "sunu"], [72640, 33, 15, 9]),
  (["sylotinagri", "sylo"], [43008, 44]),
  (["syriac", "syrc"], [1792, 13, 2, 59, 3, 2, 273, 10]),
  (["tagalog", "tglg"], [5888, 21, 10, 0]),
  (["tagbanwa", "tagb"], [5984, 12, 2, 2, 2, 1]),
  (["taile", "tale"], [6480, 29, 3, 4]),
  (["taitham", "lana"], [6688, 62, 2, 28, 3, 10, 7, 9, 7, 13]),
  (["taiviet", "tavt"], [43648, 66, 25, 4]),
  (["takri", "takr"], [71296, 57, 7, 9]),
  (["tamil", "taml"], [
    2946, 1, 2, 5, 4, 2, 2, 3, 4, 1, 2, 0, 2, 1, 4, 1, 4, 2, 4, 11, 5, 4, 4, 2, 2, 3, 3, 0, 7, 0, 15, 20, 70598, 49, 14,
    0]),
  (["tangsa", "tnsa"], [92784, 78, 2, 9]),
  (["tangut", "tang"], [94176, 0, 32, 6135, 9, 767, 513, 8]),
  (["telugu", "telu"], [3072, 12, 2, 2, 2, 22, 2, 15, 3, 8, 2, 2, 2, 3, 8, 1, 2, 2, 3, 0, 3, 3, 3, 9, 8, 8]),
  (["thaana", "thaa"], [1920, 49]),
  (["thai"], [3585, 57, 6, 27]),
  (["tibetan", "tibt"], [3840, 71, 2, 35, 5, 38, 2, 35, 2, 14, 2, 6, 5, 1]),
  (["tifinagh", "tfng"], [11568, 55, 8, 1, 15, 0]),
  (["tirhuta", "tirh"], [70784, 71, 9, 9]),
  (["todhri", "todr"], [67008, 51]),
  (["toto"], [123536, 30]),
  (["tulutigalari", "tutg"], [70528, 9, 2, 0, 3, 0, 2, 37, 2, 9, 2, 0, 3, 0, 2, 3, 2, 9, 2, 1, 9, 1]),
  (["ugaritic", "ugar"], [66432, 29, 2, 0]),
  (["vai", "vaii"], [42240, 299]),
  (["vithkuqi", "vith"], [66928, 10, 2, 14, 2, 6, 2, 1, 2, 10, 2, 14, 2, 6, 2, 1]),
  (["wancho", "wcho"], [123584, 57, 6, 0]),
  (["warangciti", "wara"], [71840, 82, 13, 0]),
  (["yezidi", "yezi"], [69248, 41, 2, 2, 3, 1]),
  (["yi", "yiii"], [40960, 1164, 4, 54]),
  (["zanabazarsquare", "zanb"], [72192, 71])]

/-- What is used with a script besides its own characters, by the long name of the script. -/
def scriptExtensions : List (String × List Nat) := [
  ("adlam", [1567, 0, 33, 0, 6671, 0, 3570, 0]),
  ("arabic", [1548, 0, 15, 0, 4, 0, 33, 0, 11, 10, 27, 0, 6623, 0, 3570, 0, 52989, 1, 1441, 27]),
  ("armenian", [776, 0]),
  ("avestan", [183, 0, 11641, 1]),
  ("bengali", [700, 0, 1685, 1, 18, 1, 4971, 0, 2, 0, 3, 1, 2, 0, 9, 0, 9, 0, 3, 0, 5, 0, 3, 2, 35834, 0]),
  ("bopomofo", [711, 0, 2, 2, 14, 0, 11560, 2, 5, 9, 2, 12, 11, 3, 3, 0, 7, 0, 196, 0, 52554, 1, 283, 4]),
  ("buginese", [43471, 0]),
  ("buhid", [5941, 1]),
  ("carian", [183, 0, 8099, 0, 3, 0, 3540, 0]),
  ("caucasianalbanian", [772, 0, 45, 0, 45, 0]),
  ("chakma", [2534, 9, 1617, 9]),
  ("cherokee", [768, 2, 2, 0, 7, 1, 23, 1, 12, 1]),
  ("coptic", [183, 0, 585, 0, 4, 1, 2, 0, 109, 1, 10914, 0, 54473, 27]),
  ("cypriot", [65792, 2, 5, 44, 4, 8]),
  ("cyprominoan", [65792, 1]),
  ("cyrillic", [700, 0, 68, 2, 2, 0, 2, 0, 2, 0, 3, 0, 6, 0, 372, 1, 6514, 0, 4171, 0]),
  ("devanagari", [700, 0, 1685, 1, 18, 1, 4971, 38, 2, 1, 1015, 0, 34624, 9]),
  ("dogra", [2404, 11, 40641, 9]),
  ("duployan", [183, 0, 592, 1, 2, 0, 25, 1, 11032, 0, 101988, 3]),
  ("elbasan", [183, 0, 590, 0]),
  ("ethiopic", [782, 0]),
  ("garay", [1548, 0, 15, 0, 4, 0]),
  ("georgian", [183, 0, 1234, 0, 2930, 0, 3935, 0, 3543, 0]),
  ("glagolitic", [183, 0, 588, 0, 2, 0, 383, 0, 3, 0, 258, 0, 2930, 0, 3935, 0, 3561, 0, 30764, 0]),
  ("gothic", [183, 0, 589, 1, 3, 0, 41, 0]),
  ("grantha", [2385, 1, 18, 1, 641, 13, 4317, 0, 2, 1, 31, 2, 4, 1, 1015, 0, 62027, 0, 3221, 1, 2, 0]),
  ("greek", [183, 0, 585, 1, 3, 0, 2, 0, 2, 0, 11, 0, 47, 0, 3, 0, 47, 0, 6732, 1, 668, 0]),
  ("gujarati", [2385, 1, 18, 1, 40651, 9]),
  ("gunjalagondi", [183, 0, 2221, 1]),
  ("gurmukhi", [2385, 1, 18, 1, 40651, 9]),
  ("gurungkhema", [2405, 0]),
  ("han", [
    183, 0, 12089, 11, 6, 2, 3, 0, 2, 9, 2, 12, 11, 3, 3, 0, 7, 0, 5, 3, 188, 0, 149, 15, 33, 35, 61, 39, 57, 48, 16,
    11, 52, 0, 89, 24, 11, 4, 97, 30, 29442, 7, 22334, 1, 283, 4, 54267, 17, 7903, 1]),
  ("hangul", [12289, 2, 5, 9, 2, 12, 17, 0, 7, 0, 196, 0, 52554, 1, 283, 4]),
  ("hanifirohingya", [1548, 0, 15, 0, 4, 0, 33, 0, 148, 0]),
  ("hanunoo", [5941, 1]),
  ("hebrew", [775, 1]),
  ("hiragana", [12289, 2, 5, 9, 2, 12, 17, 5, 2, 0, 5, 1, 92, 3, 4, 0, 91, 1, 52553, 1, 283, 4, 11, 0, 46, 1]),
  ("javanese", [43471, 0]),
  ("kaithi", [2406, 9, 9410, 0, 31231, 9]),
  ("kannada", [2385, 1, 18, 1, 4971, 0, 2, 1, 7, 0, 24, 0, 2, 0, 35644, 5]),
  ("katakana", [
    773, 0, 30, 0, 11486, 2, 5, 9, 2, 12, 17, 5, 2, 0, 5, 1, 92, 3, 4, 0, 91, 1, 52553, 1, 283, 4, 11, 0, 46, 1]),
  ("kayahli", [43310, 0]),
  ("khojki", [2790, 9, 40257, 9]),
  ("khudawadi", [2404, 1, 40651, 9]),
  ("latin", [
    183, 0, 517, 0, 11, 0, 2, 2, 2, 0, 10, 0, 2, 0, 39, 14, 2, 1, 2, 0, 16, 2, 8, 1, 2, 1, 39, 0, 6, 0, 5, 12, 278, 1,
    1227, 1, 1961, 0, 3325, 0, 567, 0, 193, 0, 3367, 0, 30953, 7, 551, 0]),
  ("limbu", [2405, 0]),
  ("lineara", [65799, 44]),
  ("linearb", [65792, 2, 5, 44, 4, 8]),
  ("lisu", [700, 0, 17, 0, 11581, 1]),
  ("lycian", [8282, 0]),
  ("lydian", [183, 0, 11642, 0]),
  ("mahajani", [183, 0, 2221, 11, 40641, 9]),
  ("malayalam", [2385, 1, 18, 1, 4981, 0, 24, 0, 35646, 2]),
  ("mandaic", [1600, 0]),
  ("manichaean", [1600, 0]),
  ("masaramgondi", [2404, 1]),
  ("meroitichieroglyphs", [8285, 0]),
  ("modi", [43056, 9]),
  ("mongolian", [6146, 1, 2, 0, 2090, 0, 4050, 1, 6, 3]),
  ("multani", [2662, 9]),
  ("myanmar", [43310, 0]),
  ("nandinagari", [2385, 0, 19, 1, 897, 9, 4090, 0, 9, 0, 8, 0, 35638, 5]),
  ("newa", [2385, 1, 4995, 0, 2, 1, 10, 0, 7, 0, 2, 0, 2, 0]),
  ("nko", [1548, 0, 15, 0, 4, 0, 63263, 1]),
  ("oldhungarian", [8282, 0, 3, 0, 3540, 0, 16, 0]),
  ("oldpermic", [183, 0, 585, 0, 6, 2, 11, 0, 368, 0]),
  ("oldturkic", [8282, 0, 3542, 0]),
  ("olduyghur", [1600, 0, 66738, 0]),
  ("olonal", [2404, 1]),
  ("oriya", [2385, 1, 18, 1, 4981, 0, 24, 0]),
  ("osage", [769, 0, 3, 0, 7, 0, 77, 0]),
  ("phagspa", [6146, 1, 2, 0, 2090, 0, 4051, 0]),
  ("psalterpahlavi", [1600, 0]),
  ("runic", [5867, 2]),
  ("samaritan", [11825, 0]),
  ("sharada", [2385, 0, 4998, 0, 2, 0, 3, 1, 3, 0, 10, 0, 3, 0, 35651, 5, 3, 0]),
  ("shavian", [183, 0]),
  ("sinhala", [2404, 1, 5005, 0]),
  ("sogdian", [1600, 0]),
  ("sunuwar", [768, 1, 2, 0, 10, 0, 3, 0, 29, 0, 4, 0]),
  ("sylotinagri", [2404, 1, 129, 9]),
  ("syriac", [771, 1, 3, 1, 2, 0, 25, 2, 8, 1, 2, 1, 731, 0, 15, 1, 3, 0, 33, 0, 11, 10, 27, 0, 6024, 0, 2, 0]),
  ("tagalog", [5941, 1]),
  ("tagbanwa", [5941, 1]),
  ("taile", [768, 1, 6, 1, 4, 0, 3380, 9]),
  ("takri", [2404, 1, 40651, 9]),
  ("tamil", [2385, 1, 18, 1, 4981, 0, 35865, 0, 27150, 0, 2, 0, 56, 1]),
  ("tangut", [12272, 11]),
  ("telugu", [2385, 1, 18, 1, 4976, 1, 2, 0, 2, 0, 24, 0]),
  ("thaana", [1548, 0, 15, 1, 3, 0, 65, 9, 63369, 0, 11, 0]),
  ("thai", [700, 0, 27, 0, 44, 0, 46, 0]),
  ("tibetan", [12296, 3]),
  ("tifinagh", [770, 0, 2, 0, 2, 3, 26, 0]),
  ("tirhuta", [2385, 1, 18, 1, 4976, 0, 13, 0, 16, 0, 35646, 9]),
  ("todhri", [769, 0, 3, 0, 3, 0, 10, 0, 2, 0, 75, 0]),
  ("toto", [700, 0]),
  ("tulutigalari", [3302, 9, 4099, 0, 2, 0, 35644, 5, 188, 0]),
  ("yezidi", [1548, 0, 15, 0, 4, 0, 65, 9]),
  ("yi", [12289, 1, 6, 9, 3, 7, 224, 0, 52838, 4])]

/-- The characters of a script. -/
def script? (name : String) : Option CharSet := (scripts.find? (·.1.contains name)).map fun s => .ofRuns s.2

/-- The characters that are used with a script. What is used with any script is not common to all. -/
def scriptExtensions? (name : String) : Option CharSet :=
  (scripts.find? (·.1.contains name)).map fun (names, runs) =>
    if names.contains "common" || names.contains "inherited" then
      (CharSet.ofRuns runs).diff (.unions (scriptExtensions.map fun e => .ofRuns e.2))
    else (CharSet.ofRuns runs).union (.ofRuns ((names.findSome? (scriptExtensions.lookup ·)).getD []))

end ContractAudit.Unicode
