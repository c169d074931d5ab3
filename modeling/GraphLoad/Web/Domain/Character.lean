import GraphLoad.Text.CharSet
import GraphLoad.Text.Composed
import GraphLoad.Text.Pieces

/-!
What becomes of the characters of a domain name before it is looked up, as the mapping table for
internationalised names has it: capitals and compatible forms give way to plain ones, some
characters are left out, and some may not occur. Whether a text is a name depends on the ASCII
characters that come in this way; of other replacements only that there is one is kept.
-/

namespace GraphLoad.Domain

open Text (CharSet)

inductive Fate where
  /-- It stays as it is. -/
  | kept
  /-- It is left out. -/
  | dropped
  /-- Others take its place. -/
  | replaced (characters : List Char)
  /-- Characters outside of ASCII take its place. -/
  | altered
  /-- No name has it. -/
  | refused
deriving DecidableEq, Repr

/-- What no host has, be it a domain name or not: blanks, and what parts or encloses addresses. -/
def endsHost (c : Char) : Bool :=
  ['\x00', '\t', '\n', '\r', ' '].contains c ||
    ['#', '/', ':', '<', '>', '?', '@', '[', '\\', ']', '^', '|'].contains c

/-- Whether no domain name has the ASCII character. -/
def isForbidden (c : Char) : Bool :=
  endsHost c || c.toNat < 0x20 || c.toNat == 0x7f || c == '%'

/-- The characters outside of ASCII that no name has: those without a use in names, and those that a
blank would take the place of. -/
def refusedSet : CharSet :=
  ⟨[(0x80, 0xa0), (0xa8, 0xa8), (0xaf, 0xaf), (0xb4, 0xb4), (0xb8, 0xb8), (0x2d8, 0x2dd),
    (0x378, 0x37a), (0x380, 0x385), (0x38b, 0x38b), (0x38d, 0x38d), (0x3a2, 0x3a2), (0x530, 0x530),
    (0x557, 0x558), (0x58b, 0x58c), (0x590, 0x590), (0x5c8, 0x5cf), (0x5eb, 0x5ee), (0x5f5, 0x605),
    (0x61c, 0x61c), (0x6dd, 0x6dd), (0x70e, 0x70f), (0x74b, 0x74c), (0x7b2, 0x7bf), (0x7fb, 0x7fc),
    (0x82e, 0x82f), (0x83f, 0x83f), (0x85c, 0x85d), (0x85f, 0x85f), (0x86b, 0x86f), (0x890, 0x896),
    (0x8e2, 0x8e2), (0x984, 0x984), (0x98d, 0x98e), (0x991, 0x992), (0x9a9, 0x9a9), (0x9b1, 0x9b1),
    (0x9b3, 0x9b5), (0x9ba, 0x9bb), (0x9c5, 0x9c6), (0x9c9, 0x9ca), (0x9cf, 0x9d6), (0x9d8, 0x9db),
    (0x9de, 0x9de), (0x9e4, 0x9e5), (0x9ff, 0xa00), (0xa04, 0xa04), (0xa0b, 0xa0e), (0xa11, 0xa12),
    (0xa29, 0xa29), (0xa31, 0xa31), (0xa34, 0xa34), (0xa37, 0xa37), (0xa3a, 0xa3b), (0xa3d, 0xa3d),
    (0xa43, 0xa46), (0xa49, 0xa4a), (0xa4e, 0xa50), (0xa52, 0xa58), (0xa5d, 0xa5d), (0xa5f, 0xa65),
    (0xa77, 0xa80), (0xa84, 0xa84), (0xa8e, 0xa8e), (0xa92, 0xa92), (0xaa9, 0xaa9), (0xab1, 0xab1),
    (0xab4, 0xab4), (0xaba, 0xabb), (0xac6, 0xac6), (0xaca, 0xaca), (0xace, 0xacf), (0xad1, 0xadf),
    (0xae4, 0xae5), (0xaf2, 0xaf8), (0xb00, 0xb00), (0xb04, 0xb04), (0xb0d, 0xb0e), (0xb11, 0xb12),
    (0xb29, 0xb29), (0xb31, 0xb31), (0xb34, 0xb34), (0xb3a, 0xb3b), (0xb45, 0xb46), (0xb49, 0xb4a),
    (0xb4e, 0xb54), (0xb58, 0xb5b), (0xb5e, 0xb5e), (0xb64, 0xb65), (0xb78, 0xb81), (0xb84, 0xb84),
    (0xb8b, 0xb8d), (0xb91, 0xb91), (0xb96, 0xb98), (0xb9b, 0xb9b), (0xb9d, 0xb9d), (0xba0, 0xba2),
    (0xba5, 0xba7), (0xbab, 0xbad), (0xbba, 0xbbd), (0xbc3, 0xbc5), (0xbc9, 0xbc9), (0xbce, 0xbcf),
    (0xbd1, 0xbd6), (0xbd8, 0xbe5), (0xbfb, 0xbff), (0xc0d, 0xc0d), (0xc11, 0xc11), (0xc29, 0xc29),
    (0xc3a, 0xc3b), (0xc45, 0xc45), (0xc49, 0xc49), (0xc4e, 0xc54), (0xc57, 0xc57), (0xc5b, 0xc5b),
    (0xc5e, 0xc5f), (0xc64, 0xc65), (0xc70, 0xc76), (0xc8d, 0xc8d), (0xc91, 0xc91), (0xca9, 0xca9),
    (0xcb4, 0xcb4), (0xcba, 0xcbb), (0xcc5, 0xcc5), (0xcc9, 0xcc9), (0xcce, 0xcd4), (0xcd7, 0xcdb),
    (0xcdf, 0xcdf), (0xce4, 0xce5), (0xcf0, 0xcf0), (0xcf4, 0xcff), (0xd0d, 0xd0d), (0xd11, 0xd11),
    (0xd45, 0xd45), (0xd49, 0xd49), (0xd50, 0xd53), (0xd64, 0xd65), (0xd80, 0xd80), (0xd84, 0xd84),
    (0xd97, 0xd99), (0xdb2, 0xdb2), (0xdbc, 0xdbc), (0xdbe, 0xdbf), (0xdc7, 0xdc9), (0xdcb, 0xdce),
    (0xdd5, 0xdd5), (0xdd7, 0xdd7), (0xde0, 0xde5), (0xdf0, 0xdf1), (0xdf5, 0xe00), (0xe3b, 0xe3e),
    (0xe5c, 0xe80), (0xe83, 0xe83), (0xe85, 0xe85), (0xe8b, 0xe8b), (0xea4, 0xea4), (0xea6, 0xea6),
    (0xebe, 0xebf), (0xec5, 0xec5), (0xec7, 0xec7), (0xecf, 0xecf), (0xeda, 0xedb), (0xee0, 0xeff),
    (0xf48, 0xf48), (0xf6d, 0xf70), (0xf98, 0xf98), (0xfbd, 0xfbd), (0xfcd, 0xfcd), (0xfdb, 0xfff),
    (0x10c6, 0x10c6), (0x10c8, 0x10cc), (0x10ce, 0x10cf), (0x1249, 0x1249), (0x124e, 0x124f),
    (0x1257, 0x1257), (0x1259, 0x1259), (0x125e, 0x125f), (0x1289, 0x1289), (0x128e, 0x128f),
    (0x12b1, 0x12b1), (0x12b6, 0x12b7), (0x12bf, 0x12bf), (0x12c1, 0x12c1), (0x12c6, 0x12c7),
    (0x12d7, 0x12d7), (0x1311, 0x1311), (0x1316, 0x1317), (0x135b, 0x135c), (0x137d, 0x137f),
    (0x139a, 0x139f), (0x13f6, 0x13f7), (0x13fe, 0x13ff), (0x1680, 0x1680), (0x169d, 0x169f),
    (0x16f9, 0x16ff), (0x1716, 0x171e), (0x1737, 0x173f), (0x1754, 0x175f), (0x176d, 0x176d),
    (0x1771, 0x1771), (0x1774, 0x177f), (0x17de, 0x17df), (0x17ea, 0x17ef), (0x17fa, 0x17ff),
    (0x181a, 0x181f), (0x1879, 0x187f), (0x18ab, 0x18af), (0x18f6, 0x18ff), (0x191f, 0x191f),
    (0x192c, 0x192f), (0x193c, 0x193f), (0x1941, 0x1943), (0x196e, 0x196f), (0x1975, 0x197f),
    (0x19ac, 0x19af), (0x19ca, 0x19cf), (0x19db, 0x19dd), (0x1a1c, 0x1a1d), (0x1a5f, 0x1a5f),
    (0x1a7d, 0x1a7e), (0x1a8a, 0x1a8f), (0x1a9a, 0x1a9f), (0x1aae, 0x1aaf), (0x1ade, 0x1adf),
    (0x1aec, 0x1aff), (0x1b4d, 0x1b4d), (0x1bf4, 0x1bfb), (0x1c38, 0x1c3a), (0x1c4a, 0x1c4c),
    (0x1c8b, 0x1c8f), (0x1cbb, 0x1cbc), (0x1cc8, 0x1ccf), (0x1cfb, 0x1cff), (0x1f16, 0x1f17),
    (0x1f1e, 0x1f1f), (0x1f46, 0x1f47), (0x1f4e, 0x1f4f), (0x1f58, 0x1f58), (0x1f5a, 0x1f5a),
    (0x1f5c, 0x1f5c), (0x1f5e, 0x1f5e), (0x1f7e, 0x1f7f), (0x1fb5, 0x1fb5), (0x1fbd, 0x1fbd),
    (0x1fbf, 0x1fc1), (0x1fc5, 0x1fc5), (0x1fcd, 0x1fcf), (0x1fd4, 0x1fd5), (0x1fdc, 0x1fdf),
    (0x1fed, 0x1fee), (0x1ff0, 0x1ff1), (0x1ff5, 0x1ff5), (0x1ffd, 0x200a), (0x200e, 0x200f),
    (0x2017, 0x2017), (0x2024, 0x2026), (0x2028, 0x202f), (0x203e, 0x203e), (0x205f, 0x205f),
    (0x2065, 0x2069), (0x2072, 0x2073), (0x208f, 0x208f), (0x209d, 0x209f), (0x20c2, 0x20cf),
    (0x20f1, 0x20ff), (0x218c, 0x218f), (0x242a, 0x243f), (0x244b, 0x245f), (0x2488, 0x249b),
    (0x2b74, 0x2b75), (0x2cf4, 0x2cf8), (0x2d26, 0x2d26), (0x2d28, 0x2d2c), (0x2d2e, 0x2d2f),
    (0x2d68, 0x2d6e), (0x2d71, 0x2d7e), (0x2d97, 0x2d9f), (0x2da7, 0x2da7), (0x2daf, 0x2daf),
    (0x2db7, 0x2db7), (0x2dbf, 0x2dbf), (0x2dc7, 0x2dc7), (0x2dcf, 0x2dcf), (0x2dd7, 0x2dd7),
    (0x2ddf, 0x2ddf), (0x2e5e, 0x2e7f), (0x2e9a, 0x2e9a), (0x2ef4, 0x2eff), (0x2fd6, 0x3000),
    (0x3040, 0x3040), (0x3097, 0x3098), (0x309b, 0x309c), (0x3100, 0x3104), (0x3130, 0x3130),
    (0x318f, 0x318f), (0x31e6, 0x31ef), (0x321f, 0x321f), (0x33c2, 0x33c2), (0x33c7, 0x33c7),
    (0x33d8, 0x33d8), (0xa48d, 0xa48f), (0xa4c7, 0xa4cf), (0xa62c, 0xa63f), (0xa6f8, 0xa6ff),
    (0xa7dd, 0xa7f0), (0xa82d, 0xa82f), (0xa83a, 0xa83f), (0xa878, 0xa87f), (0xa8c6, 0xa8cd),
    (0xa8da, 0xa8df), (0xa954, 0xa95e), (0xa97d, 0xa97f), (0xa9ce, 0xa9ce), (0xa9da, 0xa9dd),
    (0xa9ff, 0xa9ff), (0xaa37, 0xaa3f), (0xaa4e, 0xaa4f), (0xaa5a, 0xaa5b), (0xaac3, 0xaada),
    (0xaaf7, 0xab00), (0xab07, 0xab08), (0xab0f, 0xab10), (0xab17, 0xab1f), (0xab27, 0xab27),
    (0xab2f, 0xab2f), (0xab6c, 0xab6f), (0xabee, 0xabef), (0xabfa, 0xabff), (0xd7a4, 0xd7af),
    (0xd7c7, 0xd7ca), (0xd7fc, 0xf8ff), (0xfa6e, 0xfa6f), (0xfada, 0xfaff), (0xfb07, 0xfb12),
    (0xfb18, 0xfb1c), (0xfb37, 0xfb37), (0xfb3d, 0xfb3d), (0xfb3f, 0xfb3f), (0xfb42, 0xfb42),
    (0xfb45, 0xfb45), (0xfc5e, 0xfc63), (0xfdd0, 0xfdef), (0xfdfa, 0xfdfb), (0xfe12, 0xfe12),
    (0xfe19, 0xfe1f), (0xfe30, 0xfe30), (0xfe49, 0xfe4c), (0xfe52, 0xfe53), (0xfe67, 0xfe67),
    (0xfe6c, 0xfe70), (0xfe72, 0xfe72), (0xfe74, 0xfe76), (0xfe78, 0xfe78), (0xfe7a, 0xfe7a),
    (0xfe7c, 0xfe7c), (0xfe7e, 0xfe7e), (0xfefd, 0xfefe), (0xff00, 0xff00), (0xffbf, 0xffc1),
    (0xffc8, 0xffc9), (0xffd0, 0xffd1), (0xffd8, 0xffd9), (0xffdd, 0xffdf), (0xffe3, 0xffe3),
    (0xffe7, 0xffe7), (0xffef, 0xffff), (0x1000c, 0x1000c), (0x10027, 0x10027), (0x1003b, 0x1003b),
    (0x1003e, 0x1003e), (0x1004e, 0x1004f), (0x1005e, 0x1007f), (0x100fb, 0x100ff),
    (0x10103, 0x10106), (0x10134, 0x10136), (0x1018f, 0x1018f), (0x1019d, 0x1019f),
    (0x101a1, 0x101cf), (0x101fe, 0x1027f), (0x1029d, 0x1029f), (0x102d1, 0x102df),
    (0x102fc, 0x102ff), (0x10324, 0x1032c), (0x1034b, 0x1034f), (0x1037b, 0x1037f),
    (0x1039e, 0x1039e), (0x103c4, 0x103c7), (0x103d6, 0x103ff), (0x1049e, 0x1049f),
    (0x104aa, 0x104af), (0x104d4, 0x104d7), (0x104fc, 0x104ff), (0x10528, 0x1052f),
    (0x10564, 0x1056e), (0x1057b, 0x1057b), (0x1058b, 0x1058b), (0x10593, 0x10593),
    (0x10596, 0x10596), (0x105a2, 0x105a2), (0x105b2, 0x105b2), (0x105ba, 0x105ba),
    (0x105bd, 0x105bf), (0x105f4, 0x105ff), (0x10737, 0x1073f), (0x10756, 0x1075f),
    (0x10768, 0x1077f), (0x10786, 0x10786), (0x107b1, 0x107b1), (0x107bb, 0x107ff),
    (0x10806, 0x10807), (0x10809, 0x10809), (0x10836, 0x10836), (0x10839, 0x1083b),
    (0x1083d, 0x1083e), (0x10856, 0x10856), (0x1089f, 0x108a6), (0x108b0, 0x108df),
    (0x108f3, 0x108f3), (0x108f6, 0x108fa), (0x1091c, 0x1091e), (0x1093a, 0x1093e),
    (0x1095a, 0x1097f), (0x109b8, 0x109bb), (0x109d0, 0x109d1), (0x10a04, 0x10a04),
    (0x10a07, 0x10a0b), (0x10a14, 0x10a14), (0x10a18, 0x10a18), (0x10a36, 0x10a37),
    (0x10a3b, 0x10a3e), (0x10a49, 0x10a4f), (0x10a59, 0x10a5f), (0x10aa0, 0x10abf),
    (0x10ae7, 0x10aea), (0x10af7, 0x10aff), (0x10b36, 0x10b38), (0x10b56, 0x10b57),
    (0x10b73, 0x10b77), (0x10b92, 0x10b98), (0x10b9d, 0x10ba8), (0x10bb0, 0x10bff),
    (0x10c49, 0x10c7f), (0x10cb3, 0x10cbf), (0x10cf3, 0x10cf9), (0x10d28, 0x10d2f),
    (0x10d3a, 0x10d3f), (0x10d66, 0x10d68), (0x10d86, 0x10d8d), (0x10d90, 0x10e5f),
    (0x10e7f, 0x10e7f), (0x10eaa, 0x10eaa), (0x10eae, 0x10eaf), (0x10eb2, 0x10ec1),
    (0x10ec8, 0x10ecf), (0x10ed9, 0x10ef9), (0x10f28, 0x10f2f), (0x10f5a, 0x10f6f),
    (0x10f8a, 0x10faf), (0x10fcc, 0x10fdf), (0x10ff7, 0x10fff), (0x1104e, 0x11051),
    (0x11076, 0x1107e), (0x110bd, 0x110bd), (0x110c3, 0x110cf), (0x110e9, 0x110ef),
    (0x110fa, 0x110ff), (0x11135, 0x11135), (0x11148, 0x1114f), (0x11177, 0x1117f),
    (0x111e0, 0x111e0), (0x111f5, 0x111ff), (0x11212, 0x11212), (0x11242, 0x1127f),
    (0x11287, 0x11287), (0x11289, 0x11289), (0x1128e, 0x1128e), (0x1129e, 0x1129e),
    (0x112aa, 0x112af), (0x112eb, 0x112ef), (0x112fa, 0x112ff), (0x11304, 0x11304),
    (0x1130d, 0x1130e), (0x11311, 0x11312), (0x11329, 0x11329), (0x11331, 0x11331),
    (0x11334, 0x11334), (0x1133a, 0x1133a), (0x11345, 0x11346), (0x11349, 0x1134a),
    (0x1134e, 0x1134f), (0x11351, 0x11356), (0x11358, 0x1135c), (0x11364, 0x11365),
    (0x1136d, 0x1136f), (0x11375, 0x1137f), (0x1138a, 0x1138a), (0x1138c, 0x1138d),
    (0x1138f, 0x1138f), (0x113b6, 0x113b6), (0x113c1, 0x113c1), (0x113c3, 0x113c4),
    (0x113c6, 0x113c6), (0x113cb, 0x113cb), (0x113d6, 0x113d6), (0x113d9, 0x113e0),
    (0x113e3, 0x113ff), (0x1145c, 0x1145c), (0x11462, 0x1147f), (0x114c8, 0x114cf),
    (0x114da, 0x1157f), (0x115b6, 0x115b7), (0x115de, 0x115ff), (0x11645, 0x1164f),
    (0x1165a, 0x1165f), (0x1166d, 0x1167f), (0x116ba, 0x116bf), (0x116ca, 0x116cf),
    (0x116e4, 0x116ff), (0x1171b, 0x1171c), (0x1172c, 0x1172f), (0x11747, 0x117ff),
    (0x1183c, 0x1189f), (0x118f3, 0x118fe), (0x11907, 0x11908), (0x1190a, 0x1190b),
    (0x11914, 0x11914), (0x11917, 0x11917), (0x11936, 0x11936), (0x11939, 0x1193a),
    (0x11947, 0x1194f), (0x1195a, 0x1199f), (0x119a8, 0x119a9), (0x119d8, 0x119d9),
    (0x119e5, 0x119ff), (0x11a48, 0x11a4f), (0x11aa3, 0x11aaf), (0x11af9, 0x11aff),
    (0x11b0a, 0x11b5f), (0x11b68, 0x11bbf), (0x11be2, 0x11bef), (0x11bfa, 0x11bff),
    (0x11c09, 0x11c09), (0x11c37, 0x11c37), (0x11c46, 0x11c4f), (0x11c6d, 0x11c6f),
    (0x11c90, 0x11c91), (0x11ca8, 0x11ca8), (0x11cb7, 0x11cff), (0x11d07, 0x11d07),
    (0x11d0a, 0x11d0a), (0x11d37, 0x11d39), (0x11d3b, 0x11d3b), (0x11d3e, 0x11d3e),
    (0x11d48, 0x11d4f), (0x11d5a, 0x11d5f), (0x11d66, 0x11d66), (0x11d69, 0x11d69),
    (0x11d8f, 0x11d8f), (0x11d92, 0x11d92), (0x11d99, 0x11d9f), (0x11daa, 0x11daf),
    (0x11ddc, 0x11ddf), (0x11dea, 0x11edf), (0x11ef9, 0x11eff), (0x11f11, 0x11f11),
    (0x11f3b, 0x11f3d), (0x11f5b, 0x11faf), (0x11fb1, 0x11fbf), (0x11ff2, 0x11ffe),
    (0x1239a, 0x123ff), (0x1246f, 0x1246f), (0x12475, 0x1247f), (0x12544, 0x12f8f),
    (0x12ff3, 0x12fff), (0x13430, 0x1343f), (0x13456, 0x1345f), (0x143fb, 0x143ff),
    (0x14647, 0x160ff), (0x1613a, 0x167ff), (0x16a39, 0x16a3f), (0x16a5f, 0x16a5f),
    (0x16a6a, 0x16a6d), (0x16abf, 0x16abf), (0x16aca, 0x16acf), (0x16aee, 0x16aef),
    (0x16af6, 0x16aff), (0x16b46, 0x16b4f), (0x16b5a, 0x16b5a), (0x16b62, 0x16b62),
    (0x16b78, 0x16b7c), (0x16b90, 0x16d3f), (0x16d7a, 0x16e3f), (0x16e9b, 0x16e9f),
    (0x16eb9, 0x16eba), (0x16ed4, 0x16eff), (0x16f4b, 0x16f4e), (0x16f88, 0x16f8e),
    (0x16fa0, 0x16fdf), (0x16fe5, 0x16fef), (0x16ff7, 0x16fff), (0x18cd6, 0x18cfe),
    (0x18d1f, 0x18d7f), (0x18df3, 0x1afef), (0x1aff4, 0x1aff4), (0x1affc, 0x1affc),
    (0x1afff, 0x1afff), (0x1b123, 0x1b131), (0x1b133, 0x1b14f), (0x1b153, 0x1b154),
    (0x1b156, 0x1b163), (0x1b168, 0x1b16f), (0x1b2fc, 0x1bbff), (0x1bc6b, 0x1bc6f),
    (0x1bc7d, 0x1bc7f), (0x1bc89, 0x1bc8f), (0x1bc9a, 0x1bc9b), (0x1bca4, 0x1cbff),
    (0x1ccfd, 0x1ccff), (0x1ceb4, 0x1ceb9), (0x1ced1, 0x1cedf), (0x1cef1, 0x1ceff),
    (0x1cf2e, 0x1cf2f), (0x1cf47, 0x1cf4f), (0x1cfc4, 0x1cfff), (0x1d0f6, 0x1d0ff),
    (0x1d127, 0x1d128), (0x1d1eb, 0x1d1ff), (0x1d246, 0x1d2bf), (0x1d2d4, 0x1d2df),
    (0x1d2f4, 0x1d2ff), (0x1d357, 0x1d35f), (0x1d379, 0x1d3ff), (0x1d455, 0x1d455),
    (0x1d49d, 0x1d49d), (0x1d4a0, 0x1d4a1), (0x1d4a3, 0x1d4a4), (0x1d4a7, 0x1d4a8),
    (0x1d4ad, 0x1d4ad), (0x1d4ba, 0x1d4ba), (0x1d4bc, 0x1d4bc), (0x1d4c4, 0x1d4c4),
    (0x1d506, 0x1d506), (0x1d50b, 0x1d50c), (0x1d515, 0x1d515), (0x1d51d, 0x1d51d),
    (0x1d53a, 0x1d53a), (0x1d53f, 0x1d53f), (0x1d545, 0x1d545), (0x1d547, 0x1d549),
    (0x1d551, 0x1d551), (0x1d6a6, 0x1d6a7), (0x1d7cc, 0x1d7cd), (0x1da8c, 0x1da9a),
    (0x1daa0, 0x1daa0), (0x1dab0, 0x1deff), (0x1df1f, 0x1df24), (0x1df2b, 0x1dfff),
    (0x1e007, 0x1e007), (0x1e019, 0x1e01a), (0x1e022, 0x1e022), (0x1e025, 0x1e025),
    (0x1e02b, 0x1e02f), (0x1e06e, 0x1e08e), (0x1e090, 0x1e0ff), (0x1e12d, 0x1e12f),
    (0x1e13e, 0x1e13f), (0x1e14a, 0x1e14d), (0x1e150, 0x1e28f), (0x1e2af, 0x1e2bf),
    (0x1e2fa, 0x1e2fe), (0x1e300, 0x1e4cf), (0x1e4fa, 0x1e5cf), (0x1e5fb, 0x1e5fe),
    (0x1e600, 0x1e6bf), (0x1e6df, 0x1e6df), (0x1e6f6, 0x1e6fd), (0x1e700, 0x1e7df),
    (0x1e7e7, 0x1e7e7), (0x1e7ec, 0x1e7ec), (0x1e7ef, 0x1e7ef), (0x1e7ff, 0x1e7ff),
    (0x1e8c5, 0x1e8c6), (0x1e8d7, 0x1e8ff), (0x1e94c, 0x1e94f), (0x1e95a, 0x1e95d),
    (0x1e960, 0x1ec70), (0x1ecb5, 0x1ed00), (0x1ed3e, 0x1edff), (0x1ee04, 0x1ee04),
    (0x1ee20, 0x1ee20), (0x1ee23, 0x1ee23), (0x1ee25, 0x1ee26), (0x1ee28, 0x1ee28),
    (0x1ee33, 0x1ee33), (0x1ee38, 0x1ee38), (0x1ee3a, 0x1ee3a), (0x1ee3c, 0x1ee41),
    (0x1ee43, 0x1ee46), (0x1ee48, 0x1ee48), (0x1ee4a, 0x1ee4a), (0x1ee4c, 0x1ee4c),
    (0x1ee50, 0x1ee50), (0x1ee53, 0x1ee53), (0x1ee55, 0x1ee56), (0x1ee58, 0x1ee58),
    (0x1ee5a, 0x1ee5a), (0x1ee5c, 0x1ee5c), (0x1ee5e, 0x1ee5e), (0x1ee60, 0x1ee60),
    (0x1ee63, 0x1ee63), (0x1ee65, 0x1ee66), (0x1ee6b, 0x1ee6b), (0x1ee73, 0x1ee73),
    (0x1ee78, 0x1ee78), (0x1ee7d, 0x1ee7d), (0x1ee7f, 0x1ee7f), (0x1ee8a, 0x1ee8a),
    (0x1ee9c, 0x1eea0), (0x1eea4, 0x1eea4), (0x1eeaa, 0x1eeaa), (0x1eebc, 0x1eeef),
    (0x1eef2, 0x1efff), (0x1f02c, 0x1f02f), (0x1f094, 0x1f09f), (0x1f0af, 0x1f0b0),
    (0x1f0c0, 0x1f0c0), (0x1f0d0, 0x1f0d0), (0x1f0f6, 0x1f100), (0x1f1ae, 0x1f1e5),
    (0x1f203, 0x1f20f), (0x1f23c, 0x1f23f), (0x1f249, 0x1f24f), (0x1f252, 0x1f25f),
    (0x1f266, 0x1f2ff), (0x1f6d9, 0x1f6db), (0x1f6ed, 0x1f6ef), (0x1f6fd, 0x1f6ff),
    (0x1f7da, 0x1f7df), (0x1f7ec, 0x1f7ef), (0x1f7f1, 0x1f7ff), (0x1f80c, 0x1f80f),
    (0x1f848, 0x1f84f), (0x1f85a, 0x1f85f), (0x1f888, 0x1f88f), (0x1f8ae, 0x1f8af),
    (0x1f8bc, 0x1f8bf), (0x1f8c2, 0x1f8cf), (0x1f8d9, 0x1f8ff), (0x1fa58, 0x1fa5f),
    (0x1fa6e, 0x1fa6f), (0x1fa7d, 0x1fa7f), (0x1fa8b, 0x1fa8d), (0x1fac7, 0x1fac7),
    (0x1fac9, 0x1facc), (0x1fadd, 0x1fade), (0x1faeb, 0x1faee), (0x1faf9, 0x1faff),
    (0x1fb93, 0x1fb93), (0x1fbfb, 0x1ffff), (0x2a6e0, 0x2a6ff), (0x2b81e, 0x2b81f),
    (0x2ceae, 0x2ceaf), (0x2ebe1, 0x2ebef), (0x2ee5e, 0x2f7ff), (0x2fa1e, 0x2ffff),
    (0x3134b, 0x3134f), (0x3347a, 0xe00ff), (0xe01f0, 0x10ffff)]⟩

/-- The characters that are left out. -/
def droppedSet : CharSet :=
  ⟨[(0xad, 0xad), (0x34f, 0x34f), (0x115f, 0x1160), (0x17b4, 0x17b5), (0x180b, 0x180f),
    (0x200b, 0x200b), (0x2060, 0x2064), (0x206a, 0x206f), (0x3164, 0x3164), (0xfe00, 0xfe0f),
    (0xfeff, 0xfeff), (0xffa0, 0xffa0), (0x1bca0, 0x1bca3), (0x1d173, 0x1d17a), (0xe0100, 0xe01ef)]⟩

/-- The characters that others outside of ASCII take the place of, among those that are in none of
the other tables. -/
def alteredSet : CharSet :=
  ⟨[(0xb5, 0xb5), (0xc0, 0xd6), (0xd8, 0xde), (0x100, 0x100), (0x102, 0x102), (0x104, 0x104),
    (0x106, 0x106), (0x108, 0x108), (0x10a, 0x10a), (0x10c, 0x10c), (0x10e, 0x10e), (0x110, 0x110),
    (0x112, 0x112), (0x114, 0x114), (0x116, 0x116), (0x118, 0x118), (0x11a, 0x11a), (0x11c, 0x11c),
    (0x11e, 0x11e), (0x120, 0x120), (0x122, 0x122), (0x124, 0x124), (0x126, 0x126), (0x128, 0x128),
    (0x12a, 0x12a), (0x12c, 0x12c), (0x12e, 0x12e), (0x134, 0x134), (0x136, 0x136), (0x139, 0x139),
    (0x13b, 0x13b), (0x13d, 0x13d), (0x141, 0x141), (0x143, 0x143), (0x145, 0x145), (0x147, 0x147),
    (0x14a, 0x14a), (0x14c, 0x14c), (0x14e, 0x14e), (0x150, 0x150), (0x152, 0x152), (0x154, 0x154),
    (0x156, 0x156), (0x158, 0x158), (0x15a, 0x15a), (0x15c, 0x15c), (0x15e, 0x15e), (0x160, 0x160),
    (0x162, 0x162), (0x164, 0x164), (0x166, 0x166), (0x168, 0x168), (0x16a, 0x16a), (0x16c, 0x16c),
    (0x16e, 0x16e), (0x170, 0x170), (0x172, 0x172), (0x174, 0x174), (0x176, 0x176), (0x178, 0x179),
    (0x17b, 0x17b), (0x17d, 0x17d), (0x181, 0x182), (0x184, 0x184), (0x186, 0x187), (0x189, 0x18b),
    (0x18e, 0x191), (0x193, 0x194), (0x196, 0x198), (0x19c, 0x19d), (0x19f, 0x1a0), (0x1a2, 0x1a2),
    (0x1a4, 0x1a4), (0x1a6, 0x1a7), (0x1a9, 0x1a9), (0x1ac, 0x1ac), (0x1ae, 0x1af), (0x1b1, 0x1b3),
    (0x1b5, 0x1b5), (0x1b7, 0x1b8), (0x1bc, 0x1bc), (0x1cd, 0x1cd), (0x1cf, 0x1cf), (0x1d1, 0x1d1),
    (0x1d3, 0x1d3), (0x1d5, 0x1d5), (0x1d7, 0x1d7), (0x1d9, 0x1d9), (0x1db, 0x1db), (0x1de, 0x1de),
    (0x1e0, 0x1e0), (0x1e2, 0x1e2), (0x1e4, 0x1e4), (0x1e6, 0x1e6), (0x1e8, 0x1e8), (0x1ea, 0x1ea),
    (0x1ec, 0x1ec), (0x1ee, 0x1ee), (0x1f4, 0x1f4), (0x1f6, 0x1f8), (0x1fa, 0x1fa), (0x1fc, 0x1fc),
    (0x1fe, 0x1fe), (0x200, 0x200), (0x202, 0x202), (0x204, 0x204), (0x206, 0x206), (0x208, 0x208),
    (0x20a, 0x20a), (0x20c, 0x20c), (0x20e, 0x20e), (0x210, 0x210), (0x212, 0x212), (0x214, 0x214),
    (0x216, 0x216), (0x218, 0x218), (0x21a, 0x21a), (0x21c, 0x21c), (0x21e, 0x21e), (0x220, 0x220),
    (0x222, 0x222), (0x224, 0x224), (0x226, 0x226), (0x228, 0x228), (0x22a, 0x22a), (0x22c, 0x22c),
    (0x22e, 0x22e), (0x230, 0x230), (0x232, 0x232), (0x23a, 0x23b), (0x23d, 0x23e), (0x241, 0x241),
    (0x243, 0x246), (0x248, 0x248), (0x24a, 0x24a), (0x24c, 0x24c), (0x24e, 0x24e), (0x2b1, 0x2b6),
    (0x2e0, 0x2e4), (0x340, 0x341), (0x343, 0x345), (0x370, 0x370), (0x372, 0x372), (0x374, 0x374),
    (0x376, 0x376), (0x37f, 0x38f), (0x391, 0x3ab), (0x3cf, 0x3d6), (0x3d8, 0x3d8), (0x3da, 0x3da),
    (0x3dc, 0x3dc), (0x3de, 0x3de), (0x3e0, 0x3e0), (0x3e2, 0x3e2), (0x3e4, 0x3e4), (0x3e6, 0x3e6),
    (0x3e8, 0x3e8), (0x3ea, 0x3ea), (0x3ec, 0x3ec), (0x3ee, 0x3ee), (0x3f0, 0x3f2), (0x3f4, 0x3f5),
    (0x3f7, 0x3f7), (0x3f9, 0x3fa), (0x3fd, 0x42f), (0x460, 0x460), (0x462, 0x462), (0x464, 0x464),
    (0x466, 0x466), (0x468, 0x468), (0x46a, 0x46a), (0x46c, 0x46c), (0x46e, 0x46e), (0x470, 0x470),
    (0x472, 0x472), (0x474, 0x474), (0x476, 0x476), (0x478, 0x478), (0x47a, 0x47a), (0x47c, 0x47c),
    (0x47e, 0x47e), (0x480, 0x480), (0x48a, 0x48a), (0x48c, 0x48c), (0x48e, 0x48e), (0x490, 0x490),
    (0x492, 0x492), (0x494, 0x494), (0x496, 0x496), (0x498, 0x498), (0x49a, 0x49a), (0x49c, 0x49c),
    (0x49e, 0x49e), (0x4a0, 0x4a0), (0x4a2, 0x4a2), (0x4a4, 0x4a4), (0x4a6, 0x4a6), (0x4a8, 0x4a8),
    (0x4aa, 0x4aa), (0x4ac, 0x4ac), (0x4ae, 0x4ae), (0x4b0, 0x4b0), (0x4b2, 0x4b2), (0x4b4, 0x4b4),
    (0x4b6, 0x4b6), (0x4b8, 0x4b8), (0x4ba, 0x4ba), (0x4bc, 0x4bc), (0x4be, 0x4be), (0x4c0, 0x4c1),
    (0x4c3, 0x4c3), (0x4c5, 0x4c5), (0x4c7, 0x4c7), (0x4c9, 0x4c9), (0x4cb, 0x4cb), (0x4cd, 0x4cd),
    (0x4d0, 0x4d0), (0x4d2, 0x4d2), (0x4d4, 0x4d4), (0x4d6, 0x4d6), (0x4d8, 0x4d8), (0x4da, 0x4da),
    (0x4dc, 0x4dc), (0x4de, 0x4de), (0x4e0, 0x4e0), (0x4e2, 0x4e2), (0x4e4, 0x4e4), (0x4e6, 0x4e6),
    (0x4e8, 0x4e8), (0x4ea, 0x4ea), (0x4ec, 0x4ec), (0x4ee, 0x4ee), (0x4f0, 0x4f0), (0x4f2, 0x4f2),
    (0x4f4, 0x4f4), (0x4f6, 0x4f6), (0x4f8, 0x4f8), (0x4fa, 0x4fa), (0x4fc, 0x4fc), (0x4fe, 0x4fe),
    (0x500, 0x500), (0x502, 0x502), (0x504, 0x504), (0x506, 0x506), (0x508, 0x508), (0x50a, 0x50a),
    (0x50c, 0x50c), (0x50e, 0x50e), (0x510, 0x510), (0x512, 0x512), (0x514, 0x514), (0x516, 0x516),
    (0x518, 0x518), (0x51a, 0x51a), (0x51c, 0x51c), (0x51e, 0x51e), (0x520, 0x520), (0x522, 0x522),
    (0x524, 0x524), (0x526, 0x526), (0x528, 0x528), (0x52a, 0x52a), (0x52c, 0x52c), (0x52e, 0x52e),
    (0x531, 0x556), (0x587, 0x587), (0x675, 0x678), (0x958, 0x95f), (0x9dc, 0x9df), (0xa33, 0xa33),
    (0xa36, 0xa36), (0xa59, 0xa5b), (0xa5e, 0xa5e), (0xb5c, 0xb5d), (0xe33, 0xe33), (0xeb3, 0xeb3),
    (0xedc, 0xedd), (0xf0c, 0xf0c), (0xf43, 0xf43), (0xf4d, 0xf4d), (0xf52, 0xf52), (0xf57, 0xf57),
    (0xf5c, 0xf5c), (0xf69, 0xf69), (0xf73, 0xf73), (0xf75, 0xf79), (0xf81, 0xf81), (0xf93, 0xf93),
    (0xf9d, 0xf9d), (0xfa2, 0xfa2), (0xfa7, 0xfa7), (0xfac, 0xfac), (0xfb9, 0xfb9),
    (0x10a0, 0x10cd), (0x10fc, 0x10fc), (0x13f8, 0x13fd), (0x1c80, 0x1c89), (0x1c90, 0x1cbf),
    (0x1d2d, 0x1d2d), (0x1d32, 0x1d32), (0x1d3d, 0x1d4c), (0x1d51, 0x1d6a), (0x1d78, 0x1d78),
    (0x1d9b, 0x1dbf), (0x1e00, 0x1e00), (0x1e02, 0x1e02), (0x1e04, 0x1e04), (0x1e06, 0x1e06),
    (0x1e08, 0x1e08), (0x1e0a, 0x1e0a), (0x1e0c, 0x1e0c), (0x1e0e, 0x1e0e), (0x1e10, 0x1e10),
    (0x1e12, 0x1e12), (0x1e14, 0x1e14), (0x1e16, 0x1e16), (0x1e18, 0x1e18), (0x1e1a, 0x1e1a),
    (0x1e1c, 0x1e1c), (0x1e1e, 0x1e1e), (0x1e20, 0x1e20), (0x1e22, 0x1e22), (0x1e24, 0x1e24),
    (0x1e26, 0x1e26), (0x1e28, 0x1e28), (0x1e2a, 0x1e2a), (0x1e2c, 0x1e2c), (0x1e2e, 0x1e2e),
    (0x1e30, 0x1e30), (0x1e32, 0x1e32), (0x1e34, 0x1e34), (0x1e36, 0x1e36), (0x1e38, 0x1e38),
    (0x1e3a, 0x1e3a), (0x1e3c, 0x1e3c), (0x1e3e, 0x1e3e), (0x1e40, 0x1e40), (0x1e42, 0x1e42),
    (0x1e44, 0x1e44), (0x1e46, 0x1e46), (0x1e48, 0x1e48), (0x1e4a, 0x1e4a), (0x1e4c, 0x1e4c),
    (0x1e4e, 0x1e4e), (0x1e50, 0x1e50), (0x1e52, 0x1e52), (0x1e54, 0x1e54), (0x1e56, 0x1e56),
    (0x1e58, 0x1e58), (0x1e5a, 0x1e5a), (0x1e5c, 0x1e5c), (0x1e5e, 0x1e5e), (0x1e60, 0x1e60),
    (0x1e62, 0x1e62), (0x1e64, 0x1e64), (0x1e66, 0x1e66), (0x1e68, 0x1e68), (0x1e6a, 0x1e6a),
    (0x1e6c, 0x1e6c), (0x1e6e, 0x1e6e), (0x1e70, 0x1e70), (0x1e72, 0x1e72), (0x1e74, 0x1e74),
    (0x1e76, 0x1e76), (0x1e78, 0x1e78), (0x1e7a, 0x1e7a), (0x1e7c, 0x1e7c), (0x1e7e, 0x1e7e),
    (0x1e80, 0x1e80), (0x1e82, 0x1e82), (0x1e84, 0x1e84), (0x1e86, 0x1e86), (0x1e88, 0x1e88),
    (0x1e8a, 0x1e8a), (0x1e8c, 0x1e8c), (0x1e8e, 0x1e8e), (0x1e90, 0x1e90), (0x1e92, 0x1e92),
    (0x1e94, 0x1e94), (0x1e9b, 0x1e9b), (0x1e9e, 0x1e9e), (0x1ea0, 0x1ea0), (0x1ea2, 0x1ea2),
    (0x1ea4, 0x1ea4), (0x1ea6, 0x1ea6), (0x1ea8, 0x1ea8), (0x1eaa, 0x1eaa), (0x1eac, 0x1eac),
    (0x1eae, 0x1eae), (0x1eb0, 0x1eb0), (0x1eb2, 0x1eb2), (0x1eb4, 0x1eb4), (0x1eb6, 0x1eb6),
    (0x1eb8, 0x1eb8), (0x1eba, 0x1eba), (0x1ebc, 0x1ebc), (0x1ebe, 0x1ebe), (0x1ec0, 0x1ec0),
    (0x1ec2, 0x1ec2), (0x1ec4, 0x1ec4), (0x1ec6, 0x1ec6), (0x1ec8, 0x1ec8), (0x1eca, 0x1eca),
    (0x1ecc, 0x1ecc), (0x1ece, 0x1ece), (0x1ed0, 0x1ed0), (0x1ed2, 0x1ed2), (0x1ed4, 0x1ed4),
    (0x1ed6, 0x1ed6), (0x1ed8, 0x1ed8), (0x1eda, 0x1eda), (0x1edc, 0x1edc), (0x1ede, 0x1ede),
    (0x1ee0, 0x1ee0), (0x1ee2, 0x1ee2), (0x1ee4, 0x1ee4), (0x1ee6, 0x1ee6), (0x1ee8, 0x1ee8),
    (0x1eea, 0x1eea), (0x1eec, 0x1eec), (0x1eee, 0x1eee), (0x1ef0, 0x1ef0), (0x1ef2, 0x1ef2),
    (0x1ef4, 0x1ef4), (0x1ef6, 0x1ef6), (0x1ef8, 0x1ef8), (0x1efa, 0x1efa), (0x1efc, 0x1efc),
    (0x1efe, 0x1efe), (0x1f08, 0x1f0f), (0x1f18, 0x1f1d), (0x1f28, 0x1f2f), (0x1f38, 0x1f3f),
    (0x1f48, 0x1f4d), (0x1f59, 0x1f5f), (0x1f68, 0x1f6f), (0x1f71, 0x1f71), (0x1f73, 0x1f73),
    (0x1f75, 0x1f75), (0x1f77, 0x1f77), (0x1f79, 0x1f79), (0x1f7b, 0x1f7b), (0x1f7d, 0x1faf),
    (0x1fb2, 0x1fb4), (0x1fb7, 0x1fc4), (0x1fc7, 0x1fcc), (0x1fd3, 0x1fd3), (0x1fd8, 0x1fdb),
    (0x1fe3, 0x1fe3), (0x1fe8, 0x1ff4), (0x1ff7, 0x1ffc), (0x2011, 0x2011), (0x2033, 0x2034),
    (0x2036, 0x2037), (0x2057, 0x2057), (0x207b, 0x2094), (0x2107, 0x2107), (0x210f, 0x210f),
    (0x2126, 0x2126), (0x212b, 0x212b), (0x2132, 0x2138), (0x213c, 0x2140), (0x2183, 0x2183),
    (0x222c, 0x222d), (0x222f, 0x2230), (0x2329, 0x232a), (0x2a0c, 0x2a0c), (0x2adc, 0x2adc),
    (0x2c00, 0x2c2f), (0x2c60, 0x2c60), (0x2c62, 0x2c64), (0x2c67, 0x2c67), (0x2c69, 0x2c69),
    (0x2c6b, 0x2c6b), (0x2c6d, 0x2c70), (0x2c72, 0x2c72), (0x2c75, 0x2c75), (0x2c7e, 0x2c80),
    (0x2c82, 0x2c82), (0x2c84, 0x2c84), (0x2c86, 0x2c86), (0x2c88, 0x2c88), (0x2c8a, 0x2c8a),
    (0x2c8c, 0x2c8c), (0x2c8e, 0x2c8e), (0x2c90, 0x2c90), (0x2c92, 0x2c92), (0x2c94, 0x2c94),
    (0x2c96, 0x2c96), (0x2c98, 0x2c98), (0x2c9a, 0x2c9a), (0x2c9c, 0x2c9c), (0x2c9e, 0x2c9e),
    (0x2ca0, 0x2ca0), (0x2ca2, 0x2ca2), (0x2ca4, 0x2ca4), (0x2ca6, 0x2ca6), (0x2ca8, 0x2ca8),
    (0x2caa, 0x2caa), (0x2cac, 0x2cac), (0x2cae, 0x2cae), (0x2cb0, 0x2cb0), (0x2cb2, 0x2cb2),
    (0x2cb4, 0x2cb4), (0x2cb6, 0x2cb6), (0x2cb8, 0x2cb8), (0x2cba, 0x2cba), (0x2cbc, 0x2cbc),
    (0x2cbe, 0x2cbe), (0x2cc0, 0x2cc0), (0x2cc2, 0x2cc2), (0x2cc4, 0x2cc4), (0x2cc6, 0x2cc6),
    (0x2cc8, 0x2cc8), (0x2cca, 0x2cca), (0x2ccc, 0x2ccc), (0x2cce, 0x2cce), (0x2cd0, 0x2cd0),
    (0x2cd2, 0x2cd2), (0x2cd4, 0x2cd4), (0x2cd6, 0x2cd6), (0x2cd8, 0x2cd8), (0x2cda, 0x2cda),
    (0x2cdc, 0x2cdc), (0x2cde, 0x2cde), (0x2ce0, 0x2ce0), (0x2ce2, 0x2ce2), (0x2ceb, 0x2ceb),
    (0x2ced, 0x2ced), (0x2cf2, 0x2cf2), (0x2d6f, 0x2d6f), (0x2e9f, 0x2e9f), (0x2ef3, 0x2fd5),
    (0x3036, 0x3036), (0x3038, 0x303a), (0x309f, 0x309f), (0x30ff, 0x30ff), (0x3131, 0x318e),
    (0x3192, 0x319f), (0x3244, 0x3247), (0x3260, 0x327e), (0x3280, 0x337f), (0xa640, 0xa640),
    (0xa642, 0xa642), (0xa644, 0xa644), (0xa646, 0xa646), (0xa648, 0xa648), (0xa64a, 0xa64a),
    (0xa64c, 0xa64c), (0xa64e, 0xa64e), (0xa650, 0xa650), (0xa652, 0xa652), (0xa654, 0xa654),
    (0xa656, 0xa656), (0xa658, 0xa658), (0xa65a, 0xa65a), (0xa65c, 0xa65c), (0xa65e, 0xa65e),
    (0xa660, 0xa660), (0xa662, 0xa662), (0xa664, 0xa664), (0xa666, 0xa666), (0xa668, 0xa668),
    (0xa66a, 0xa66a), (0xa66c, 0xa66c), (0xa680, 0xa680), (0xa682, 0xa682), (0xa684, 0xa684),
    (0xa686, 0xa686), (0xa688, 0xa688), (0xa68a, 0xa68a), (0xa68c, 0xa68c), (0xa68e, 0xa68e),
    (0xa690, 0xa690), (0xa692, 0xa692), (0xa694, 0xa694), (0xa696, 0xa696), (0xa698, 0xa698),
    (0xa69a, 0xa69a), (0xa69c, 0xa69d), (0xa722, 0xa722), (0xa724, 0xa724), (0xa726, 0xa726),
    (0xa728, 0xa728), (0xa72a, 0xa72a), (0xa72c, 0xa72c), (0xa72e, 0xa72e), (0xa732, 0xa732),
    (0xa734, 0xa734), (0xa736, 0xa736), (0xa738, 0xa738), (0xa73a, 0xa73a), (0xa73c, 0xa73c),
    (0xa73e, 0xa73e), (0xa740, 0xa740), (0xa742, 0xa742), (0xa744, 0xa744), (0xa746, 0xa746),
    (0xa748, 0xa748), (0xa74a, 0xa74a), (0xa74c, 0xa74c), (0xa74e, 0xa74e), (0xa750, 0xa750),
    (0xa752, 0xa752), (0xa754, 0xa754), (0xa756, 0xa756), (0xa758, 0xa758), (0xa75a, 0xa75a),
    (0xa75c, 0xa75c), (0xa75e, 0xa75e), (0xa760, 0xa760), (0xa762, 0xa762), (0xa764, 0xa764),
    (0xa766, 0xa766), (0xa768, 0xa768), (0xa76a, 0xa76a), (0xa76c, 0xa76c), (0xa76e, 0xa76e),
    (0xa770, 0xa770), (0xa779, 0xa779), (0xa77b, 0xa77b), (0xa77d, 0xa77e), (0xa780, 0xa780),
    (0xa782, 0xa782), (0xa784, 0xa784), (0xa786, 0xa786), (0xa78b, 0xa78b), (0xa78d, 0xa78d),
    (0xa790, 0xa790), (0xa792, 0xa792), (0xa796, 0xa796), (0xa798, 0xa798), (0xa79a, 0xa79a),
    (0xa79c, 0xa79c), (0xa79e, 0xa79e), (0xa7a0, 0xa7a0), (0xa7a2, 0xa7a2), (0xa7a4, 0xa7a4),
    (0xa7a6, 0xa7a6), (0xa7a8, 0xa7a8), (0xa7aa, 0xa7ae), (0xa7b0, 0xa7b4), (0xa7b6, 0xa7b6),
    (0xa7b8, 0xa7b8), (0xa7ba, 0xa7ba), (0xa7bc, 0xa7bc), (0xa7be, 0xa7be), (0xa7c0, 0xa7c0),
    (0xa7c2, 0xa7c2), (0xa7c4, 0xa7c7), (0xa7c9, 0xa7c9), (0xa7cb, 0xa7cc), (0xa7ce, 0xa7ce),
    (0xa7d0, 0xa7d0), (0xa7d2, 0xa7d2), (0xa7d4, 0xa7d4), (0xa7d6, 0xa7d6), (0xa7d8, 0xa7d8),
    (0xa7da, 0xa7da), (0xa7dc, 0xa7f5), (0xa7f8, 0xa7f9), (0xab5c, 0xab5f), (0xab69, 0xab69),
    (0xab70, 0xabbf), (0xf900, 0xfa0d), (0xfa10, 0xfa10), (0xfa12, 0xfa12), (0xfa15, 0xfa1e),
    (0xfa20, 0xfa20), (0xfa22, 0xfa22), (0xfa25, 0xfa26), (0xfa2a, 0xfb1d), (0xfb1f, 0xfbb1),
    (0xfbd3, 0xfd3d), (0xfd50, 0xfd8f), (0xfd92, 0xfdc7), (0xfdf0, 0xfdfc), (0xfe11, 0xfe18),
    (0xfe31, 0xfe44), (0xfe51, 0xfe71), (0xfe77, 0xffee), (0x10400, 0x10427), (0x104b0, 0x104d3),
    (0x10570, 0x10595), (0x10781, 0x107ba), (0x10c80, 0x10cb2), (0x10d50, 0x10d65),
    (0x118a0, 0x118bf), (0x16e40, 0x16e5f), (0x16ea0, 0x16eb8), (0x1d15e, 0x1d164),
    (0x1d1bb, 0x1d1c0), (0x1d6a4, 0x1d7cb), (0x1e030, 0x1e06d), (0x1e900, 0x1e921),
    (0x1ee00, 0x1eebb), (0x1f200, 0x1f251), (0x2f800, 0x2fa1d)]⟩

/-- The characters that ASCII ones take the place of. Right behind each stands what takes its
place. -/
def plainRows : List String := [
  "ªa ²2 ³3 ¹1 ºo ¼1⁄4 ½1⁄2 ¾3⁄4 İi\u0307 Ĳij ĳij Ŀl· ŀl· ŉʼn ſs Ǆdž ǅdž ǆdž Ǉlj ǈlj",
  "ǉlj Ǌnj ǋnj ǌnj Ǳdz ǲdz ǳdz ʰh ʲj ʳr ʷw ʸy ˡl ˢs ˣx \u037e; ᴬa ᴮb ᴰd ᴱe ᴳg ᴴh ᴵi ᴶj",
  "ᴷk ᴸl ᴹm ᴺn ᴼo ᴾp ᴿr ᵀt ᵁu ᵂw ᵃa ᵇb ᵈd ᵉe ᵍg ᵏk ᵐm ᵒo ᵖp ᵗt ᵘu ᵛv ᵢi ᵣr ᵤu ᵥv ᶜc ᶠf",
  "ᶻz ẚaʾ \u1fef\x60 ‼!! ⁇?? ⁈?! ⁉!? ⁰0 ⁱi ⁴4 ⁵5 ⁶6 ⁷7 ⁸8 ⁹9 ⁺+ ⁼= ⁽( ⁾) ⁿn ₀0 ₁1 ₂2 ₃3",
  "₄4 ₅5 ₆6 ₇7 ₈8 ₉9 ₊+ ₌= ₍( ₎) ₐa ₑe ₒo ₓx ₕh ₖk ₗl ₘm ₙn ₚp ₛs ₜt ₨rs ℀a/c ℁a/s ℂc",
  "℃°c ℅c/o ℆c/u ℉°f ℊg ℋh ℌh ℍh ℎh ℐi ℑi ℒl ℓl ℕn №no ℙp ℚq ℛr ℜr ℝr ℠sm ℡tel ™tm ℤz",
  "ℨz \u212ak ℬb ℭc ℯe ℰe ℱf ℳm ℴo ℹi ℻fax ⅅd ⅆd ⅇe ⅈi ⅉj ⅐1⁄7 ⅑1⁄9 ⅒1⁄10 ⅓1⁄3 ⅔2⁄3",
  "⅕1⁄5 ⅖2⁄5 ⅗3⁄5 ⅘4⁄5 ⅙1⁄6 ⅚5⁄6 ⅛1⁄8 ⅜3⁄8 ⅝5⁄8 ⅞7⁄8 ⅟1⁄ Ⅰi Ⅱii Ⅲiii Ⅳiv Ⅴv Ⅵvi Ⅶvii",
  "Ⅷviii Ⅸix Ⅹx Ⅺxi Ⅻxii Ⅼl Ⅽc Ⅾd Ⅿm ⅰi ⅱii ⅲiii ⅳiv ⅴv ⅵvi ⅶvii ⅷviii ⅸix ⅹx ⅺxi ⅻxii",
  "ⅼl ⅽc ⅾd ⅿm ↉0⁄3 ①1 ②2 ③3 ④4 ⑤5 ⑥6 ⑦7 ⑧8 ⑨9 ⑩10 ⑪11 ⑫12 ⑬13 ⑭14 ⑮15 ⑯16 ⑰17 ⑱18 ⑲19",
  "⑳20 ⑴(1) ⑵(2) ⑶(3) ⑷(4) ⑸(5) ⑹(6) ⑺(7) ⑻(8) ⑼(9) ⑽(10) ⑾(11) ⑿(12) ⒀(13) ⒁(14) ⒂(15)",
  "⒃(16) ⒄(17) ⒅(18) ⒆(19) ⒇(20) ⒜(a) ⒝(b) ⒞(c) ⒟(d) ⒠(e) ⒡(f) ⒢(g) ⒣(h) ⒤(i) ⒥(j) ⒦(k)",
  "⒧(l) ⒨(m) ⒩(n) ⒪(o) ⒫(p) ⒬(q) ⒭(r) ⒮(s) ⒯(t) ⒰(u) ⒱(v) ⒲(w) ⒳(x) ⒴(y) ⒵(z) Ⓐa Ⓑb Ⓒc",
  "Ⓓd Ⓔe Ⓕf Ⓖg Ⓗh Ⓘi Ⓙj Ⓚk Ⓛl Ⓜm Ⓝn Ⓞo Ⓟp Ⓠq Ⓡr Ⓢs Ⓣt Ⓤu Ⓥv Ⓦw Ⓧx Ⓨy Ⓩz ⓐa ⓑb ⓒc ⓓd ⓔe",
  "ⓕf ⓖg ⓗh ⓘi ⓙj ⓚk ⓛl ⓜm ⓝn ⓞo ⓟp ⓠq ⓡr ⓢs ⓣt ⓤu ⓥv ⓦw ⓧx ⓨy ⓩz ⓪0 ⩴::= ⩵== ⩶=== ⱼj",
  "ⱽv 。. ㈀(ᄀ) ㈁(ᄂ) ㈂(ᄃ) ㈃(ᄅ) ㈄(ᄆ) ㈅(ᄇ) ㈆(ᄉ) ㈇(ᄋ) ㈈(ᄌ) ㈉(ᄎ) ㈊(ᄏ) ㈋(ᄐ) ㈌(ᄑ) ㈍(ᄒ) ㈎(가)",
  "㈏(나) ㈐(다) ㈑(라) ㈒(마) ㈓(바) ㈔(사) ㈕(아) ㈖(자) ㈗(차) ㈘(카) ㈙(타) ㈚(파) ㈛(하) ㈜(주) ㈝(오전) ㈞(오후)",
  "㈠(一) ㈡(二) ㈢(三) ㈣(四) ㈤(五) ㈥(六) ㈦(七) ㈧(八) ㈨(九) ㈩(十) ㈪(月) ㈫(火) ㈬(水) ㈭(木) ㈮(金) ㈯(土) ㈰(日)",
  "㈱(株) ㈲(有) ㈳(社) ㈴(名) ㈵(特) ㈶(財) ㈷(祝) ㈸(労) ㈹(代) ㈺(呼) ㈻(学) ㈼(監) ㈽(企) ㈾(資) ㈿(協) ㉀(祭) ㉁(休)",
  "㉂(自) ㉃(至) ㉐pte ㉑21 ㉒22 ㉓23 ㉔24 ㉕25 ㉖26 ㉗27 ㉘28 ㉙29 ㉚30 ㉛31 ㉜32 ㉝33 ㉞34 ㉟35 ㊱36 ㊲37",
  "㊳38 ㊴39 ㊵40 ㊶41 ㊷42 ㊸43 ㊹44 ㊺45 ㊻46 ㊼47 ㊽48 ㊾49 ㊿50 ㋀1月 ㋁2月 ㋂3月 ㋃4月 ㋄5月 ㋅6月 ㋆7月 ㋇8月",
  "㋈9月 ㋉10月 ㋊11月 ㋋12月 ㋌hg ㋍erg ㋎ev ㋏ltd ㍘0点 ㍙1点 ㍚2点 ㍛3点 ㍜4点 ㍝5点 ㍞6点 ㍟7点 ㍠8点 ㍡9点 ㍢10点",
  "㍣11点 ㍤12点 ㍥13点 ㍦14点 ㍧15点 ㍨16点 ㍩17点 ㍪18点 ㍫19点 ㍬20点 ㍭21点 ㍮22点 ㍯23点 ㍰24点 ㍱hpa ㍲da ㍳au",
  "㍴bar ㍵ov ㍶pc ㍷dm ㍸dm2 ㍹dm3 ㍺iu ㎀pa ㎁na ㎂μa ㎃ma ㎄ka ㎅kb ㎆mb ㎇gb ㎈cal ㎉kcal ㎊pf ㎋nf",
  "㎌μf ㎍μg ㎎mg ㎏kg ㎐hz ㎑khz ㎒mhz ㎓ghz ㎔thz ㎕μl ㎖ml ㎗dl ㎘kl ㎙fm ㎚nm ㎛μm ㎜mm ㎝cm ㎞km ㎟mm2",
  "㎠cm2 ㎡m2 ㎢km2 ㎣mm3 ㎤cm3 ㎥m3 ㎦km3 ㎧m∕s ㎨m∕s2 ㎩pa ㎪kpa ㎫mpa ㎬gpa ㎭rad ㎮rad∕s ㎯rad∕s2",
  "㎰ps ㎱ns ㎲μs ㎳ms ㎴pv ㎵nv ㎶μv ㎷mv ㎸kv ㎹mv ㎺pw ㎻nw ㎼μw ㎽mw ㎾kw ㎿mw ㏀kω ㏁mω ㏃bq ㏄cc ㏅cd",
  "㏆c∕kg ㏈db ㏉gy ㏊ha ㏋hp ㏌in ㏍kk ㏎km ㏏kt ㏐lm ㏑ln ㏒log ㏓lx ㏔mb ㏕mil ㏖mol ㏗ph ㏙ppm ㏚pr",
  "㏛sr ㏜sv ㏝wb ㏞v∕m ㏟a∕m ㏠1日 ㏡2日 ㏢3日 ㏣4日 ㏤5日 ㏥6日 ㏦7日 ㏧8日 ㏨9日 ㏩10日 ㏪11日 ㏫12日 ㏬13日 ㏭14日",
  "㏮15日 ㏯16日 ㏰17日 ㏱18日 ㏲19日 ㏳20日 ㏴21日 ㏵22日 ㏶23日 ㏷24日 ㏸25日 ㏹26日 ㏺27日 ㏻28日 ㏼29日 ㏽30日 ㏾31日",
  "㏿gal ꟱s ꟲc ꟳf ꟴq ﬀff ﬁfi ﬂfl ﬃffi ﬄffl ﬅst ﬆst ﬩+ ︐, ︓: ︔; ︕! ︖? ︳_ ︴_ ︵( ︶) ︷\x7b",
  "︸\x7d ﹇[ ﹈] ﹍_ ﹎_ ﹏_ ﹐, ﹔; ﹕: ﹖? ﹗! ﹙( ﹚) ﹛\x7b ﹜\x7d ﹟# ﹠& ﹡* ﹢+ ﹣- ﹤< ﹥> ﹦= ﹨\\ ﹩$",
  "﹪% ﹫@ ！! ＂\" ＃# ＄$ ％% ＆& ＇' （( ）) ＊* ＋+ ，, －- ．. ／/ ０0 １1 ２2 ３3 ４4 ５5 ６6 ７7 ８8 ９9 ：:",
  "；; ＜< ＝= ＞> ？? ＠@ Ａa Ｂb Ｃc Ｄd Ｅe Ｆf Ｇg Ｈh Ｉi Ｊj Ｋk Ｌl Ｍm Ｎn Ｏo Ｐp Ｑq Ｒr Ｓs Ｔt Ｕu Ｖv",
  "Ｗw Ｘx Ｙy Ｚz ［[ ＼\\ ］] ＾^ ＿_ ｀\x60 ａa ｂb ｃc ｄd ｅe ｆf ｇg ｈh ｉi ｊj ｋk ｌl ｍm ｎn ｏo ｐp ｑq",
  "ｒr ｓs ｔt ｕu ｖv ｗw ｘx ｙy ｚz ｛\x7b ｜| ｝\x7d ～~ ｡. 𐞥q 𜳖a 𜳗b 𜳘c 𜳙d 𜳚e 𜳛f 𜳜g 𜳝h 𜳞i 𜳟j 𜳠k",
  "𜳡l 𜳢m 𜳣n 𜳤o 𜳥p 𜳦q 𜳧r 𜳨s 𜳩t 𜳪u 𜳫v 𜳬w 𜳭x 𜳮y 𜳯z 𜳰0 𜳱1 𜳲2 𜳳3 𜳴4 𜳵5 𜳶6 𜳷7 𜳸8 𜳹9 𝐀a 𝐁b 𝐂c",
  "𝐃d 𝐄e 𝐅f 𝐆g 𝐇h 𝐈i 𝐉j 𝐊k 𝐋l 𝐌m 𝐍n 𝐎o 𝐏p 𝐐q 𝐑r 𝐒s 𝐓t 𝐔u 𝐕v 𝐖w 𝐗x 𝐘y 𝐙z 𝐚a 𝐛b 𝐜c 𝐝d 𝐞e",
  "𝐟f 𝐠g 𝐡h 𝐢i 𝐣j 𝐤k 𝐥l 𝐦m 𝐧n 𝐨o 𝐩p 𝐪q 𝐫r 𝐬s 𝐭t 𝐮u 𝐯v 𝐰w 𝐱x 𝐲y 𝐳z 𝐴a 𝐵b 𝐶c 𝐷d 𝐸e 𝐹f 𝐺g",
  "𝐻h 𝐼i 𝐽j 𝐾k 𝐿l 𝑀m 𝑁n 𝑂o 𝑃p 𝑄q 𝑅r 𝑆s 𝑇t 𝑈u 𝑉v 𝑊w 𝑋x 𝑌y 𝑍z 𝑎a 𝑏b 𝑐c 𝑑d 𝑒e 𝑓f 𝑔g 𝑖i 𝑗j",
  "𝑘k 𝑙l 𝑚m 𝑛n 𝑜o 𝑝p 𝑞q 𝑟r 𝑠s 𝑡t 𝑢u 𝑣v 𝑤w 𝑥x 𝑦y 𝑧z 𝑨a 𝑩b 𝑪c 𝑫d 𝑬e 𝑭f 𝑮g 𝑯h 𝑰i 𝑱j 𝑲k 𝑳l",
  "𝑴m 𝑵n 𝑶o 𝑷p 𝑸q 𝑹r 𝑺s 𝑻t 𝑼u 𝑽v 𝑾w 𝑿x 𝒀y 𝒁z 𝒂a 𝒃b 𝒄c 𝒅d 𝒆e 𝒇f 𝒈g 𝒉h 𝒊i 𝒋j 𝒌k 𝒍l 𝒎m 𝒏n",
  "𝒐o 𝒑p 𝒒q 𝒓r 𝒔s 𝒕t 𝒖u 𝒗v 𝒘w 𝒙x 𝒚y 𝒛z 𝒜a 𝒞c 𝒟d 𝒢g 𝒥j 𝒦k 𝒩n 𝒪o 𝒫p 𝒬q 𝒮s 𝒯t 𝒰u 𝒱v 𝒲w 𝒳x",
  "𝒴y 𝒵z 𝒶a 𝒷b 𝒸c 𝒹d 𝒻f 𝒽h 𝒾i 𝒿j 𝓀k 𝓁l 𝓂m 𝓃n 𝓅p 𝓆q 𝓇r 𝓈s 𝓉t 𝓊u 𝓋v 𝓌w 𝓍x 𝓎y 𝓏z 𝓐a 𝓑b 𝓒c",
  "𝓓d 𝓔e 𝓕f 𝓖g 𝓗h 𝓘i 𝓙j 𝓚k 𝓛l 𝓜m 𝓝n 𝓞o 𝓟p 𝓠q 𝓡r 𝓢s 𝓣t 𝓤u 𝓥v 𝓦w 𝓧x 𝓨y 𝓩z 𝓪a 𝓫b 𝓬c 𝓭d 𝓮e",
  "𝓯f 𝓰g 𝓱h 𝓲i 𝓳j 𝓴k 𝓵l 𝓶m 𝓷n 𝓸o 𝓹p 𝓺q 𝓻r 𝓼s 𝓽t 𝓾u 𝓿v 𝔀w 𝔁x 𝔂y 𝔃z 𝔄a 𝔅b 𝔇d 𝔈e 𝔉f 𝔊g 𝔍j",
  "𝔎k 𝔏l 𝔐m 𝔑n 𝔒o 𝔓p 𝔔q 𝔖s 𝔗t 𝔘u 𝔙v 𝔚w 𝔛x 𝔜y 𝔞a 𝔟b 𝔠c 𝔡d 𝔢e 𝔣f 𝔤g 𝔥h 𝔦i 𝔧j 𝔨k 𝔩l 𝔪m 𝔫n",
  "𝔬o 𝔭p 𝔮q 𝔯r 𝔰s 𝔱t 𝔲u 𝔳v 𝔴w 𝔵x 𝔶y 𝔷z 𝔸a 𝔹b 𝔻d 𝔼e 𝔽f 𝔾g 𝕀i 𝕁j 𝕂k 𝕃l 𝕄m 𝕆o 𝕊s 𝕋t 𝕌u 𝕍v",
  "𝕎w 𝕏x 𝕐y 𝕒a 𝕓b 𝕔c 𝕕d 𝕖e 𝕗f 𝕘g 𝕙h 𝕚i 𝕛j 𝕜k 𝕝l 𝕞m 𝕟n 𝕠o 𝕡p 𝕢q 𝕣r 𝕤s 𝕥t 𝕦u 𝕧v 𝕨w 𝕩x 𝕪y",
  "𝕫z 𝕬a 𝕭b 𝕮c 𝕯d 𝕰e 𝕱f 𝕲g 𝕳h 𝕴i 𝕵j 𝕶k 𝕷l 𝕸m 𝕹n 𝕺o 𝕻p 𝕼q 𝕽r 𝕾s 𝕿t 𝖀u 𝖁v 𝖂w 𝖃x 𝖄y 𝖅z 𝖆a",
  "𝖇b 𝖈c 𝖉d 𝖊e 𝖋f 𝖌g 𝖍h 𝖎i 𝖏j 𝖐k 𝖑l 𝖒m 𝖓n 𝖔o 𝖕p 𝖖q 𝖗r 𝖘s 𝖙t 𝖚u 𝖛v 𝖜w 𝖝x 𝖞y 𝖟z 𝖠a 𝖡b 𝖢c",
  "𝖣d 𝖤e 𝖥f 𝖦g 𝖧h 𝖨i 𝖩j 𝖪k 𝖫l 𝖬m 𝖭n 𝖮o 𝖯p 𝖰q 𝖱r 𝖲s 𝖳t 𝖴u 𝖵v 𝖶w 𝖷x 𝖸y 𝖹z 𝖺a 𝖻b 𝖼c 𝖽d 𝖾e",
  "𝖿f 𝗀g 𝗁h 𝗂i 𝗃j 𝗄k 𝗅l 𝗆m 𝗇n 𝗈o 𝗉p 𝗊q 𝗋r 𝗌s 𝗍t 𝗎u 𝗏v 𝗐w 𝗑x 𝗒y 𝗓z 𝗔a 𝗕b 𝗖c 𝗗d 𝗘e 𝗙f 𝗚g",
  "𝗛h 𝗜i 𝗝j 𝗞k 𝗟l 𝗠m 𝗡n 𝗢o 𝗣p 𝗤q 𝗥r 𝗦s 𝗧t 𝗨u 𝗩v 𝗪w 𝗫x 𝗬y 𝗭z 𝗮a 𝗯b 𝗰c 𝗱d 𝗲e 𝗳f 𝗴g 𝗵h 𝗶i",
  "𝗷j 𝗸k 𝗹l 𝗺m 𝗻n 𝗼o 𝗽p 𝗾q 𝗿r 𝘀s 𝘁t 𝘂u 𝘃v 𝘄w 𝘅x 𝘆y 𝘇z 𝘈a 𝘉b 𝘊c 𝘋d 𝘌e 𝘍f 𝘎g 𝘏h 𝘐i 𝘑j 𝘒k",
  "𝘓l 𝘔m 𝘕n 𝘖o 𝘗p 𝘘q 𝘙r 𝘚s 𝘛t 𝘜u 𝘝v 𝘞w 𝘟x 𝘠y 𝘡z 𝘢a 𝘣b 𝘤c 𝘥d 𝘦e 𝘧f 𝘨g 𝘩h 𝘪i 𝘫j 𝘬k 𝘭l 𝘮m",
  "𝘯n 𝘰o 𝘱p 𝘲q 𝘳r 𝘴s 𝘵t 𝘶u 𝘷v 𝘸w 𝘹x 𝘺y 𝘻z 𝘼a 𝘽b 𝘾c 𝘿d 𝙀e 𝙁f 𝙂g 𝙃h 𝙄i 𝙅j 𝙆k 𝙇l 𝙈m 𝙉n 𝙊o",
  "𝙋p 𝙌q 𝙍r 𝙎s 𝙏t 𝙐u 𝙑v 𝙒w 𝙓x 𝙔y 𝙕z 𝙖a 𝙗b 𝙘c 𝙙d 𝙚e 𝙛f 𝙜g 𝙝h 𝙞i 𝙟j 𝙠k 𝙡l 𝙢m 𝙣n 𝙤o 𝙥p 𝙦q",
  "𝙧r 𝙨s 𝙩t 𝙪u 𝙫v 𝙬w 𝙭x 𝙮y 𝙯z 𝙰a 𝙱b 𝙲c 𝙳d 𝙴e 𝙵f 𝙶g 𝙷h 𝙸i 𝙹j 𝙺k 𝙻l 𝙼m 𝙽n 𝙾o 𝙿p 𝚀q 𝚁r 𝚂s",
  "𝚃t 𝚄u 𝚅v 𝚆w 𝚇x 𝚈y 𝚉z 𝚊a 𝚋b 𝚌c 𝚍d 𝚎e 𝚏f 𝚐g 𝚑h 𝚒i 𝚓j 𝚔k 𝚕l 𝚖m 𝚗n 𝚘o 𝚙p 𝚚q 𝚛r 𝚜s 𝚝t 𝚞u",
  "𝚟v 𝚠w 𝚡x 𝚢y 𝚣z 𝟎0 𝟏1 𝟐2 𝟑3 𝟒4 𝟓5 𝟔6 𝟕7 𝟖8 𝟗9 𝟘0 𝟙1 𝟚2 𝟛3 𝟜4 𝟝5 𝟞6 𝟟7 𝟠8 𝟡9 𝟢0 𝟣1 𝟤2",
  "𝟥3 𝟦4 𝟧5 𝟨6 𝟩7 𝟪8 𝟫9 𝟬0 𝟭1 𝟮2 𝟯3 𝟰4 𝟱5 𝟲6 𝟳7 𝟴8 𝟵9 𝟶0 𝟷1 𝟸2 𝟹3 𝟺4 𝟻5 𝟼6 𝟽7 𝟾8 𝟿9 🄁0,",
  "🄂1, 🄃2, 🄄3, 🄅4, 🄆5, 🄇6, 🄈7, 🄉8, 🄊9, 🄐(a) 🄑(b) 🄒(c) 🄓(d) 🄔(e) 🄕(f) 🄖(g) 🄗(h) 🄘(i)",
  "🄙(j) 🄚(k) 🄛(l) 🄜(m) 🄝(n) 🄞(o) 🄟(p) 🄠(q) 🄡(r) 🄢(s) 🄣(t) 🄤(u) 🄥(v) 🄦(w) 🄧(x) 🄨(y) 🄩(z)",
  "🄪〔s〕 🄫c 🄬r 🄭cd 🄮wz 🄰a 🄱b 🄲c 🄳d 🄴e 🄵f 🄶g 🄷h 🄸i 🄹j 🄺k 🄻l 🄼m 🄽n 🄾o 🄿p 🅀q 🅁r 🅂s 🅃t 🅄u 🅅v",
  "🅆w 🅇x 🅈y 🅉z 🅊hv 🅋mv 🅌sd 🅍ss 🅎ppv 🅏wc 🅪mc 🅫md 🅬mr 🆐dj 🯰0 🯱1 🯲2 🯳3 🯴4 🯵5 🯶6 🯷7 🯸8 🯹9"]

/-- What takes the place of a character, if there is ASCII in it. -/
def plainForms : List (Char × List Char) :=
  (plainRows.flatMap fun row => Text.split (· == ' ') row.toList).filterMap fun
    | c :: form => some (c, form)
    | [] => none

def fateOfPlain (c : Char) : Fate :=
  if c.isUpper then .replaced [c.toLower] else .kept

def fate (c : Char) : Fate :=
  if c.toNat < 0x80 then fateOfPlain c
  else if refusedSet.contains c then .refused
  else if droppedSet.contains c then .dropped
  else match plainForms.lookup c with
    | some form => .replaced form
    | none => if alteredSet.contains c then .altered else .kept

/-- The characters that come in the place of one; none if no name has it. -/
def Fate.outcome? (c : Char) : Fate → Option (List Char)
  | kept => some [c]
  | dropped => some []
  | replaced characters => some characters
  | altered => some [c]
  | refused => none

/-- The characters of a name as they are looked up, in their composed form, unless one of them is
refused or forbidden. -/
def prepare? (s : List Char) : Option (List Char) :=
  ((s.mapM fun c => (fate c).outcome? c).map fun pieces =>
    Text.Composed.ofText pieces.flatten).filter (!·.any isForbidden)

end GraphLoad.Domain
