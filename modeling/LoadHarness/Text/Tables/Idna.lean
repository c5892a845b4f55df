/-!
# Code point classes of internationalized host names

The classes IDNA 2008 gives code points, as the labels of host names use
them.  `permitted` lists the ranges of code points a label may hold freely;
`joiners` and `contextual` those it may hold in the right context only.  All
other code points are disallowed.

The other tables describe only code points a label may hold; code points
between two entries of a run that a label cannot hold are taken into the run:

* `marks`: runs of combining marks;
* `directions`: runs of bidirectional classes other than left-to-right, of
  Unicode 14.0 (`unknown` for code points that version does not assign);
* `joiningTypes`: runs of Arabic joining types;
* `greek`, `hebrew`, `kanaOrHan`: runs of the Greek, Hebrew, and the
  Hiragana, Katakana and Han scripts.
-/

namespace LoadHarness

namespace Idna

/-- The bidirectional classes a character of a label can have. -/
inductive Direction where
  | leftToRight
  | rightToLeft
  | arabicLetter
  | arabicNumber
  | europeanNumber
  | europeanSeparator
  | commonSeparator
  | europeanTerminator
  | otherNeutral
  | boundaryNeutral
  | nonspacingMark
  /-- The class of a code point that Unicode 14.0 does not assign. -/
  | unknown
  deriving Repr, Inhabited, BEq, DecidableEq

/-- How a character joins its neighbours in cursive scripts. -/
inductive Joining where
  | joinCausing
  | dual
  | left
  | right
  | transparent
  deriving Repr, Inhabited, BEq, DecidableEq

/-- Ranges of code points a label may hold, part 1 of 13. -/
def permittedPart0 : List (Nat × Nat) := [
  (0x2d, 0x2d), (0x30, 0x39), (0x61, 0x7a), (0xdf, 0xf6), (0xf8, 0xff), (0x101, 0x101),
  (0x103, 0x103), (0x105, 0x105), (0x107, 0x107), (0x109, 0x109), (0x10b, 0x10b), (0x10d, 0x10d),
  (0x10f, 0x10f), (0x111, 0x111), (0x113, 0x113), (0x115, 0x115), (0x117, 0x117), (0x119, 0x119),
  (0x11b, 0x11b), (0x11d, 0x11d), (0x11f, 0x11f), (0x121, 0x121), (0x123, 0x123), (0x125, 0x125),
  (0x127, 0x127), (0x129, 0x129), (0x12b, 0x12b), (0x12d, 0x12d), (0x12f, 0x12f), (0x131, 0x131),
  (0x135, 0x135), (0x137, 0x138), (0x13a, 0x13a), (0x13c, 0x13c), (0x13e, 0x13e), (0x142, 0x142),
  (0x144, 0x144), (0x146, 0x146), (0x148, 0x148), (0x14b, 0x14b), (0x14d, 0x14d), (0x14f, 0x14f),
  (0x151, 0x151), (0x153, 0x153), (0x155, 0x155), (0x157, 0x157), (0x159, 0x159), (0x15b, 0x15b),
  (0x15d, 0x15d), (0x15f, 0x15f), (0x161, 0x161), (0x163, 0x163), (0x165, 0x165), (0x167, 0x167),
  (0x169, 0x169), (0x16b, 0x16b), (0x16d, 0x16d), (0x16f, 0x16f), (0x171, 0x171), (0x173, 0x173),
  (0x175, 0x175), (0x177, 0x177), (0x17a, 0x17a), (0x17c, 0x17c), (0x17e, 0x17e), (0x180, 0x180),
  (0x183, 0x183), (0x185, 0x185), (0x188, 0x188), (0x18c, 0x18d), (0x192, 0x192), (0x195, 0x195),
  (0x199, 0x19b), (0x19e, 0x19e), (0x1a1, 0x1a1), (0x1a3, 0x1a3), (0x1a5, 0x1a5), (0x1a8, 0x1a8),
  (0x1aa, 0x1ab), (0x1ad, 0x1ad), (0x1b0, 0x1b0), (0x1b4, 0x1b4), (0x1b6, 0x1b6), (0x1b9, 0x1bb),
  (0x1bd, 0x1c3), (0x1ce, 0x1ce), (0x1d0, 0x1d0), (0x1d2, 0x1d2), (0x1d4, 0x1d4), (0x1d6, 0x1d6),
  (0x1d8, 0x1d8), (0x1da, 0x1da), (0x1dc, 0x1dd), (0x1df, 0x1df), (0x1e1, 0x1e1), (0x1e3, 0x1e3),
  (0x1e5, 0x1e5), (0x1e7, 0x1e7), (0x1e9, 0x1e9), (0x1eb, 0x1eb)]

/-- Ranges of code points a label may hold, part 2 of 13. -/
def permittedPart1 : List (Nat × Nat) := [
  (0x1ed, 0x1ed), (0x1ef, 0x1f0), (0x1f5, 0x1f5), (0x1f9, 0x1f9), (0x1fb, 0x1fb), (0x1fd, 0x1fd),
  (0x1ff, 0x1ff), (0x201, 0x201), (0x203, 0x203), (0x205, 0x205), (0x207, 0x207), (0x209, 0x209),
  (0x20b, 0x20b), (0x20d, 0x20d), (0x20f, 0x20f), (0x211, 0x211), (0x213, 0x213), (0x215, 0x215),
  (0x217, 0x217), (0x219, 0x219), (0x21b, 0x21b), (0x21d, 0x21d), (0x21f, 0x21f), (0x221, 0x221),
  (0x223, 0x223), (0x225, 0x225), (0x227, 0x227), (0x229, 0x229), (0x22b, 0x22b), (0x22d, 0x22d),
  (0x22f, 0x22f), (0x231, 0x231), (0x233, 0x239), (0x23c, 0x23c), (0x23f, 0x240), (0x242, 0x242),
  (0x247, 0x247), (0x249, 0x249), (0x24b, 0x24b), (0x24d, 0x24d), (0x24f, 0x2af), (0x2b9, 0x2c1),
  (0x2c6, 0x2d1), (0x2ec, 0x2ec), (0x2ee, 0x2ee), (0x300, 0x33f), (0x342, 0x342), (0x346, 0x34e),
  (0x350, 0x36f), (0x371, 0x371), (0x373, 0x373), (0x377, 0x377), (0x37b, 0x37d), (0x390, 0x390),
  (0x3ac, 0x3ce), (0x3d7, 0x3d7), (0x3d9, 0x3d9), (0x3db, 0x3db), (0x3dd, 0x3dd), (0x3df, 0x3df),
  (0x3e1, 0x3e1), (0x3e3, 0x3e3), (0x3e5, 0x3e5), (0x3e7, 0x3e7), (0x3e9, 0x3e9), (0x3eb, 0x3eb),
  (0x3ed, 0x3ed), (0x3ef, 0x3ef), (0x3f3, 0x3f3), (0x3f8, 0x3f8), (0x3fb, 0x3fc), (0x430, 0x45f),
  (0x461, 0x461), (0x463, 0x463), (0x465, 0x465), (0x467, 0x467), (0x469, 0x469), (0x46b, 0x46b),
  (0x46d, 0x46d), (0x46f, 0x46f), (0x471, 0x471), (0x473, 0x473), (0x475, 0x475), (0x477, 0x477),
  (0x479, 0x479), (0x47b, 0x47b), (0x47d, 0x47d), (0x47f, 0x47f), (0x481, 0x481), (0x483, 0x487),
  (0x48b, 0x48b), (0x48d, 0x48d), (0x48f, 0x48f), (0x491, 0x491), (0x493, 0x493), (0x495, 0x495),
  (0x497, 0x497), (0x499, 0x499), (0x49b, 0x49b), (0x49d, 0x49d)]

/-- Ranges of code points a label may hold, part 3 of 13. -/
def permittedPart2 : List (Nat × Nat) := [
  (0x49f, 0x49f), (0x4a1, 0x4a1), (0x4a3, 0x4a3), (0x4a5, 0x4a5), (0x4a7, 0x4a7), (0x4a9, 0x4a9),
  (0x4ab, 0x4ab), (0x4ad, 0x4ad), (0x4af, 0x4af), (0x4b1, 0x4b1), (0x4b3, 0x4b3), (0x4b5, 0x4b5),
  (0x4b7, 0x4b7), (0x4b9, 0x4b9), (0x4bb, 0x4bb), (0x4bd, 0x4bd), (0x4bf, 0x4bf), (0x4c2, 0x4c2),
  (0x4c4, 0x4c4), (0x4c6, 0x4c6), (0x4c8, 0x4c8), (0x4ca, 0x4ca), (0x4cc, 0x4cc), (0x4ce, 0x4cf),
  (0x4d1, 0x4d1), (0x4d3, 0x4d3), (0x4d5, 0x4d5), (0x4d7, 0x4d7), (0x4d9, 0x4d9), (0x4db, 0x4db),
  (0x4dd, 0x4dd), (0x4df, 0x4df), (0x4e1, 0x4e1), (0x4e3, 0x4e3), (0x4e5, 0x4e5), (0x4e7, 0x4e7),
  (0x4e9, 0x4e9), (0x4eb, 0x4eb), (0x4ed, 0x4ed), (0x4ef, 0x4ef), (0x4f1, 0x4f1), (0x4f3, 0x4f3),
  (0x4f5, 0x4f5), (0x4f7, 0x4f7), (0x4f9, 0x4f9), (0x4fb, 0x4fb), (0x4fd, 0x4fd), (0x4ff, 0x4ff),
  (0x501, 0x501), (0x503, 0x503), (0x505, 0x505), (0x507, 0x507), (0x509, 0x509), (0x50b, 0x50b),
  (0x50d, 0x50d), (0x50f, 0x50f), (0x511, 0x511), (0x513, 0x513), (0x515, 0x515), (0x517, 0x517),
  (0x519, 0x519), (0x51b, 0x51b), (0x51d, 0x51d), (0x51f, 0x51f), (0x521, 0x521), (0x523, 0x523),
  (0x525, 0x525), (0x527, 0x527), (0x529, 0x529), (0x52b, 0x52b), (0x52d, 0x52d), (0x52f, 0x52f),
  (0x559, 0x559), (0x560, 0x586), (0x588, 0x588), (0x591, 0x5bd), (0x5bf, 0x5bf), (0x5c1, 0x5c2),
  (0x5c4, 0x5c5), (0x5c7, 0x5c7), (0x5d0, 0x5ea), (0x5ef, 0x5f2), (0x610, 0x61a), (0x620, 0x63f),
  (0x641, 0x65f), (0x66e, 0x674), (0x679, 0x6d3), (0x6d5, 0x6dc), (0x6df, 0x6e8), (0x6ea, 0x6ef),
  (0x6fa, 0x6ff), (0x710, 0x74a), (0x74d, 0x7b1), (0x7c0, 0x7f5), (0x7fd, 0x7fd), (0x800, 0x82d),
  (0x840, 0x85b), (0x860, 0x86a), (0x870, 0x887), (0x889, 0x88f)]

/-- Ranges of code points a label may hold, part 4 of 13. -/
def permittedPart3 : List (Nat × Nat) := [
  (0x897, 0x8e1), (0x8e3, 0x957), (0x960, 0x963), (0x966, 0x96f), (0x971, 0x983), (0x985, 0x98c),
  (0x98f, 0x990), (0x993, 0x9a8), (0x9aa, 0x9b0), (0x9b2, 0x9b2), (0x9b6, 0x9b9), (0x9bc, 0x9c4),
  (0x9c7, 0x9c8), (0x9cb, 0x9ce), (0x9d7, 0x9d7), (0x9e0, 0x9e3), (0x9e6, 0x9f1), (0x9fc, 0x9fc),
  (0x9fe, 0x9fe), (0xa01, 0xa03), (0xa05, 0xa0a), (0xa0f, 0xa10), (0xa13, 0xa28), (0xa2a, 0xa30),
  (0xa32, 0xa32), (0xa35, 0xa35), (0xa38, 0xa39), (0xa3c, 0xa3c), (0xa3e, 0xa42), (0xa47, 0xa48),
  (0xa4b, 0xa4d), (0xa51, 0xa51), (0xa5c, 0xa5c), (0xa66, 0xa75), (0xa81, 0xa83), (0xa85, 0xa8d),
  (0xa8f, 0xa91), (0xa93, 0xaa8), (0xaaa, 0xab0), (0xab2, 0xab3), (0xab5, 0xab9), (0xabc, 0xac5),
  (0xac7, 0xac9), (0xacb, 0xacd), (0xad0, 0xad0), (0xae0, 0xae3), (0xae6, 0xaef), (0xaf9, 0xaff),
  (0xb01, 0xb03), (0xb05, 0xb0c), (0xb0f, 0xb10), (0xb13, 0xb28), (0xb2a, 0xb30), (0xb32, 0xb33),
  (0xb35, 0xb39), (0xb3c, 0xb44), (0xb47, 0xb48), (0xb4b, 0xb4d), (0xb55, 0xb57), (0xb5f, 0xb63),
  (0xb66, 0xb6f), (0xb71, 0xb71), (0xb82, 0xb83), (0xb85, 0xb8a), (0xb8e, 0xb90), (0xb92, 0xb95),
  (0xb99, 0xb9a), (0xb9c, 0xb9c), (0xb9e, 0xb9f), (0xba3, 0xba4), (0xba8, 0xbaa), (0xbae, 0xbb9),
  (0xbbe, 0xbc2), (0xbc6, 0xbc8), (0xbca, 0xbcd), (0xbd0, 0xbd0), (0xbd7, 0xbd7), (0xbe6, 0xbef),
  (0xc00, 0xc0c), (0xc0e, 0xc10), (0xc12, 0xc28), (0xc2a, 0xc39), (0xc3c, 0xc44), (0xc46, 0xc48),
  (0xc4a, 0xc4d), (0xc55, 0xc56), (0xc58, 0xc5a), (0xc5c, 0xc5d), (0xc60, 0xc63), (0xc66, 0xc6f),
  (0xc80, 0xc83), (0xc85, 0xc8c), (0xc8e, 0xc90), (0xc92, 0xca8), (0xcaa, 0xcb3), (0xcb5, 0xcb9),
  (0xcbc, 0xcc4), (0xcc6, 0xcc8), (0xcca, 0xccd), (0xcd5, 0xcd6)]

/-- Ranges of code points a label may hold, part 5 of 13. -/
def permittedPart4 : List (Nat × Nat) := [
  (0xcdc, 0xcde), (0xce0, 0xce3), (0xce6, 0xcef), (0xcf1, 0xcf3), (0xd00, 0xd0c), (0xd0e, 0xd10),
  (0xd12, 0xd44), (0xd46, 0xd48), (0xd4a, 0xd4e), (0xd54, 0xd57), (0xd5f, 0xd63), (0xd66, 0xd6f),
  (0xd7a, 0xd7f), (0xd81, 0xd83), (0xd85, 0xd96), (0xd9a, 0xdb1), (0xdb3, 0xdbb), (0xdbd, 0xdbd),
  (0xdc0, 0xdc6), (0xdca, 0xdca), (0xdcf, 0xdd4), (0xdd6, 0xdd6), (0xdd8, 0xddf), (0xde6, 0xdef),
  (0xdf2, 0xdf3), (0xe01, 0xe32), (0xe34, 0xe3a), (0xe40, 0xe4e), (0xe50, 0xe59), (0xe81, 0xe82),
  (0xe84, 0xe84), (0xe86, 0xe8a), (0xe8c, 0xea3), (0xea5, 0xea5), (0xea7, 0xeb2), (0xeb4, 0xebd),
  (0xec0, 0xec4), (0xec6, 0xec6), (0xec8, 0xece), (0xed0, 0xed9), (0xede, 0xedf), (0xf00, 0xf00),
  (0xf0b, 0xf0b), (0xf18, 0xf19), (0xf20, 0xf29), (0xf35, 0xf35), (0xf37, 0xf37), (0xf39, 0xf39),
  (0xf3e, 0xf42), (0xf44, 0xf47), (0xf49, 0xf4c), (0xf4e, 0xf51), (0xf53, 0xf56), (0xf58, 0xf5b),
  (0xf5d, 0xf68), (0xf6a, 0xf6c), (0xf71, 0xf72), (0xf74, 0xf74), (0xf7a, 0xf80), (0xf82, 0xf84),
  (0xf86, 0xf92), (0xf94, 0xf97), (0xf99, 0xf9c), (0xf9e, 0xfa1), (0xfa3, 0xfa6), (0xfa8, 0xfab),
  (0xfad, 0xfb8), (0xfba, 0xfbc), (0xfc6, 0xfc6), (0x1000, 0x1049), (0x1050, 0x109d), (0x10d0, 0x10fa),
  (0x10fd, 0x10ff), (0x1200, 0x1248), (0x124a, 0x124d), (0x1250, 0x1256), (0x1258, 0x1258), (0x125a, 0x125d),
  (0x1260, 0x1288), (0x128a, 0x128d), (0x1290, 0x12b0), (0x12b2, 0x12b5), (0x12b8, 0x12be), (0x12c0, 0x12c0),
  (0x12c2, 0x12c5), (0x12c8, 0x12d6), (0x12d8, 0x1310), (0x1312, 0x1315), (0x1318, 0x135a), (0x135d, 0x135f),
  (0x1380, 0x138f), (0x13a0, 0x13f5), (0x1401, 0x166c), (0x166f, 0x167f), (0x1681, 0x169a), (0x16a0, 0x16ea),
  (0x16f1, 0x16f8), (0x1700, 0x1715), (0x171f, 0x1734), (0x1740, 0x1753)]

/-- Ranges of code points a label may hold, part 6 of 13. -/
def permittedPart5 : List (Nat × Nat) := [
  (0x1760, 0x176c), (0x176e, 0x1770), (0x1772, 0x1773), (0x1780, 0x17b3), (0x17b6, 0x17d3), (0x17d7, 0x17d7),
  (0x17dc, 0x17dd), (0x17e0, 0x17e9), (0x1810, 0x1819), (0x1820, 0x1878), (0x1880, 0x18aa), (0x18b0, 0x18f5),
  (0x1900, 0x191e), (0x1920, 0x192b), (0x1930, 0x193b), (0x1946, 0x196d), (0x1970, 0x1974), (0x1980, 0x19ab),
  (0x19b0, 0x19c9), (0x19d0, 0x19d9), (0x1a00, 0x1a1b), (0x1a20, 0x1a5e), (0x1a60, 0x1a7c), (0x1a7f, 0x1a89),
  (0x1a90, 0x1a99), (0x1aa7, 0x1aa7), (0x1ab0, 0x1abd), (0x1abf, 0x1add), (0x1ae0, 0x1aeb), (0x1b00, 0x1b4c),
  (0x1b50, 0x1b59), (0x1b6b, 0x1b73), (0x1b80, 0x1bf3), (0x1c00, 0x1c37), (0x1c40, 0x1c49), (0x1c4d, 0x1c7d),
  (0x1c8a, 0x1c8a), (0x1cd0, 0x1cd2), (0x1cd4, 0x1cfa), (0x1d00, 0x1d2b), (0x1d2f, 0x1d2f), (0x1d3b, 0x1d3b),
  (0x1d4e, 0x1d4e), (0x1d6b, 0x1d77), (0x1d79, 0x1d9a), (0x1dc0, 0x1dff), (0x1e01, 0x1e01), (0x1e03, 0x1e03),
  (0x1e05, 0x1e05), (0x1e07, 0x1e07), (0x1e09, 0x1e09), (0x1e0b, 0x1e0b), (0x1e0d, 0x1e0d), (0x1e0f, 0x1e0f),
  (0x1e11, 0x1e11), (0x1e13, 0x1e13), (0x1e15, 0x1e15), (0x1e17, 0x1e17), (0x1e19, 0x1e19), (0x1e1b, 0x1e1b),
  (0x1e1d, 0x1e1d), (0x1e1f, 0x1e1f), (0x1e21, 0x1e21), (0x1e23, 0x1e23), (0x1e25, 0x1e25), (0x1e27, 0x1e27),
  (0x1e29, 0x1e29), (0x1e2b, 0x1e2b), (0x1e2d, 0x1e2d), (0x1e2f, 0x1e2f), (0x1e31, 0x1e31), (0x1e33, 0x1e33),
  (0x1e35, 0x1e35), (0x1e37, 0x1e37), (0x1e39, 0x1e39), (0x1e3b, 0x1e3b), (0x1e3d, 0x1e3d), (0x1e3f, 0x1e3f),
  (0x1e41, 0x1e41), (0x1e43, 0x1e43), (0x1e45, 0x1e45), (0x1e47, 0x1e47), (0x1e49, 0x1e49), (0x1e4b, 0x1e4b),
  (0x1e4d, 0x1e4d), (0x1e4f, 0x1e4f), (0x1e51, 0x1e51), (0x1e53, 0x1e53), (0x1e55, 0x1e55), (0x1e57, 0x1e57),
  (0x1e59, 0x1e59), (0x1e5b, 0x1e5b), (0x1e5d, 0x1e5d), (0x1e5f, 0x1e5f), (0x1e61, 0x1e61), (0x1e63, 0x1e63),
  (0x1e65, 0x1e65), (0x1e67, 0x1e67), (0x1e69, 0x1e69), (0x1e6b, 0x1e6b)]

/-- Ranges of code points a label may hold, part 7 of 13. -/
def permittedPart6 : List (Nat × Nat) := [
  (0x1e6d, 0x1e6d), (0x1e6f, 0x1e6f), (0x1e71, 0x1e71), (0x1e73, 0x1e73), (0x1e75, 0x1e75), (0x1e77, 0x1e77),
  (0x1e79, 0x1e79), (0x1e7b, 0x1e7b), (0x1e7d, 0x1e7d), (0x1e7f, 0x1e7f), (0x1e81, 0x1e81), (0x1e83, 0x1e83),
  (0x1e85, 0x1e85), (0x1e87, 0x1e87), (0x1e89, 0x1e89), (0x1e8b, 0x1e8b), (0x1e8d, 0x1e8d), (0x1e8f, 0x1e8f),
  (0x1e91, 0x1e91), (0x1e93, 0x1e93), (0x1e95, 0x1e99), (0x1e9c, 0x1e9d), (0x1e9f, 0x1e9f), (0x1ea1, 0x1ea1),
  (0x1ea3, 0x1ea3), (0x1ea5, 0x1ea5), (0x1ea7, 0x1ea7), (0x1ea9, 0x1ea9), (0x1eab, 0x1eab), (0x1ead, 0x1ead),
  (0x1eaf, 0x1eaf), (0x1eb1, 0x1eb1), (0x1eb3, 0x1eb3), (0x1eb5, 0x1eb5), (0x1eb7, 0x1eb7), (0x1eb9, 0x1eb9),
  (0x1ebb, 0x1ebb), (0x1ebd, 0x1ebd), (0x1ebf, 0x1ebf), (0x1ec1, 0x1ec1), (0x1ec3, 0x1ec3), (0x1ec5, 0x1ec5),
  (0x1ec7, 0x1ec7), (0x1ec9, 0x1ec9), (0x1ecb, 0x1ecb), (0x1ecd, 0x1ecd), (0x1ecf, 0x1ecf), (0x1ed1, 0x1ed1),
  (0x1ed3, 0x1ed3), (0x1ed5, 0x1ed5), (0x1ed7, 0x1ed7), (0x1ed9, 0x1ed9), (0x1edb, 0x1edb), (0x1edd, 0x1edd),
  (0x1edf, 0x1edf), (0x1ee1, 0x1ee1), (0x1ee3, 0x1ee3), (0x1ee5, 0x1ee5), (0x1ee7, 0x1ee7), (0x1ee9, 0x1ee9),
  (0x1eeb, 0x1eeb), (0x1eed, 0x1eed), (0x1eef, 0x1eef), (0x1ef1, 0x1ef1), (0x1ef3, 0x1ef3), (0x1ef5, 0x1ef5),
  (0x1ef7, 0x1ef7), (0x1ef9, 0x1ef9), (0x1efb, 0x1efb), (0x1efd, 0x1efd), (0x1eff, 0x1f07), (0x1f10, 0x1f15),
  (0x1f20, 0x1f27), (0x1f30, 0x1f37), (0x1f40, 0x1f45), (0x1f50, 0x1f57), (0x1f60, 0x1f67), (0x1f70, 0x1f70),
  (0x1f72, 0x1f72), (0x1f74, 0x1f74), (0x1f76, 0x1f76), (0x1f78, 0x1f78), (0x1f7a, 0x1f7a), (0x1f7c, 0x1f7c),
  (0x1fb0, 0x1fb1), (0x1fb6, 0x1fb6), (0x1fc6, 0x1fc6), (0x1fd0, 0x1fd2), (0x1fd6, 0x1fd7), (0x1fe0, 0x1fe2),
  (0x1fe4, 0x1fe7), (0x1ff6, 0x1ff6), (0x214e, 0x214e), (0x2184, 0x2184), (0x2c30, 0x2c5f), (0x2c61, 0x2c61),
  (0x2c65, 0x2c66), (0x2c68, 0x2c68), (0x2c6a, 0x2c6a), (0x2c6c, 0x2c6c)]

/-- Ranges of code points a label may hold, part 8 of 13. -/
def permittedPart7 : List (Nat × Nat) := [
  (0x2c71, 0x2c71), (0x2c73, 0x2c74), (0x2c76, 0x2c7b), (0x2c81, 0x2c81), (0x2c83, 0x2c83), (0x2c85, 0x2c85),
  (0x2c87, 0x2c87), (0x2c89, 0x2c89), (0x2c8b, 0x2c8b), (0x2c8d, 0x2c8d), (0x2c8f, 0x2c8f), (0x2c91, 0x2c91),
  (0x2c93, 0x2c93), (0x2c95, 0x2c95), (0x2c97, 0x2c97), (0x2c99, 0x2c99), (0x2c9b, 0x2c9b), (0x2c9d, 0x2c9d),
  (0x2c9f, 0x2c9f), (0x2ca1, 0x2ca1), (0x2ca3, 0x2ca3), (0x2ca5, 0x2ca5), (0x2ca7, 0x2ca7), (0x2ca9, 0x2ca9),
  (0x2cab, 0x2cab), (0x2cad, 0x2cad), (0x2caf, 0x2caf), (0x2cb1, 0x2cb1), (0x2cb3, 0x2cb3), (0x2cb5, 0x2cb5),
  (0x2cb7, 0x2cb7), (0x2cb9, 0x2cb9), (0x2cbb, 0x2cbb), (0x2cbd, 0x2cbd), (0x2cbf, 0x2cbf), (0x2cc1, 0x2cc1),
  (0x2cc3, 0x2cc3), (0x2cc5, 0x2cc5), (0x2cc7, 0x2cc7), (0x2cc9, 0x2cc9), (0x2ccb, 0x2ccb), (0x2ccd, 0x2ccd),
  (0x2ccf, 0x2ccf), (0x2cd1, 0x2cd1), (0x2cd3, 0x2cd3), (0x2cd5, 0x2cd5), (0x2cd7, 0x2cd7), (0x2cd9, 0x2cd9),
  (0x2cdb, 0x2cdb), (0x2cdd, 0x2cdd), (0x2cdf, 0x2cdf), (0x2ce1, 0x2ce1), (0x2ce3, 0x2ce4), (0x2cec, 0x2cec),
  (0x2cee, 0x2cf1), (0x2cf3, 0x2cf3), (0x2d00, 0x2d25), (0x2d27, 0x2d27), (0x2d2d, 0x2d2d), (0x2d30, 0x2d67),
  (0x2d7f, 0x2d96), (0x2da0, 0x2da6), (0x2da8, 0x2dae), (0x2db0, 0x2db6), (0x2db8, 0x2dbe), (0x2dc0, 0x2dc6),
  (0x2dc8, 0x2dce), (0x2dd0, 0x2dd6), (0x2dd8, 0x2dde), (0x2de0, 0x2dff), (0x2e2f, 0x2e2f), (0x3005, 0x3007),
  (0x302a, 0x302d), (0x303c, 0x303c), (0x3041, 0x3096), (0x3099, 0x309a), (0x309d, 0x309e), (0x30a1, 0x30fa),
  (0x30fc, 0x30fe), (0x3105, 0x312f), (0x31a0, 0x31bf), (0x31f0, 0x31ff), (0x3400, 0x4dbf), (0x4e00, 0xa48c),
  (0xa4d0, 0xa4fd), (0xa500, 0xa60c), (0xa610, 0xa62b), (0xa641, 0xa641), (0xa643, 0xa643), (0xa645, 0xa645),
  (0xa647, 0xa647), (0xa649, 0xa649), (0xa64b, 0xa64b), (0xa64d, 0xa64d), (0xa64f, 0xa64f), (0xa651, 0xa651),
  (0xa653, 0xa653), (0xa655, 0xa655), (0xa657, 0xa657), (0xa659, 0xa659)]

/-- Ranges of code points a label may hold, part 9 of 13. -/
def permittedPart8 : List (Nat × Nat) := [
  (0xa65b, 0xa65b), (0xa65d, 0xa65d), (0xa65f, 0xa65f), (0xa661, 0xa661), (0xa663, 0xa663), (0xa665, 0xa665),
  (0xa667, 0xa667), (0xa669, 0xa669), (0xa66b, 0xa66b), (0xa66d, 0xa66f), (0xa674, 0xa67d), (0xa67f, 0xa67f),
  (0xa681, 0xa681), (0xa683, 0xa683), (0xa685, 0xa685), (0xa687, 0xa687), (0xa689, 0xa689), (0xa68b, 0xa68b),
  (0xa68d, 0xa68d), (0xa68f, 0xa68f), (0xa691, 0xa691), (0xa693, 0xa693), (0xa695, 0xa695), (0xa697, 0xa697),
  (0xa699, 0xa699), (0xa69b, 0xa69b), (0xa69e, 0xa6e5), (0xa6f0, 0xa6f1), (0xa717, 0xa71f), (0xa723, 0xa723),
  (0xa725, 0xa725), (0xa727, 0xa727), (0xa729, 0xa729), (0xa72b, 0xa72b), (0xa72d, 0xa72d), (0xa72f, 0xa731),
  (0xa733, 0xa733), (0xa735, 0xa735), (0xa737, 0xa737), (0xa739, 0xa739), (0xa73b, 0xa73b), (0xa73d, 0xa73d),
  (0xa73f, 0xa73f), (0xa741, 0xa741), (0xa743, 0xa743), (0xa745, 0xa745), (0xa747, 0xa747), (0xa749, 0xa749),
  (0xa74b, 0xa74b), (0xa74d, 0xa74d), (0xa74f, 0xa74f), (0xa751, 0xa751), (0xa753, 0xa753), (0xa755, 0xa755),
  (0xa757, 0xa757), (0xa759, 0xa759), (0xa75b, 0xa75b), (0xa75d, 0xa75d), (0xa75f, 0xa75f), (0xa761, 0xa761),
  (0xa763, 0xa763), (0xa765, 0xa765), (0xa767, 0xa767), (0xa769, 0xa769), (0xa76b, 0xa76b), (0xa76d, 0xa76d),
  (0xa76f, 0xa76f), (0xa771, 0xa778), (0xa77a, 0xa77a), (0xa77c, 0xa77c), (0xa77f, 0xa77f), (0xa781, 0xa781),
  (0xa783, 0xa783), (0xa785, 0xa785), (0xa787, 0xa788), (0xa78c, 0xa78c), (0xa78e, 0xa78f), (0xa791, 0xa791),
  (0xa793, 0xa795), (0xa797, 0xa797), (0xa799, 0xa799), (0xa79b, 0xa79b), (0xa79d, 0xa79d), (0xa79f, 0xa79f),
  (0xa7a1, 0xa7a1), (0xa7a3, 0xa7a3), (0xa7a5, 0xa7a5), (0xa7a7, 0xa7a7), (0xa7a9, 0xa7a9), (0xa7af, 0xa7af),
  (0xa7b5, 0xa7b5), (0xa7b7, 0xa7b7), (0xa7b9, 0xa7b9), (0xa7bb, 0xa7bb), (0xa7bd, 0xa7bd), (0xa7bf, 0xa7bf),
  (0xa7c1, 0xa7c1), (0xa7c3, 0xa7c3), (0xa7c8, 0xa7c8), (0xa7ca, 0xa7ca)]

/-- Ranges of code points a label may hold, part 10 of 13. -/
def permittedPart9 : List (Nat × Nat) := [
  (0xa7cd, 0xa7cd), (0xa7cf, 0xa7cf), (0xa7d1, 0xa7d1), (0xa7d3, 0xa7d3), (0xa7d5, 0xa7d5), (0xa7d7, 0xa7d7),
  (0xa7d9, 0xa7d9), (0xa7db, 0xa7db), (0xa7f6, 0xa7f7), (0xa7fa, 0xa827), (0xa82c, 0xa82c), (0xa840, 0xa873),
  (0xa880, 0xa8c5), (0xa8d0, 0xa8d9), (0xa8e0, 0xa8f7), (0xa8fb, 0xa8fb), (0xa8fd, 0xa92d), (0xa930, 0xa953),
  (0xa980, 0xa9c0), (0xa9cf, 0xa9d9), (0xa9e0, 0xa9fe), (0xaa00, 0xaa36), (0xaa40, 0xaa4d), (0xaa50, 0xaa59),
  (0xaa60, 0xaa76), (0xaa7a, 0xaac2), (0xaadb, 0xaadd), (0xaae0, 0xaaef), (0xaaf2, 0xaaf6), (0xab01, 0xab06),
  (0xab09, 0xab0e), (0xab11, 0xab16), (0xab20, 0xab26), (0xab28, 0xab2e), (0xab30, 0xab5a), (0xab60, 0xab68),
  (0xabc0, 0xabea), (0xabec, 0xabed), (0xabf0, 0xabf9), (0xac00, 0xd7a3), (0xfa0e, 0xfa0f), (0xfa11, 0xfa11),
  (0xfa13, 0xfa14), (0xfa1f, 0xfa1f), (0xfa21, 0xfa21), (0xfa23, 0xfa24), (0xfa27, 0xfa29), (0xfb1e, 0xfb1e),
  (0xfe20, 0xfe2f), (0xfe73, 0xfe73), (0x10000, 0x1000b), (0x1000d, 0x10026), (0x10028, 0x1003a), (0x1003c, 0x1003d),
  (0x1003f, 0x1004d), (0x10050, 0x1005d), (0x10080, 0x100fa), (0x101fd, 0x101fd), (0x10280, 0x1029c), (0x102a0, 0x102d0),
  (0x102e0, 0x102e0), (0x10300, 0x1031f), (0x1032d, 0x10340), (0x10342, 0x10349), (0x10350, 0x1037a), (0x10380, 0x1039d),
  (0x103a0, 0x103c3), (0x103c8, 0x103cf), (0x10428, 0x1049d), (0x104a0, 0x104a9), (0x104d8, 0x104fb), (0x10500, 0x10527),
  (0x10530, 0x10563), (0x10597, 0x105a1), (0x105a3, 0x105b1), (0x105b3, 0x105b9), (0x105bb, 0x105bc), (0x105c0, 0x105f3),
  (0x10600, 0x10736), (0x10740, 0x10755), (0x10760, 0x10767), (0x10780, 0x10780), (0x10800, 0x10805), (0x10808, 0x10808),
  (0x1080a, 0x10835), (0x10837, 0x10838), (0x1083c, 0x1083c), (0x1083f, 0x10855), (0x10860, 0x10876), (0x10880, 0x1089e),
  (0x108e0, 0x108f2), (0x108f4, 0x108f5), (0x10900, 0x10915), (0x10920, 0x10939), (0x10940, 0x10959), (0x10980, 0x109b7),
  (0x109be, 0x109bf), (0x10a00, 0x10a03), (0x10a05, 0x10a06), (0x10a0c, 0x10a13)]

/-- Ranges of code points a label may hold, part 11 of 13. -/
def permittedPart10 : List (Nat × Nat) := [
  (0x10a15, 0x10a17), (0x10a19, 0x10a35), (0x10a38, 0x10a3a), (0x10a3f, 0x10a3f), (0x10a60, 0x10a7c), (0x10a80, 0x10a9c),
  (0x10ac0, 0x10ac7), (0x10ac9, 0x10ae6), (0x10b00, 0x10b35), (0x10b40, 0x10b55), (0x10b60, 0x10b72), (0x10b80, 0x10b91),
  (0x10c00, 0x10c48), (0x10cc0, 0x10cf2), (0x10d00, 0x10d27), (0x10d30, 0x10d39), (0x10d40, 0x10d4f), (0x10d69, 0x10d6d),
  (0x10d6f, 0x10d85), (0x10e80, 0x10ea9), (0x10eab, 0x10eac), (0x10eb0, 0x10eb1), (0x10ec2, 0x10ec7), (0x10efa, 0x10f1c),
  (0x10f27, 0x10f27), (0x10f30, 0x10f50), (0x10f70, 0x10f85), (0x10fb0, 0x10fc4), (0x10fe0, 0x10ff6), (0x11000, 0x11046),
  (0x11066, 0x11075), (0x1107f, 0x110ba), (0x110c2, 0x110c2), (0x110d0, 0x110e8), (0x110f0, 0x110f9), (0x11100, 0x11134),
  (0x11136, 0x1113f), (0x11144, 0x11147), (0x11150, 0x11173), (0x11176, 0x11176), (0x11180, 0x111c4), (0x111c9, 0x111cc),
  (0x111ce, 0x111da), (0x111dc, 0x111dc), (0x11200, 0x11211), (0x11213, 0x11237), (0x1123e, 0x11241), (0x11280, 0x11286),
  (0x11288, 0x11288), (0x1128a, 0x1128d), (0x1128f, 0x1129d), (0x1129f, 0x112a8), (0x112b0, 0x112ea), (0x112f0, 0x112f9),
  (0x11300, 0x11303), (0x11305, 0x1130c), (0x1130f, 0x11310), (0x11313, 0x11328), (0x1132a, 0x11330), (0x11332, 0x11333),
  (0x11335, 0x11339), (0x1133b, 0x11344), (0x11347, 0x11348), (0x1134b, 0x1134d), (0x11350, 0x11350), (0x11357, 0x11357),
  (0x1135d, 0x11363), (0x11366, 0x1136c), (0x11370, 0x11374), (0x11380, 0x11389), (0x1138b, 0x1138b), (0x1138e, 0x1138e),
  (0x11390, 0x113b5), (0x113b7, 0x113c0), (0x113c2, 0x113c2), (0x113c5, 0x113c5), (0x113c7, 0x113ca), (0x113cc, 0x113d3),
  (0x113e1, 0x113e2), (0x11400, 0x1144a), (0x11450, 0x11459), (0x1145e, 0x11461), (0x11480, 0x114c5), (0x114c7, 0x114c7),
  (0x114d0, 0x114d9), (0x11580, 0x115b5), (0x115b8, 0x115c0), (0x115d8, 0x115dd), (0x11600, 0x11640), (0x11644, 0x11644),
  (0x11650, 0x11659), (0x11680, 0x116b8), (0x116c0, 0x116c9), (0x116d0, 0x116e3), (0x11700, 0x1171a), (0x1171d, 0x1172b),
  (0x11730, 0x11739), (0x11740, 0x11746), (0x11800, 0x1183a), (0x118c0, 0x118e9)]

/-- Ranges of code points a label may hold, part 12 of 13. -/
def permittedPart11 : List (Nat × Nat) := [
  (0x118ff, 0x11906), (0x11909, 0x11909), (0x1190c, 0x11913), (0x11915, 0x11916), (0x11918, 0x11935), (0x11937, 0x11938),
  (0x1193b, 0x11943), (0x11950, 0x11959), (0x119a0, 0x119a7), (0x119aa, 0x119d7), (0x119da, 0x119e1), (0x119e3, 0x119e4),
  (0x11a00, 0x11a3e), (0x11a47, 0x11a47), (0x11a50, 0x11a99), (0x11a9d, 0x11a9d), (0x11ab0, 0x11af8), (0x11b60, 0x11b67),
  (0x11bc0, 0x11be0), (0x11bf0, 0x11bf9), (0x11c00, 0x11c08), (0x11c0a, 0x11c36), (0x11c38, 0x11c40), (0x11c50, 0x11c59),
  (0x11c72, 0x11c8f), (0x11c92, 0x11ca7), (0x11ca9, 0x11cb6), (0x11d00, 0x11d06), (0x11d08, 0x11d09), (0x11d0b, 0x11d36),
  (0x11d3a, 0x11d3a), (0x11d3c, 0x11d3d), (0x11d3f, 0x11d47), (0x11d50, 0x11d59), (0x11d60, 0x11d65), (0x11d67, 0x11d68),
  (0x11d6a, 0x11d8e), (0x11d90, 0x11d91), (0x11d93, 0x11d98), (0x11da0, 0x11da9), (0x11db0, 0x11ddb), (0x11de0, 0x11de9),
  (0x11ee0, 0x11ef6), (0x11f00, 0x11f10), (0x11f12, 0x11f3a), (0x11f3e, 0x11f42), (0x11f50, 0x11f5a), (0x11fb0, 0x11fb0),
  (0x12000, 0x12399), (0x12480, 0x12543), (0x12f90, 0x12ff0), (0x13000, 0x1342f), (0x13440, 0x13455), (0x13460, 0x143fa),
  (0x14400, 0x14646), (0x16100, 0x16139), (0x16800, 0x16a38), (0x16a40, 0x16a5e), (0x16a60, 0x16a69), (0x16a70, 0x16abe),
  (0x16ac0, 0x16ac9), (0x16ad0, 0x16aed), (0x16af0, 0x16af4), (0x16b00, 0x16b36), (0x16b40, 0x16b43), (0x16b50, 0x16b59),
  (0x16b63, 0x16b77), (0x16b7d, 0x16b8f), (0x16d40, 0x16d6c), (0x16d70, 0x16d79), (0x16e60, 0x16e7f), (0x16ebb, 0x16ed3),
  (0x16f00, 0x16f4a), (0x16f4f, 0x16f87), (0x16f8f, 0x16f9f), (0x16fe0, 0x16fe1), (0x16fe3, 0x16fe4), (0x16ff0, 0x16ff3),
  (0x17000, 0x18cd5), (0x18cff, 0x18d1e), (0x18d80, 0x18df2), (0x1aff0, 0x1aff3), (0x1aff5, 0x1affb), (0x1affd, 0x1affe),
  (0x1b000, 0x1b122), (0x1b132, 0x1b132), (0x1b150, 0x1b152), (0x1b155, 0x1b155), (0x1b164, 0x1b167), (0x1b170, 0x1b2fb),
  (0x1bc00, 0x1bc6a), (0x1bc70, 0x1bc7c), (0x1bc80, 0x1bc88), (0x1bc90, 0x1bc99), (0x1bc9d, 0x1bc9e), (0x1cf00, 0x1cf2d),
  (0x1cf30, 0x1cf46), (0x1da00, 0x1da36), (0x1da3b, 0x1da6c), (0x1da75, 0x1da75)]

/-- Ranges of code points a label may hold, part 13 of 13. -/
def permittedPart12 : List (Nat × Nat) := [
  (0x1da84, 0x1da84), (0x1da9b, 0x1da9f), (0x1daa1, 0x1daaf), (0x1df00, 0x1df1e), (0x1df25, 0x1df2a), (0x1e000, 0x1e006),
  (0x1e008, 0x1e018), (0x1e01b, 0x1e021), (0x1e023, 0x1e024), (0x1e026, 0x1e02a), (0x1e08f, 0x1e08f), (0x1e100, 0x1e12c),
  (0x1e130, 0x1e13d), (0x1e140, 0x1e149), (0x1e14e, 0x1e14e), (0x1e290, 0x1e2ae), (0x1e2c0, 0x1e2f9), (0x1e4d0, 0x1e4f9),
  (0x1e5d0, 0x1e5fa), (0x1e6c0, 0x1e6de), (0x1e6e0, 0x1e6f5), (0x1e6fe, 0x1e6ff), (0x1e7e0, 0x1e7e6), (0x1e7e8, 0x1e7eb),
  (0x1e7ed, 0x1e7ee), (0x1e7f0, 0x1e7fe), (0x1e800, 0x1e8c4), (0x1e8d0, 0x1e8d6), (0x1e922, 0x1e94b), (0x1e950, 0x1e959),
  (0x20000, 0x2a6df), (0x2a700, 0x2b81d), (0x2b820, 0x2cead), (0x2ceb0, 0x2ebe0), (0x2ebf0, 0x2ee5d), (0x30000, 0x3134a),
  (0x31350, 0x33479)]

/-- Ranges of code points a label may hold. -/
def permitted : List (Nat × Nat) :=
  permittedPart0 ++
  permittedPart1 ++
  permittedPart2 ++
  permittedPart3 ++
  permittedPart4 ++
  permittedPart5 ++
  permittedPart6 ++
  permittedPart7 ++
  permittedPart8 ++
  permittedPart9 ++
  permittedPart10 ++
  permittedPart11 ++
  permittedPart12

/-- The zero-width non-joiner and joiner, allowed after a virama or between joining letters. -/
def joiners : List (Nat × Nat) := [(0x200c, 0x200d)]

/-- Code points a label may hold in the context their own rule names. -/
def contextual : List (Nat × Nat) := [
  (0xb7, 0xb7), (0x375, 0x375), (0x5f3, 0x5f4), (0x660, 0x669), (0x6f0, 0x6f9), (0x30fb, 0x30fb)]

/-- Runs of combining marks, part 1 of 3. -/
def marksPart0 : List (Nat × Nat) := [
  (0x300, 0x36f), (0x483, 0x487), (0x591, 0x5c7), (0x610, 0x61a), (0x64b, 0x65f), (0x670, 0x670),
  (0x6d6, 0x6e4), (0x6e7, 0x6ed), (0x711, 0x711), (0x730, 0x74a), (0x7a6, 0x7b0), (0x7eb, 0x7f3),
  (0x7fd, 0x7fd), (0x816, 0x819), (0x81b, 0x823), (0x825, 0x827), (0x829, 0x82d), (0x859, 0x85b),
  (0x898, 0x89f), (0x8ca, 0x903), (0x93a, 0x93c), (0x93e, 0x94f), (0x951, 0x957), (0x962, 0x963),
  (0x981, 0x983), (0x9bc, 0x9bc), (0x9be, 0x9cd), (0x9d7, 0x9d7), (0x9e2, 0x9e3), (0x9fe, 0xa03),
  (0xa3c, 0xa51), (0xa70, 0xa71), (0xa75, 0xa83), (0xabc, 0xabc), (0xabe, 0xacd), (0xae2, 0xae3),
  (0xafa, 0xb03), (0xb3c, 0xb3c), (0xb3e, 0xb57), (0xb62, 0xb63), (0xb82, 0xb82), (0xbbe, 0xbcd),
  (0xbd7, 0xbd7), (0xc00, 0xc04), (0xc3c, 0xc3c), (0xc3e, 0xc56), (0xc62, 0xc63), (0xc81, 0xc83),
  (0xcbc, 0xcbc), (0xcbe, 0xcd6), (0xce2, 0xce3), (0xd00, 0xd03), (0xd3b, 0xd3c), (0xd3e, 0xd4d),
  (0xd57, 0xd57), (0xd62, 0xd63), (0xd81, 0xd83), (0xdca, 0xddf), (0xdf2, 0xdf3), (0xe31, 0xe31),
  (0xe34, 0xe3a), (0xe47, 0xe4e), (0xeb1, 0xeb1), (0xeb4, 0xebc), (0xec8, 0xecd), (0xf18, 0xf19),
  (0xf35, 0xf3f), (0xf71, 0xf87), (0xf8d, 0xfc6), (0x102b, 0x103e), (0x1056, 0x1059), (0x105e, 0x1060),
  (0x1062, 0x1064), (0x1067, 0x106d), (0x1071, 0x1074), (0x1082, 0x108d), (0x108f, 0x108f), (0x109a, 0x109d),
  (0x135d, 0x135f), (0x1712, 0x1715), (0x1732, 0x1734), (0x1752, 0x1753), (0x1772, 0x1773), (0x17b6, 0x17d3),
  (0x17dd, 0x17dd), (0x1885, 0x1886), (0x18a9, 0x18a9), (0x1920, 0x193b), (0x1a17, 0x1a1b), (0x1a55, 0x1a7f),
  (0x1ab0, 0x1ace), (0x1b00, 0x1b04), (0x1b34, 0x1b44), (0x1b6b, 0x1b82), (0x1ba1, 0x1bad), (0x1be6, 0x1bf3),
  (0x1c24, 0x1c37), (0x1cd0, 0x1ce8), (0x1ced, 0x1ced), (0x1cf4, 0x1cf4)]

/-- Runs of combining marks, part 2 of 3. -/
def marksPart1 : List (Nat × Nat) := [
  (0x1cf7, 0x1cf9), (0x1dc0, 0x1dff), (0x2cef, 0x2cf1), (0x2d7f, 0x2d7f), (0x2de0, 0x2dff), (0x302a, 0x302d),
  (0x3099, 0x309a), (0xa66f, 0xa67d), (0xa69e, 0xa69f), (0xa6f0, 0xa6f1), (0xa802, 0xa802), (0xa806, 0xa806),
  (0xa80b, 0xa80b), (0xa823, 0xa82c), (0xa880, 0xa881), (0xa8b4, 0xa8c5), (0xa8e0, 0xa8f1), (0xa8ff, 0xa8ff),
  (0xa926, 0xa92d), (0xa947, 0xa983), (0xa9b3, 0xa9c0), (0xa9e5, 0xa9e5), (0xaa29, 0xaa36), (0xaa43, 0xaa43),
  (0xaa4c, 0xaa4d), (0xaa7b, 0xaa7d), (0xaab0, 0xaab0), (0xaab2, 0xaab4), (0xaab7, 0xaab8), (0xaabe, 0xaabf),
  (0xaac1, 0xaac1), (0xaaeb, 0xaaef), (0xaaf5, 0xaaf6), (0xabe3, 0xabed), (0xfb1e, 0xfe2f), (0x101fd, 0x101fd),
  (0x102e0, 0x102e0), (0x10376, 0x1037a), (0x10a01, 0x10a0f), (0x10a38, 0x10a3f), (0x10ae5, 0x10ae6), (0x10d24, 0x10d27),
  (0x10eab, 0x10eac), (0x10f46, 0x10f50), (0x10f82, 0x10f85), (0x11000, 0x11002), (0x11038, 0x11046), (0x11070, 0x11070),
  (0x11073, 0x11074), (0x1107f, 0x11082), (0x110b0, 0x110c2), (0x11100, 0x11102), (0x11127, 0x11134), (0x11145, 0x11146),
  (0x11173, 0x11173), (0x11180, 0x11182), (0x111b3, 0x111c0), (0x111c9, 0x111cf), (0x1122c, 0x1123e), (0x112df, 0x112ea),
  (0x11300, 0x11303), (0x1133b, 0x1133c), (0x1133e, 0x1134d), (0x11357, 0x11357), (0x11362, 0x11374), (0x11435, 0x11446),
  (0x1145e, 0x1145e), (0x114b0, 0x114c3), (0x115af, 0x115c0), (0x115dc, 0x115dd), (0x11630, 0x11640), (0x116ab, 0x116b7),
  (0x1171d, 0x1172b), (0x1182c, 0x1183a), (0x11930, 0x1193e), (0x11940, 0x11940), (0x11942, 0x11943), (0x119d1, 0x119e0),
  (0x119e4, 0x119e4), (0x11a01, 0x11a0a), (0x11a33, 0x11a39), (0x11a3b, 0x11a47), (0x11a51, 0x11a5b), (0x11a8a, 0x11a99),
  (0x11c2f, 0x11c3f), (0x11c92, 0x11cb6), (0x11d31, 0x11d45), (0x11d47, 0x11d47), (0x11d8a, 0x11d97), (0x11ef3, 0x11ef6),
  (0x16af0, 0x16af4), (0x16b30, 0x16b36), (0x16f4f, 0x16f4f), (0x16f51, 0x16f92), (0x16fe4, 0x16ff1), (0x1bc9d, 0x1daaf),
  (0x1e000, 0x1e02a), (0x1e130, 0x1e136), (0x1e2ae, 0x1e2ae), (0x1e2ec, 0x1e2ef)]

/-- Runs of combining marks, part 3 of 3. -/
def marksPart2 : List (Nat × Nat) := [
  (0x1e8d0, 0x1e8d6), (0x1e944, 0x1e94a)]

/-- Runs of combining marks. -/
def marks : List (Nat × Nat) :=
  marksPart0 ++
  marksPart1 ++
  marksPart2

/-- Runs of bidirectional classes other than left-to-right, part 1 of 6. -/
def directionsPart0 : List (Nat × Nat × Direction) := [
  (0x2d, 0x2d, .europeanSeparator), (0x30, 0x39, .europeanNumber), (0xb7, 0xb7, .otherNeutral), (0x2b9, 0x2ba, .otherNeutral), (0x2c6, 0x2cf, .otherNeutral), (0x2ec, 0x2ec, .otherNeutral),
  (0x300, 0x36f, .nonspacingMark), (0x375, 0x375, .otherNeutral), (0x483, 0x487, .nonspacingMark), (0x591, 0x5c7, .nonspacingMark), (0x5d0, 0x5f4, .rightToLeft), (0x610, 0x61a, .nonspacingMark),
  (0x620, 0x64a, .arabicLetter), (0x64b, 0x65f, .nonspacingMark), (0x660, 0x669, .arabicNumber), (0x66e, 0x66f, .arabicLetter), (0x670, 0x670, .nonspacingMark), (0x671, 0x6d5, .arabicLetter),
  (0x6d6, 0x6e4, .nonspacingMark), (0x6e5, 0x6e6, .arabicLetter), (0x6e7, 0x6ed, .nonspacingMark), (0x6ee, 0x6ef, .arabicLetter), (0x6f0, 0x6f9, .europeanNumber), (0x6fa, 0x710, .arabicLetter),
  (0x711, 0x711, .nonspacingMark), (0x712, 0x72f, .arabicLetter), (0x730, 0x74a, .nonspacingMark), (0x74d, 0x7a5, .arabicLetter), (0x7a6, 0x7b0, .nonspacingMark), (0x7b1, 0x7b1, .arabicLetter),
  (0x7c0, 0x7ea, .rightToLeft), (0x7eb, 0x7f3, .nonspacingMark), (0x7f4, 0x7f5, .rightToLeft), (0x7fd, 0x7fd, .nonspacingMark), (0x800, 0x815, .rightToLeft), (0x816, 0x819, .nonspacingMark),
  (0x81a, 0x81a, .rightToLeft), (0x81b, 0x823, .nonspacingMark), (0x824, 0x824, .rightToLeft), (0x825, 0x827, .nonspacingMark), (0x828, 0x828, .rightToLeft), (0x829, 0x82d, .nonspacingMark),
  (0x840, 0x858, .rightToLeft), (0x859, 0x85b, .nonspacingMark), (0x860, 0x88e, .arabicLetter), (0x88f, 0x897, .unknown), (0x898, 0x89f, .nonspacingMark), (0x8a0, 0x8c9, .arabicLetter),
  (0x8ca, 0x902, .nonspacingMark), (0x93a, 0x93a, .nonspacingMark), (0x93c, 0x93c, .nonspacingMark), (0x941, 0x948, .nonspacingMark), (0x94d, 0x94d, .nonspacingMark), (0x951, 0x957, .nonspacingMark),
  (0x962, 0x963, .nonspacingMark), (0x981, 0x981, .nonspacingMark), (0x9bc, 0x9bc, .nonspacingMark), (0x9c1, 0x9c4, .nonspacingMark), (0x9cd, 0x9cd, .nonspacingMark), (0x9e2, 0x9e3, .nonspacingMark)]

/-- Runs of bidirectional classes other than left-to-right, part 2 of 6. -/
def directionsPart1 : List (Nat × Nat × Direction) := [
  (0x9fe, 0xa02, .nonspacingMark), (0xa3c, 0xa3c, .nonspacingMark), (0xa41, 0xa51, .nonspacingMark), (0xa70, 0xa71, .nonspacingMark), (0xa75, 0xa82, .nonspacingMark), (0xabc, 0xabc, .nonspacingMark),
  (0xac1, 0xac8, .nonspacingMark), (0xacd, 0xacd, .nonspacingMark), (0xae2, 0xae3, .nonspacingMark), (0xafa, 0xb01, .nonspacingMark), (0xb3c, 0xb3c, .nonspacingMark), (0xb3f, 0xb3f, .nonspacingMark),
  (0xb41, 0xb44, .nonspacingMark), (0xb4d, 0xb56, .nonspacingMark), (0xb62, 0xb63, .nonspacingMark), (0xb82, 0xb82, .nonspacingMark), (0xbc0, 0xbc0, .nonspacingMark), (0xbcd, 0xbcd, .nonspacingMark),
  (0xc00, 0xc00, .nonspacingMark), (0xc04, 0xc04, .nonspacingMark), (0xc3c, 0xc3c, .nonspacingMark), (0xc3e, 0xc40, .nonspacingMark), (0xc46, 0xc56, .nonspacingMark), (0xc5c, 0xc5c, .unknown),
  (0xc62, 0xc63, .nonspacingMark), (0xc81, 0xc81, .nonspacingMark), (0xcbc, 0xcbc, .nonspacingMark), (0xccc, 0xccd, .nonspacingMark), (0xcdc, 0xcdc, .unknown), (0xce2, 0xce3, .nonspacingMark),
  (0xcf3, 0xcf3, .unknown), (0xd00, 0xd01, .nonspacingMark), (0xd3b, 0xd3c, .nonspacingMark), (0xd41, 0xd44, .nonspacingMark), (0xd4d, 0xd4d, .nonspacingMark), (0xd62, 0xd63, .nonspacingMark),
  (0xd81, 0xd81, .nonspacingMark), (0xdca, 0xdca, .nonspacingMark), (0xdd2, 0xdd6, .nonspacingMark), (0xe31, 0xe31, .nonspacingMark), (0xe34, 0xe3a, .nonspacingMark), (0xe47, 0xe4e, .nonspacingMark),
  (0xeb1, 0xeb1, .nonspacingMark), (0xeb4, 0xebc, .nonspacingMark), (0xec8, 0xecd, .nonspacingMark), (0xece, 0xece, .unknown), (0xf18, 0xf19, .nonspacingMark), (0xf35, 0xf39, .nonspacingMark),
  (0xf71, 0xf7e, .nonspacingMark), (0xf80, 0xf87, .nonspacingMark), (0xf8d, 0xfc6, .nonspacingMark), (0x102d, 0x1030, .nonspacingMark), (0x1032, 0x1037, .nonspacingMark), (0x1039, 0x103a, .nonspacingMark),
  (0x103d, 0x103e, .nonspacingMark), (0x1058, 0x1059, .nonspacingMark), (0x105e, 0x1060, .nonspacingMark), (0x1071, 0x1074, .nonspacingMark), (0x1082, 0x1082, .nonspacingMark), (0x1085, 0x1086, .nonspacingMark)]

/-- Runs of bidirectional classes other than left-to-right, part 3 of 6. -/
def directionsPart2 : List (Nat × Nat × Direction) := [
  (0x108d, 0x108d, .nonspacingMark), (0x109d, 0x109d, .nonspacingMark), (0x135d, 0x135f, .nonspacingMark), (0x1712, 0x1714, .nonspacingMark), (0x1732, 0x1733, .nonspacingMark), (0x1752, 0x1753, .nonspacingMark),
  (0x1772, 0x1773, .nonspacingMark), (0x17b7, 0x17bd, .nonspacingMark), (0x17c6, 0x17c6, .nonspacingMark), (0x17c9, 0x17d3, .nonspacingMark), (0x17dd, 0x17dd, .nonspacingMark), (0x1885, 0x1886, .nonspacingMark),
  (0x18a9, 0x18a9, .nonspacingMark), (0x1920, 0x1922, .nonspacingMark), (0x1927, 0x1928, .nonspacingMark), (0x1932, 0x1932, .nonspacingMark), (0x1939, 0x193b, .nonspacingMark), (0x1a17, 0x1a18, .nonspacingMark),
  (0x1a1b, 0x1a1b, .nonspacingMark), (0x1a56, 0x1a56, .nonspacingMark), (0x1a58, 0x1a60, .nonspacingMark), (0x1a62, 0x1a62, .nonspacingMark), (0x1a65, 0x1a6c, .nonspacingMark), (0x1a73, 0x1a7f, .nonspacingMark),
  (0x1ab0, 0x1ace, .nonspacingMark), (0x1acf, 0x1aeb, .unknown), (0x1b00, 0x1b03, .nonspacingMark), (0x1b34, 0x1b34, .nonspacingMark), (0x1b36, 0x1b3a, .nonspacingMark), (0x1b3c, 0x1b3c, .nonspacingMark),
  (0x1b42, 0x1b42, .nonspacingMark), (0x1b6b, 0x1b81, .nonspacingMark), (0x1ba2, 0x1ba5, .nonspacingMark), (0x1ba8, 0x1ba9, .nonspacingMark), (0x1bab, 0x1bad, .nonspacingMark), (0x1be6, 0x1be6, .nonspacingMark),
  (0x1be8, 0x1be9, .nonspacingMark), (0x1bed, 0x1bed, .nonspacingMark), (0x1bef, 0x1bf1, .nonspacingMark), (0x1c2c, 0x1c33, .nonspacingMark), (0x1c36, 0x1c37, .nonspacingMark), (0x1c8a, 0x1c8a, .unknown),
  (0x1cd0, 0x1ce0, .nonspacingMark), (0x1ce2, 0x1ce8, .nonspacingMark), (0x1ced, 0x1ced, .nonspacingMark), (0x1cf4, 0x1cf4, .nonspacingMark), (0x1cf8, 0x1cf9, .nonspacingMark), (0x1dc0, 0x1dff, .nonspacingMark),
  (0x200c, 0x200d, .boundaryNeutral), (0x2cef, 0x2cf1, .nonspacingMark), (0x2d7f, 0x2d7f, .nonspacingMark), (0x2de0, 0x2dff, .nonspacingMark), (0x2e2f, 0x2e2f, .otherNeutral), (0x302a, 0x302d, .nonspacingMark),
  (0x3099, 0x309a, .nonspacingMark), (0x30fb, 0x30fb, .otherNeutral), (0xa66f, 0xa67d, .nonspacingMark), (0xa67f, 0xa67f, .otherNeutral), (0xa69e, 0xa69f, .nonspacingMark), (0xa6f0, 0xa6f1, .nonspacingMark)]

/-- Runs of bidirectional classes other than left-to-right, part 4 of 6. -/
def directionsPart3 : List (Nat × Nat × Direction) := [
  (0xa717, 0xa71f, .otherNeutral), (0xa788, 0xa788, .otherNeutral), (0xa7cd, 0xa7cf, .unknown), (0xa7db, 0xa7db, .unknown), (0xa802, 0xa802, .nonspacingMark), (0xa806, 0xa806, .nonspacingMark),
  (0xa80b, 0xa80b, .nonspacingMark), (0xa825, 0xa826, .nonspacingMark), (0xa82c, 0xa82c, .nonspacingMark), (0xa8c4, 0xa8c5, .nonspacingMark), (0xa8e0, 0xa8f1, .nonspacingMark), (0xa8ff, 0xa8ff, .nonspacingMark),
  (0xa926, 0xa92d, .nonspacingMark), (0xa947, 0xa951, .nonspacingMark), (0xa980, 0xa982, .nonspacingMark), (0xa9b3, 0xa9b3, .nonspacingMark), (0xa9b6, 0xa9b9, .nonspacingMark), (0xa9bc, 0xa9bd, .nonspacingMark),
  (0xa9e5, 0xa9e5, .nonspacingMark), (0xaa29, 0xaa2e, .nonspacingMark), (0xaa31, 0xaa32, .nonspacingMark), (0xaa35, 0xaa36, .nonspacingMark), (0xaa43, 0xaa43, .nonspacingMark), (0xaa4c, 0xaa4c, .nonspacingMark),
  (0xaa7c, 0xaa7c, .nonspacingMark), (0xaab0, 0xaab0, .nonspacingMark), (0xaab2, 0xaab4, .nonspacingMark), (0xaab7, 0xaab8, .nonspacingMark), (0xaabe, 0xaabf, .nonspacingMark), (0xaac1, 0xaac1, .nonspacingMark),
  (0xaaec, 0xaaed, .nonspacingMark), (0xaaf6, 0xaaf6, .nonspacingMark), (0xabe5, 0xabe5, .nonspacingMark), (0xabe8, 0xabe8, .nonspacingMark), (0xabed, 0xabed, .nonspacingMark), (0xfb1e, 0xfe2f, .nonspacingMark),
  (0xfe73, 0xfe73, .arabicLetter), (0x101fd, 0x101fd, .nonspacingMark), (0x102e0, 0x102e0, .nonspacingMark), (0x10376, 0x1037a, .nonspacingMark), (0x105c0, 0x105f3, .unknown), (0x10800, 0x10939, .rightToLeft),
  (0x10940, 0x10959, .unknown), (0x10980, 0x10a00, .rightToLeft), (0x10a01, 0x10a0f, .nonspacingMark), (0x10a10, 0x10a35, .rightToLeft), (0x10a38, 0x10a3f, .nonspacingMark), (0x10a60, 0x10ae4, .rightToLeft),
  (0x10ae5, 0x10ae6, .nonspacingMark), (0x10b00, 0x10cf2, .rightToLeft), (0x10d00, 0x10d23, .arabicLetter), (0x10d24, 0x10d27, .nonspacingMark), (0x10d30, 0x10d39, .arabicNumber), (0x10d40, 0x10d85, .unknown),
  (0x10e80, 0x10ea9, .rightToLeft), (0x10eab, 0x10eac, .nonspacingMark), (0x10eb0, 0x10eb1, .rightToLeft), (0x10ec2, 0x10eff, .unknown), (0x10f00, 0x10f27, .rightToLeft), (0x10f30, 0x10f45, .arabicLetter)]

/-- Runs of bidirectional classes other than left-to-right, part 5 of 6. -/
def directionsPart4 : List (Nat × Nat × Direction) := [
  (0x10f46, 0x10f50, .nonspacingMark), (0x10f70, 0x10f81, .rightToLeft), (0x10f82, 0x10f85, .nonspacingMark), (0x10fb0, 0x10ff6, .rightToLeft), (0x11001, 0x11001, .nonspacingMark), (0x11038, 0x11046, .nonspacingMark),
  (0x11070, 0x11070, .nonspacingMark), (0x11073, 0x11074, .nonspacingMark), (0x1107f, 0x11081, .nonspacingMark), (0x110b3, 0x110b6, .nonspacingMark), (0x110b9, 0x110c2, .nonspacingMark), (0x11100, 0x11102, .nonspacingMark),
  (0x11127, 0x1112b, .nonspacingMark), (0x1112d, 0x11134, .nonspacingMark), (0x11173, 0x11173, .nonspacingMark), (0x11180, 0x11181, .nonspacingMark), (0x111b6, 0x111be, .nonspacingMark), (0x111c9, 0x111cc, .nonspacingMark),
  (0x111cf, 0x111cf, .nonspacingMark), (0x1122f, 0x11231, .nonspacingMark), (0x11234, 0x11234, .nonspacingMark), (0x11236, 0x1123e, .nonspacingMark), (0x1123f, 0x11241, .unknown), (0x112df, 0x112df, .nonspacingMark),
  (0x112e3, 0x112ea, .nonspacingMark), (0x11300, 0x11301, .nonspacingMark), (0x1133b, 0x1133c, .nonspacingMark), (0x11340, 0x11340, .nonspacingMark), (0x11366, 0x11374, .nonspacingMark), (0x11380, 0x113e2, .unknown),
  (0x11438, 0x1143f, .nonspacingMark), (0x11442, 0x11444, .nonspacingMark), (0x11446, 0x11446, .nonspacingMark), (0x1145e, 0x1145e, .nonspacingMark), (0x114b3, 0x114b8, .nonspacingMark), (0x114ba, 0x114ba, .nonspacingMark),
  (0x114bf, 0x114c0, .nonspacingMark), (0x114c2, 0x114c3, .nonspacingMark), (0x115b2, 0x115b5, .nonspacingMark), (0x115bc, 0x115bd, .nonspacingMark), (0x115bf, 0x115c0, .nonspacingMark), (0x115dc, 0x115dd, .nonspacingMark),
  (0x11633, 0x1163a, .nonspacingMark), (0x1163d, 0x1163d, .nonspacingMark), (0x1163f, 0x11640, .nonspacingMark), (0x116ab, 0x116ab, .nonspacingMark), (0x116ad, 0x116ad, .nonspacingMark), (0x116b0, 0x116b5, .nonspacingMark),
  (0x116b7, 0x116b7, .nonspacingMark), (0x116d0, 0x116e3, .unknown), (0x1171d, 0x1171f, .nonspacingMark), (0x11722, 0x11725, .nonspacingMark), (0x11727, 0x1172b, .nonspacingMark), (0x1182f, 0x11837, .nonspacingMark),
  (0x11839, 0x1183a, .nonspacingMark), (0x1193b, 0x1193c, .nonspacingMark), (0x1193e, 0x1193e, .nonspacingMark), (0x11943, 0x11943, .nonspacingMark), (0x119d4, 0x119db, .nonspacingMark), (0x119e0, 0x119e0, .nonspacingMark)]

/-- Runs of bidirectional classes other than left-to-right, part 6 of 6. -/
def directionsPart5 : List (Nat × Nat × Direction) := [
  (0x11a01, 0x11a06, .nonspacingMark), (0x11a09, 0x11a0a, .nonspacingMark), (0x11a33, 0x11a38, .nonspacingMark), (0x11a3b, 0x11a47, .nonspacingMark), (0x11a51, 0x11a56, .nonspacingMark), (0x11a59, 0x11a5b, .nonspacingMark),
  (0x11a8a, 0x11a96, .nonspacingMark), (0x11a98, 0x11a99, .nonspacingMark), (0x11b60, 0x11bf9, .unknown), (0x11c30, 0x11c3d, .nonspacingMark), (0x11c92, 0x11ca7, .nonspacingMark), (0x11caa, 0x11cb0, .nonspacingMark),
  (0x11cb2, 0x11cb3, .nonspacingMark), (0x11cb5, 0x11cb6, .nonspacingMark), (0x11d31, 0x11d45, .nonspacingMark), (0x11d47, 0x11d47, .nonspacingMark), (0x11d90, 0x11d91, .nonspacingMark), (0x11d95, 0x11d95, .nonspacingMark),
  (0x11d97, 0x11d97, .nonspacingMark), (0x11db0, 0x11de9, .unknown), (0x11ef3, 0x11ef4, .nonspacingMark), (0x11f00, 0x11f5a, .unknown), (0x1342f, 0x143fa, .unknown), (0x16100, 0x16139, .unknown),
  (0x16af0, 0x16af4, .nonspacingMark), (0x16b30, 0x16b36, .nonspacingMark), (0x16d40, 0x16d79, .unknown), (0x16ebb, 0x16ed3, .unknown), (0x16f4f, 0x16f4f, .nonspacingMark), (0x16f8f, 0x16f92, .nonspacingMark),
  (0x16fe4, 0x16fe4, .nonspacingMark), (0x16ff2, 0x16ff3, .unknown), (0x187f8, 0x187ff, .unknown), (0x18cff, 0x18cff, .unknown), (0x18d09, 0x18df2, .unknown), (0x1b132, 0x1b132, .unknown),
  (0x1b155, 0x1b155, .unknown), (0x1bc9d, 0x1daaf, .nonspacingMark), (0x1df25, 0x1df2a, .unknown), (0x1e000, 0x1e02a, .nonspacingMark), (0x1e08f, 0x1e08f, .unknown), (0x1e130, 0x1e136, .nonspacingMark),
  (0x1e2ae, 0x1e2ae, .nonspacingMark), (0x1e2ec, 0x1e2ef, .nonspacingMark), (0x1e4d0, 0x1e6ff, .unknown), (0x1e800, 0x1e8c4, .rightToLeft), (0x1e8d0, 0x1e8d6, .nonspacingMark), (0x1e922, 0x1e943, .rightToLeft),
  (0x1e944, 0x1e94a, .nonspacingMark), (0x1e94b, 0x1e959, .rightToLeft), (0x2b739, 0x2b73f, .unknown), (0x2cea2, 0x2cead, .unknown), (0x2ebf0, 0x2ee5d, .unknown), (0x31350, 0x33479, .unknown)]

/-- Runs of bidirectional classes other than left-to-right. -/
def directions : List (Nat × Nat × Direction) :=
  directionsPart0 ++
  directionsPart1 ++
  directionsPart2 ++
  directionsPart3 ++
  directionsPart4 ++
  directionsPart5

/-- Runs of joining types, part 1 of 6. -/
def joiningTypesPart0 : List (Nat × Nat × Joining) := [
  (0x300, 0x36f, .transparent), (0x483, 0x487, .transparent), (0x591, 0x5c7, .transparent), (0x610, 0x61a, .transparent), (0x620, 0x620, .dual), (0x622, 0x625, .right),
  (0x626, 0x626, .dual), (0x627, 0x627, .right), (0x628, 0x628, .dual), (0x629, 0x629, .right), (0x62a, 0x62e, .dual), (0x62f, 0x632, .right),
  (0x633, 0x647, .dual), (0x648, 0x648, .right), (0x649, 0x64a, .dual), (0x64b, 0x65f, .transparent), (0x66e, 0x66f, .dual), (0x670, 0x670, .transparent),
  (0x671, 0x673, .right), (0x679, 0x687, .dual), (0x688, 0x699, .right), (0x69a, 0x6bf, .dual), (0x6c0, 0x6c0, .right), (0x6c1, 0x6c2, .dual),
  (0x6c3, 0x6cb, .right), (0x6cc, 0x6cc, .dual), (0x6cd, 0x6cd, .right), (0x6ce, 0x6ce, .dual), (0x6cf, 0x6cf, .right), (0x6d0, 0x6d1, .dual),
  (0x6d2, 0x6d5, .right), (0x6d6, 0x6e4, .transparent), (0x6e7, 0x6ed, .transparent), (0x6ee, 0x6ef, .right), (0x6fa, 0x6fc, .dual), (0x6ff, 0x6ff, .dual),
  (0x710, 0x710, .right), (0x711, 0x711, .transparent), (0x712, 0x714, .dual), (0x715, 0x719, .right), (0x71a, 0x71d, .dual), (0x71e, 0x71e, .right),
  (0x71f, 0x727, .dual), (0x728, 0x728, .right), (0x729, 0x729, .dual), (0x72a, 0x72a, .right), (0x72b, 0x72b, .dual), (0x72c, 0x72c, .right),
  (0x72d, 0x72e, .dual), (0x72f, 0x72f, .right), (0x730, 0x74a, .transparent), (0x74d, 0x74d, .right), (0x74e, 0x758, .dual), (0x759, 0x75b, .right),
  (0x75c, 0x76a, .dual), (0x76b, 0x76c, .right), (0x76d, 0x770, .dual), (0x771, 0x771, .right), (0x772, 0x772, .dual), (0x773, 0x774, .right),
  (0x775, 0x777, .dual), (0x778, 0x779, .right), (0x77a, 0x77f, .dual), (0x7a6, 0x7b0, .transparent), (0x7ca, 0x7ea, .dual), (0x7eb, 0x7f3, .transparent),
  (0x7fd, 0x7fd, .transparent), (0x816, 0x819, .transparent), (0x81b, 0x823, .transparent), (0x825, 0x827, .transparent), (0x829, 0x82d, .transparent), (0x840, 0x840, .right),
  (0x841, 0x845, .dual), (0x846, 0x847, .right), (0x848, 0x848, .dual), (0x849, 0x849, .right), (0x84a, 0x853, .dual), (0x854, 0x854, .right),
  (0x855, 0x855, .dual), (0x856, 0x858, .right)]

/-- Runs of joining types, part 2 of 6. -/
def joiningTypesPart1 : List (Nat × Nat × Joining) := [
  (0x859, 0x85b, .transparent), (0x860, 0x860, .dual), (0x862, 0x865, .dual), (0x867, 0x867, .right), (0x868, 0x868, .dual), (0x869, 0x882, .right),
  (0x883, 0x885, .joinCausing), (0x886, 0x886, .dual), (0x889, 0x88d, .dual), (0x88e, 0x88e, .right), (0x88f, 0x88f, .dual), (0x897, 0x89f, .transparent),
  (0x8a0, 0x8a9, .dual), (0x8aa, 0x8ac, .right), (0x8ae, 0x8ae, .right), (0x8af, 0x8b0, .dual), (0x8b1, 0x8b2, .right), (0x8b3, 0x8b8, .dual),
  (0x8b9, 0x8b9, .right), (0x8ba, 0x8c8, .dual), (0x8ca, 0x902, .transparent), (0x93a, 0x93a, .transparent), (0x93c, 0x93c, .transparent), (0x941, 0x948, .transparent),
  (0x94d, 0x94d, .transparent), (0x951, 0x957, .transparent), (0x962, 0x963, .transparent), (0x981, 0x981, .transparent), (0x9bc, 0x9bc, .transparent), (0x9c1, 0x9c4, .transparent),
  (0x9cd, 0x9cd, .transparent), (0x9e2, 0x9e3, .transparent), (0x9fe, 0xa02, .transparent), (0xa3c, 0xa3c, .transparent), (0xa41, 0xa51, .transparent), (0xa70, 0xa71, .transparent),
  (0xa75, 0xa82, .transparent), (0xabc, 0xabc, .transparent), (0xac1, 0xac8, .transparent), (0xacd, 0xacd, .transparent), (0xae2, 0xae3, .transparent), (0xafa, 0xb01, .transparent),
  (0xb3c, 0xb3c, .transparent), (0xb3f, 0xb3f, .transparent), (0xb41, 0xb44, .transparent), (0xb4d, 0xb56, .transparent), (0xb62, 0xb63, .transparent), (0xb82, 0xb82, .transparent),
  (0xbc0, 0xbc0, .transparent), (0xbcd, 0xbcd, .transparent), (0xc00, 0xc00, .transparent), (0xc04, 0xc04, .transparent), (0xc3c, 0xc3c, .transparent), (0xc3e, 0xc40, .transparent),
  (0xc46, 0xc56, .transparent), (0xc62, 0xc63, .transparent), (0xc81, 0xc81, .transparent), (0xcbc, 0xcbc, .transparent), (0xcbf, 0xcbf, .transparent), (0xcc6, 0xcc6, .transparent),
  (0xccc, 0xccd, .transparent), (0xce2, 0xce3, .transparent), (0xd00, 0xd01, .transparent), (0xd3b, 0xd3c, .transparent), (0xd41, 0xd44, .transparent), (0xd4d, 0xd4d, .transparent),
  (0xd62, 0xd63, .transparent), (0xd81, 0xd81, .transparent), (0xdca, 0xdca, .transparent), (0xdd2, 0xdd6, .transparent), (0xe31, 0xe31, .transparent), (0xe34, 0xe3a, .transparent),
  (0xe47, 0xe4e, .transparent), (0xeb1, 0xeb1, .transparent), (0xeb4, 0xebc, .transparent), (0xec8, 0xece, .transparent), (0xf18, 0xf19, .transparent), (0xf35, 0xf39, .transparent),
  (0xf71, 0xf7e, .transparent), (0xf80, 0xf87, .transparent)]

/-- Runs of joining types, part 3 of 6. -/
def joiningTypesPart2 : List (Nat × Nat × Joining) := [
  (0xf8d, 0xfc6, .transparent), (0x102d, 0x1030, .transparent), (0x1032, 0x1037, .transparent), (0x1039, 0x103a, .transparent), (0x103d, 0x103e, .transparent), (0x1058, 0x1059, .transparent),
  (0x105e, 0x1060, .transparent), (0x1071, 0x1074, .transparent), (0x1082, 0x1082, .transparent), (0x1085, 0x1086, .transparent), (0x108d, 0x108d, .transparent), (0x109d, 0x109d, .transparent),
  (0x135d, 0x135f, .transparent), (0x1712, 0x1714, .transparent), (0x1732, 0x1733, .transparent), (0x1752, 0x1753, .transparent), (0x1772, 0x1773, .transparent), (0x17b7, 0x17bd, .transparent),
  (0x17c6, 0x17c6, .transparent), (0x17c9, 0x17d3, .transparent), (0x17dd, 0x17dd, .transparent), (0x1820, 0x1878, .dual), (0x1885, 0x1886, .transparent), (0x1887, 0x18a8, .dual),
  (0x18a9, 0x18a9, .transparent), (0x18aa, 0x18aa, .dual), (0x1920, 0x1922, .transparent), (0x1927, 0x1928, .transparent), (0x1932, 0x1932, .transparent), (0x1939, 0x193b, .transparent),
  (0x1a17, 0x1a18, .transparent), (0x1a1b, 0x1a1b, .transparent), (0x1a56, 0x1a56, .transparent), (0x1a58, 0x1a60, .transparent), (0x1a62, 0x1a62, .transparent), (0x1a65, 0x1a6c, .transparent),
  (0x1a73, 0x1a7f, .transparent), (0x1ab0, 0x1b03, .transparent), (0x1b34, 0x1b34, .transparent), (0x1b36, 0x1b3a, .transparent), (0x1b3c, 0x1b3c, .transparent), (0x1b42, 0x1b42, .transparent),
  (0x1b6b, 0x1b81, .transparent), (0x1ba2, 0x1ba5, .transparent), (0x1ba8, 0x1ba9, .transparent), (0x1bab, 0x1bad, .transparent), (0x1be6, 0x1be6, .transparent), (0x1be8, 0x1be9, .transparent),
  (0x1bed, 0x1bed, .transparent), (0x1bef, 0x1bf1, .transparent), (0x1c2c, 0x1c33, .transparent), (0x1c36, 0x1c37, .transparent), (0x1cd0, 0x1ce0, .transparent), (0x1ce2, 0x1ce8, .transparent),
  (0x1ced, 0x1ced, .transparent), (0x1cf4, 0x1cf4, .transparent), (0x1cf8, 0x1cf9, .transparent), (0x1dc0, 0x1dff, .transparent), (0x200d, 0x200d, .joinCausing), (0x2cef, 0x2cf1, .transparent),
  (0x2d7f, 0x2d7f, .transparent), (0x2de0, 0x2dff, .transparent), (0x302a, 0x302d, .transparent), (0x3099, 0x309a, .transparent), (0xa66f, 0xa67d, .transparent), (0xa69e, 0xa69f, .transparent),
  (0xa6f0, 0xa6f1, .transparent), (0xa802, 0xa802, .transparent), (0xa806, 0xa806, .transparent), (0xa80b, 0xa80b, .transparent), (0xa825, 0xa826, .transparent), (0xa82c, 0xa82c, .transparent),
  (0xa840, 0xa871, .dual), (0xa872, 0xa872, .left), (0xa8c4, 0xa8c5, .transparent), (0xa8e0, 0xa8f1, .transparent), (0xa8ff, 0xa8ff, .transparent), (0xa926, 0xa92d, .transparent),
  (0xa947, 0xa951, .transparent), (0xa980, 0xa982, .transparent)]

/-- Runs of joining types, part 4 of 6. -/
def joiningTypesPart3 : List (Nat × Nat × Joining) := [
  (0xa9b3, 0xa9b3, .transparent), (0xa9b6, 0xa9b9, .transparent), (0xa9bc, 0xa9bd, .transparent), (0xa9e5, 0xa9e5, .transparent), (0xaa29, 0xaa2e, .transparent), (0xaa31, 0xaa32, .transparent),
  (0xaa35, 0xaa36, .transparent), (0xaa43, 0xaa43, .transparent), (0xaa4c, 0xaa4c, .transparent), (0xaa7c, 0xaa7c, .transparent), (0xaab0, 0xaab0, .transparent), (0xaab2, 0xaab4, .transparent),
  (0xaab7, 0xaab8, .transparent), (0xaabe, 0xaabf, .transparent), (0xaac1, 0xaac1, .transparent), (0xaaec, 0xaaed, .transparent), (0xaaf6, 0xaaf6, .transparent), (0xabe5, 0xabe5, .transparent),
  (0xabe8, 0xabe8, .transparent), (0xabed, 0xabed, .transparent), (0xfb1e, 0xfe2f, .transparent), (0x101fd, 0x101fd, .transparent), (0x102e0, 0x102e0, .transparent), (0x10376, 0x1037a, .transparent),
  (0x10a01, 0x10a0f, .transparent), (0x10a38, 0x10a3f, .transparent), (0x10ac0, 0x10ac4, .dual), (0x10ac5, 0x10ac5, .right), (0x10ac7, 0x10aca, .right), (0x10acd, 0x10acd, .left),
  (0x10ace, 0x10ad2, .right), (0x10ad3, 0x10ad6, .dual), (0x10ad7, 0x10ad7, .left), (0x10ad8, 0x10adc, .dual), (0x10add, 0x10add, .right), (0x10ade, 0x10ae0, .dual),
  (0x10ae1, 0x10ae1, .right), (0x10ae4, 0x10ae4, .right), (0x10ae5, 0x10ae6, .transparent), (0x10b80, 0x10b80, .dual), (0x10b81, 0x10b81, .right), (0x10b82, 0x10b82, .dual),
  (0x10b83, 0x10b85, .right), (0x10b86, 0x10b88, .dual), (0x10b89, 0x10b89, .right), (0x10b8a, 0x10b8b, .dual), (0x10b8c, 0x10b8c, .right), (0x10b8d, 0x10b8d, .dual),
  (0x10b8e, 0x10b8f, .right), (0x10b90, 0x10b90, .dual), (0x10b91, 0x10b91, .right), (0x10d00, 0x10d00, .left), (0x10d01, 0x10d21, .dual), (0x10d22, 0x10d22, .right),
  (0x10d23, 0x10d23, .dual), (0x10d24, 0x10d27, .transparent), (0x10d69, 0x10d6d, .transparent), (0x10eab, 0x10eac, .transparent), (0x10ec2, 0x10ec2, .right), (0x10ec3, 0x10ec4, .dual),
  (0x10ec6, 0x10ec7, .dual), (0x10efa, 0x10eff, .transparent), (0x10f30, 0x10f32, .dual), (0x10f33, 0x10f33, .right), (0x10f34, 0x10f44, .dual), (0x10f46, 0x10f50, .transparent),
  (0x10f70, 0x10f73, .dual), (0x10f74, 0x10f75, .right), (0x10f76, 0x10f81, .dual), (0x10f82, 0x10f85, .transparent), (0x10fb0, 0x10fb0, .dual), (0x10fb2, 0x10fb3, .dual),
  (0x10fb4, 0x10fb6, .right), (0x10fb8, 0x10fb8, .dual), (0x10fb9, 0x10fba, .right), (0x10fbb, 0x10fbc, .dual), (0x10fbd, 0x10fbd, .right), (0x10fbe, 0x10fbf, .dual),
  (0x10fc1, 0x10fc1, .dual), (0x10fc2, 0x10fc3, .right)]

/-- Runs of joining types, part 5 of 6. -/
def joiningTypesPart4 : List (Nat × Nat × Joining) := [
  (0x10fc4, 0x10fc4, .dual), (0x11001, 0x11001, .transparent), (0x11038, 0x11046, .transparent), (0x11070, 0x11070, .transparent), (0x11073, 0x11074, .transparent), (0x1107f, 0x11081, .transparent),
  (0x110b3, 0x110b6, .transparent), (0x110b9, 0x110c2, .transparent), (0x11100, 0x11102, .transparent), (0x11127, 0x1112b, .transparent), (0x1112d, 0x11134, .transparent), (0x11173, 0x11173, .transparent),
  (0x11180, 0x11181, .transparent), (0x111b6, 0x111be, .transparent), (0x111c9, 0x111cc, .transparent), (0x111cf, 0x111cf, .transparent), (0x1122f, 0x11231, .transparent), (0x11234, 0x11234, .transparent),
  (0x11236, 0x1123e, .transparent), (0x11241, 0x11241, .transparent), (0x112df, 0x112df, .transparent), (0x112e3, 0x112ea, .transparent), (0x11300, 0x11301, .transparent), (0x1133b, 0x1133c, .transparent),
  (0x11340, 0x11340, .transparent), (0x11366, 0x11374, .transparent), (0x113bb, 0x113c0, .transparent), (0x113ce, 0x113ce, .transparent), (0x113d0, 0x113d0, .transparent), (0x113d2, 0x113d2, .transparent),
  (0x113e1, 0x113e2, .transparent), (0x11438, 0x1143f, .transparent), (0x11442, 0x11444, .transparent), (0x11446, 0x11446, .transparent), (0x1145e, 0x1145e, .transparent), (0x114b3, 0x114b8, .transparent),
  (0x114ba, 0x114ba, .transparent), (0x114bf, 0x114c0, .transparent), (0x114c2, 0x114c3, .transparent), (0x115b2, 0x115b5, .transparent), (0x115bc, 0x115bd, .transparent), (0x115bf, 0x115c0, .transparent),
  (0x115dc, 0x115dd, .transparent), (0x11633, 0x1163a, .transparent), (0x1163d, 0x1163d, .transparent), (0x1163f, 0x11640, .transparent), (0x116ab, 0x116ab, .transparent), (0x116ad, 0x116ad, .transparent),
  (0x116b0, 0x116b5, .transparent), (0x116b7, 0x116b7, .transparent), (0x1171d, 0x1171d, .transparent), (0x1171f, 0x1171f, .transparent), (0x11722, 0x11725, .transparent), (0x11727, 0x1172b, .transparent),
  (0x1182f, 0x11837, .transparent), (0x11839, 0x1183a, .transparent), (0x1193b, 0x1193c, .transparent), (0x1193e, 0x1193e, .transparent), (0x11943, 0x11943, .transparent), (0x119d4, 0x119db, .transparent),
  (0x119e0, 0x119e0, .transparent), (0x11a01, 0x11a0a, .transparent), (0x11a33, 0x11a38, .transparent), (0x11a3b, 0x11a47, .transparent), (0x11a51, 0x11a56, .transparent), (0x11a59, 0x11a5b, .transparent),
  (0x11a8a, 0x11a96, .transparent), (0x11a98, 0x11a99, .transparent), (0x11b60, 0x11b60, .transparent), (0x11b62, 0x11b64, .transparent), (0x11b66, 0x11b66, .transparent), (0x11c30, 0x11c3d, .transparent),
  (0x11c3f, 0x11c3f, .transparent), (0x11c92, 0x11ca7, .transparent), (0x11caa, 0x11cb0, .transparent), (0x11cb2, 0x11cb3, .transparent), (0x11cb5, 0x11cb6, .transparent), (0x11d31, 0x11d45, .transparent),
  (0x11d47, 0x11d47, .transparent), (0x11d90, 0x11d91, .transparent)]

/-- Runs of joining types, part 6 of 6. -/
def joiningTypesPart5 : List (Nat × Nat × Joining) := [
  (0x11d95, 0x11d95, .transparent), (0x11d97, 0x11d97, .transparent), (0x11ef3, 0x11ef4, .transparent), (0x11f00, 0x11f01, .transparent), (0x11f36, 0x11f3a, .transparent), (0x11f40, 0x11f40, .transparent),
  (0x11f42, 0x11f42, .transparent), (0x11f5a, 0x11f5a, .transparent), (0x13440, 0x13440, .transparent), (0x13447, 0x13455, .transparent), (0x1611e, 0x16129, .transparent), (0x1612d, 0x1612f, .transparent),
  (0x16af0, 0x16af4, .transparent), (0x16b30, 0x16b36, .transparent), (0x16f4f, 0x16f4f, .transparent), (0x16f8f, 0x16f92, .transparent), (0x16fe4, 0x16fe4, .transparent), (0x1bc9d, 0x1daaf, .transparent),
  (0x1e000, 0x1e08f, .transparent), (0x1e130, 0x1e136, .transparent), (0x1e2ae, 0x1e2ae, .transparent), (0x1e2ec, 0x1e2ef, .transparent), (0x1e4ec, 0x1e4ef, .transparent), (0x1e5ee, 0x1e5ef, .transparent),
  (0x1e6e3, 0x1e6e3, .transparent), (0x1e6e6, 0x1e6e6, .transparent), (0x1e6ee, 0x1e6ef, .transparent), (0x1e6f5, 0x1e6f5, .transparent), (0x1e8d0, 0x1e8d6, .transparent), (0x1e922, 0x1e943, .dual),
  (0x1e944, 0x1e94b, .transparent)]

/-- Runs of joining types. -/
def joiningTypes : List (Nat × Nat × Joining) :=
  joiningTypesPart0 ++
  joiningTypesPart1 ++
  joiningTypesPart2 ++
  joiningTypesPart3 ++
  joiningTypesPart4 ++
  joiningTypesPart5

/-- Runs of the Greek script. -/
def greek : List (Nat × Nat) := [
  (0x371, 0x3e1), (0x3f3, 0x3fc), (0x1d26, 0x1d2a), (0x1f00, 0x1ff6), (0xab65, 0xab65)]

/-- Runs of the Hebrew script. -/
def hebrew : List (Nat × Nat) := [
  (0x591, 0x5f4), (0xfb1e, 0xfb1e)]

/-- Runs of the Hiragana, Katakana and Han scripts. -/
def kanaOrHan : List (Nat × Nat) := [
  (0x3005, 0x3005), (0x3007, 0x3007), (0x3041, 0x3096), (0x309d, 0x30fa), (0x30fd, 0x30fe), (0x31f0, 0x9fff),
  (0xfa0e, 0xfa29), (0x16fe3, 0x16fe3), (0x16ff0, 0x16ff3), (0x1aff0, 0x1b167), (0x20000, 0x33479)]

end Idna

end LoadHarness
