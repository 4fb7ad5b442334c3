/-
# Folding of domain names

Domain names are compared without regard to the case of letters, to the width and style of
characters, and to marks that do not show.  Folding replaces each character by what it is
compared as, and drops those that do not count.  The replacements are those that Unicode 17
lists for domain names, apart from characters that only repeat others: these disappear when a
name is brought into composed form.
-/
import UpnpGateway.Text.Table

namespace UpnpGateway.Net.Domain

open UpnpGateway.Text

/-- The characters that are dropped. -/
def droppedRanges : Array (Nat × Nat) := #[
    (0xAD, 0xAD), (0x34F, 0x34F), (0x115F, 0x1160), (0x17B4, 0x17B5), (0x180B, 0x180F),
    (0x200B, 0x200B), (0x2060, 0x2064), (0x206A, 0x206F), (0x3164, 0x3164), (0xFE00, 0xFE0F),
    (0xFEFF, 0xFEFF), (0xFFA0, 0xFFA0), (0x1BCA0, 0x1BCA3), (0x1D173, 0x1D17A), (0xE0100, 0xE01EF)]

/-- Rows of characters that are replaced by one other: the first and the last character of a
row, the distance between its characters, and what the first one becomes.  The others become
the characters at the same distance from that; in a row of distance zero, all characters become
the same one. -/
def shiftRows : Array (Nat × Nat × Nat × Nat) := #[
    (0xB2, 0xB3, 1, 0x32), (0xC0, 0xD6, 1, 0xE0), (0xD8, 0xDE, 1, 0xF8), (0x100, 0x12E, 2, 0x101),
    (0x134, 0x136, 2, 0x135), (0x139, 0x13D, 2, 0x13A), (0x141, 0x147, 2, 0x142),
    (0x14A, 0x176, 2, 0x14B), (0x179, 0x17D, 2, 0x17A), (0x182, 0x184, 2, 0x183),
    (0x189, 0x18A, 1, 0x256), (0x1A0, 0x1A4, 2, 0x1A1), (0x1B1, 0x1B2, 1, 0x28A),
    (0x1B3, 0x1B5, 2, 0x1B4), (0x1CD, 0x1DB, 2, 0x1CE), (0x1DE, 0x1EE, 2, 0x1DF),
    (0x1F8, 0x21E, 2, 0x1F9), (0x222, 0x232, 2, 0x223), (0x246, 0x24E, 2, 0x247),
    (0x2B0, 0x2B2, 2, 0x68), (0x370, 0x372, 2, 0x371), (0x388, 0x38A, 1, 0x3AD),
    (0x38E, 0x38F, 1, 0x3CD), (0x391, 0x3A1, 1, 0x3B1), (0x3A3, 0x3AB, 1, 0x3C3),
    (0x3D8, 0x3EE, 2, 0x3D9), (0x3FD, 0x3FF, 1, 0x37B), (0x400, 0x40F, 1, 0x450),
    (0x410, 0x42F, 1, 0x430), (0x460, 0x480, 2, 0x461), (0x48A, 0x4BE, 2, 0x48B),
    (0x4C1, 0x4CD, 2, 0x4C2), (0x4D0, 0x52E, 2, 0x4D1), (0x531, 0x556, 1, 0x561),
    (0x10A0, 0x10C5, 1, 0x2D00), (0x13F8, 0x13FD, 1, 0x13F0), (0x1C83, 0x1C84, 1, 0x441),
    (0x1C90, 0x1CBA, 1, 0x10D0), (0x1CBD, 0x1CBF, 1, 0x10FD), (0x1D2E, 0x1D30, 2, 0x62),
    (0x1D31, 0x1D39, 2, 0x65), (0x1D34, 0x1D3A, 2, 0x68), (0x1D40, 0x1D41, 1, 0x74),
    (0x1D44, 0x1D45, 1, 0x250), (0x1D48, 0x1D49, 1, 0x64), (0x1D4B, 0x1D4C, 1, 0x25B),
    (0x1D50, 0x1D52, 2, 0x6D), (0x1D54, 0x1D55, 1, 0x1D16), (0x1D57, 0x1D58, 1, 0x74),
    (0x1D5D, 0x1D5F, 1, 0x3B2), (0x1D60, 0x1D61, 1, 0x3C6), (0x1D64, 0x1D65, 1, 0x75),
    (0x1D66, 0x1D67, 1, 0x3B2), (0x1D69, 0x1D6A, 1, 0x3C6), (0x1DA4, 0x1DA6, 1, 0x268),
    (0x1DAE, 0x1DB1, 1, 0x272), (0x1DB3, 0x1DB4, 1, 0x282), (0x1DB6, 0x1DB7, 1, 0x289),
    (0x1DB9, 0x1DBA, 1, 0x28B), (0x1DBC, 0x1DBE, 1, 0x290), (0x1E00, 0x1E94, 2, 0x1E01),
    (0x1EA0, 0x1EFE, 2, 0x1EA1), (0x1F08, 0x1F0F, 1, 0x1F00), (0x1F18, 0x1F1D, 1, 0x1F10),
    (0x1F28, 0x1F2F, 1, 0x1F20), (0x1F38, 0x1F3F, 1, 0x1F30), (0x1F48, 0x1F4D, 1, 0x1F40),
    (0x1F59, 0x1F5F, 2, 0x1F51), (0x1F68, 0x1F6F, 1, 0x1F60), (0x1FB8, 0x1FB9, 1, 0x1FB0),
    (0x1FC8, 0x1FCA, 2, 0x1F72), (0x1FD8, 0x1FD9, 1, 0x1FD0), (0x1FE8, 0x1FE9, 1, 0x1FE0),
    (0x1FF9, 0x1FFB, 2, 0x3CC), (0x2000, 0x200A, 0, 0x20), (0x2074, 0x2079, 1, 0x34),
    (0x207D, 0x207E, 1, 0x28), (0x2080, 0x2089, 1, 0x30), (0x208D, 0x208E, 1, 0x28),
    (0x2096, 0x2099, 1, 0x6B), (0x209B, 0x209C, 1, 0x73), (0x210A, 0x210B, 1, 0x67),
    (0x210C, 0x210E, 0, 0x68), (0x2110, 0x2111, 0, 0x69), (0x2112, 0x2113, 0, 0x6C),
    (0x2119, 0x211B, 1, 0x70), (0x211C, 0x211D, 0, 0x72), (0x212C, 0x212D, 1, 0x62),
    (0x212F, 0x2130, 0, 0x65), (0x2135, 0x2138, 1, 0x5D0), (0x213D, 0x213E, 0, 0x3B3),
    (0x2145, 0x2146, 0, 0x64), (0x2148, 0x2149, 1, 0x69), (0x216D, 0x216E, 1, 0x63),
    (0x217D, 0x217E, 1, 0x63), (0x2460, 0x2468, 1, 0x31), (0x24B6, 0x24CF, 1, 0x61),
    (0x24D0, 0x24E9, 1, 0x61), (0x2C00, 0x2C2F, 1, 0x2C30), (0x2C67, 0x2C6B, 2, 0x2C68),
    (0x2C7E, 0x2C7F, 1, 0x23F), (0x2C80, 0x2CE2, 2, 0x2C81), (0x2CEB, 0x2CED, 2, 0x2CEC),
    (0x3039, 0x303A, 1, 0x5344), (0x3131, 0x3132, 1, 0x1100), (0x3133, 0x3135, 2, 0x11AA),
    (0x3137, 0x3139, 1, 0x1103), (0x313A, 0x313F, 1, 0x11B0), (0x3141, 0x3143, 1, 0x1106),
    (0x3145, 0x314E, 1, 0x1109), (0x314F, 0x3163, 1, 0x1161), (0x3165, 0x3166, 1, 0x1114),
    (0x3167, 0x3168, 1, 0x11C7), (0x3171, 0x3172, 1, 0x111D), (0x3174, 0x3175, 1, 0x1122),
    (0x3178, 0x317C, 1, 0x112B), (0x3182, 0x3183, 1, 0x11F1), (0x3184, 0x3186, 1, 0x1157),
    (0x3187, 0x3188, 1, 0x1184), (0x318A, 0x318B, 1, 0x1191), (0x3261, 0x3262, 1, 0x1102),
    (0x3263, 0x3265, 1, 0x1105), (0x3267, 0x3268, 1, 0x110B), (0x3269, 0x326D, 1, 0x110E),
    (0x32D4, 0x32D5, 1, 0x30AA), (0x32E4, 0x32E9, 1, 0x30CA), (0x32EE, 0x32F2, 1, 0x30DE),
    (0x32F5, 0x32FA, 1, 0x30E8), (0x32FB, 0x32FE, 1, 0x30EF), (0xA640, 0xA66C, 2, 0xA641),
    (0xA680, 0xA69A, 2, 0xA681), (0xA722, 0xA72E, 2, 0xA723), (0xA732, 0xA76E, 2, 0xA733),
    (0xA779, 0xA77B, 2, 0xA77A), (0xA77E, 0xA786, 2, 0xA77F), (0xA790, 0xA792, 2, 0xA791),
    (0xA796, 0xA7A8, 2, 0xA797), (0xA7B4, 0xA7C2, 2, 0xA7B5), (0xA7C7, 0xA7C9, 2, 0xA7C8),
    (0xA7CC, 0xA7DA, 2, 0xA7CD), (0xAB70, 0xABBF, 1, 0x13A0), (0xFB22, 0xFB23, 1, 0x5D3),
    (0xFB24, 0xFB26, 1, 0x5DB), (0xFB50, 0xFB51, 0, 0x671), (0xFB52, 0xFB55, 0, 0x67B),
    (0xFB56, 0xFB59, 0, 0x67E), (0xFB5A, 0xFB5D, 0, 0x680), (0xFB5E, 0xFB61, 0, 0x67A),
    (0xFB62, 0xFB65, 0, 0x67F), (0xFB66, 0xFB69, 0, 0x679), (0xFB6A, 0xFB6D, 0, 0x6A4),
    (0xFB6E, 0xFB71, 0, 0x6A6), (0xFB72, 0xFB75, 0, 0x684), (0xFB76, 0xFB79, 0, 0x683),
    (0xFB7A, 0xFB7D, 0, 0x686), (0xFB7E, 0xFB81, 0, 0x687), (0xFB82, 0xFB83, 0, 0x68D),
    (0xFB84, 0xFB85, 0, 0x68C), (0xFB86, 0xFB87, 0, 0x68E), (0xFB88, 0xFB89, 0, 0x688),
    (0xFB8A, 0xFB8B, 0, 0x698), (0xFB8C, 0xFB8D, 0, 0x691), (0xFB8E, 0xFB91, 0, 0x6A9),
    (0xFB92, 0xFB95, 0, 0x6AF), (0xFB96, 0xFB99, 0, 0x6B3), (0xFB9A, 0xFB9D, 0, 0x6B1),
    (0xFB9E, 0xFB9F, 0, 0x6BA), (0xFBA0, 0xFBA3, 0, 0x6BB), (0xFBA4, 0xFBA5, 0, 0x6C0),
    (0xFBA6, 0xFBA9, 0, 0x6C1), (0xFBAA, 0xFBAD, 0, 0x6BE), (0xFBAE, 0xFBAF, 0, 0x6D2),
    (0xFBB0, 0xFBB1, 0, 0x6D3), (0xFBD3, 0xFBD6, 0, 0x6AD), (0xFBD7, 0xFBD8, 0, 0x6C7),
    (0xFBD9, 0xFBDA, 0, 0x6C6), (0xFBDB, 0xFBDC, 0, 0x6C8), (0xFBDE, 0xFBDF, 0, 0x6CB),
    (0xFBE0, 0xFBE1, 0, 0x6C5), (0xFBE2, 0xFBE3, 0, 0x6C9), (0xFBE4, 0xFBE7, 0, 0x6D0),
    (0xFBE8, 0xFBE9, 0, 0x649), (0xFBFC, 0xFBFF, 0, 0x6CC), (0xFE13, 0xFE14, 1, 0x3A),
    (0xFE17, 0xFE18, 1, 0x3016), (0xFE33, 0xFE34, 0, 0x5F), (0xFE35, 0xFE36, 1, 0x28),
    (0xFE39, 0xFE3A, 1, 0x3014), (0xFE3B, 0xFE3C, 1, 0x3010), (0xFE3D, 0xFE3E, 1, 0x300A),
    (0xFE3F, 0xFE40, 1, 0x3008), (0xFE41, 0xFE44, 1, 0x300C), (0xFE4D, 0xFE4F, 0, 0x5F),
    (0xFE59, 0xFE5A, 1, 0x28), (0xFE5D, 0xFE5E, 1, 0x3014), (0xFE61, 0xFE62, 1, 0x2A),
    (0xFE69, 0xFE6A, 1, 0x24), (0xFE80, 0xFE81, 1, 0x621), (0xFE82, 0xFE83, 1, 0x622),
    (0xFE84, 0xFE85, 1, 0x623), (0xFE86, 0xFE87, 1, 0x624), (0xFE88, 0xFE89, 1, 0x625),
    (0xFE8A, 0xFE8C, 0, 0x626), (0xFE8D, 0xFE8E, 0, 0x627), (0xFE8F, 0xFE92, 0, 0x628),
    (0xFE93, 0xFE94, 0, 0x629), (0xFE95, 0xFE98, 0, 0x62A), (0xFE99, 0xFE9C, 0, 0x62B),
    (0xFE9D, 0xFEA0, 0, 0x62C), (0xFEA1, 0xFEA4, 0, 0x62D), (0xFEA5, 0xFEA8, 0, 0x62E),
    (0xFEA9, 0xFEAA, 0, 0x62F), (0xFEAB, 0xFEAC, 0, 0x630), (0xFEAD, 0xFEAE, 0, 0x631),
    (0xFEAF, 0xFEB0, 0, 0x632), (0xFEB1, 0xFEB4, 0, 0x633), (0xFEB5, 0xFEB8, 0, 0x634),
    (0xFEB9, 0xFEBC, 0, 0x635), (0xFEBD, 0xFEC0, 0, 0x636), (0xFEC1, 0xFEC4, 0, 0x637),
    (0xFEC5, 0xFEC8, 0, 0x638), (0xFEC9, 0xFECC, 0, 0x639), (0xFECD, 0xFED0, 0, 0x63A),
    (0xFED1, 0xFED4, 0, 0x641), (0xFED5, 0xFED8, 0, 0x642), (0xFED9, 0xFEDC, 0, 0x643),
    (0xFEDD, 0xFEE0, 0, 0x644), (0xFEE1, 0xFEE4, 0, 0x645), (0xFEE5, 0xFEE8, 0, 0x646),
    (0xFEE9, 0xFEEC, 0, 0x647), (0xFEED, 0xFEEE, 0, 0x648), (0xFEEF, 0xFEF0, 0, 0x649),
    (0xFEF1, 0xFEF4, 0, 0x64A), (0xFF01, 0xFF20, 1, 0x21), (0xFF21, 0xFF3A, 1, 0x61),
    (0xFF3B, 0xFF5E, 1, 0x5B), (0xFF5F, 0xFF60, 1, 0x2985), (0xFF62, 0xFF63, 1, 0x300C),
    (0xFF75, 0xFF76, 1, 0x30AA), (0xFF85, 0xFF8A, 1, 0x30CA), (0xFF8F, 0xFF93, 1, 0x30DE),
    (0xFF96, 0xFF9B, 1, 0x30E8), (0xFF9E, 0xFF9F, 1, 0x3099), (0xFFA1, 0xFFA2, 1, 0x1100),
    (0xFFA3, 0xFFA5, 2, 0x11AA), (0xFFA7, 0xFFA9, 1, 0x1103), (0xFFAA, 0xFFAF, 1, 0x11B0),
    (0xFFB1, 0xFFB3, 1, 0x1106), (0xFFB5, 0xFFBE, 1, 0x1109), (0xFFC2, 0xFFC7, 1, 0x1161),
    (0xFFCA, 0xFFCF, 1, 0x1167), (0xFFD2, 0xFFD7, 1, 0x116D), (0xFFDA, 0xFFDC, 1, 0x1173),
    (0xFFE0, 0xFFE1, 1, 0xA2), (0xFFE9, 0xFFEC, 1, 0x2190), (0x10400, 0x10427, 1, 0x10428),
    (0x104B0, 0x104D3, 1, 0x104D8), (0x10570, 0x10594, 2, 0x10597),
    (0x10571, 0x10579, 2, 0x10598), (0x1057D, 0x10589, 2, 0x105A4),
    (0x1058D, 0x10591, 2, 0x105B4), (0x10781, 0x10782, 1, 0x2D0), (0x10787, 0x10789, 2, 0x2A3),
    (0x1078B, 0x1078C, 1, 0x256), (0x10799, 0x1079A, 1, 0x2AA), (0x107A3, 0x107A4, 1, 0x276),
    (0x107A8, 0x107A9, 1, 0x27D), (0x107B3, 0x107B4, 1, 0x2A1), (0x107B6, 0x107B8, 1, 0x1C0),
    (0x10C80, 0x10CB2, 1, 0x10CC0), (0x10D50, 0x10D65, 1, 0x10D70),
    (0x118A0, 0x118BF, 1, 0x118C0), (0x16E40, 0x16E5F, 1, 0x16E60),
    (0x16EA0, 0x16EB8, 1, 0x16EBB), (0x1CCD6, 0x1CCEF, 1, 0x61), (0x1CCF0, 0x1CCF9, 1, 0x30),
    (0x1D400, 0x1D419, 1, 0x61), (0x1D41A, 0x1D433, 1, 0x61), (0x1D434, 0x1D44D, 1, 0x61),
    (0x1D44E, 0x1D466, 2, 0x61), (0x1D44F, 0x1D453, 2, 0x62), (0x1D457, 0x1D467, 2, 0x6A),
    (0x1D468, 0x1D481, 1, 0x61), (0x1D482, 0x1D49B, 1, 0x61), (0x1D49C, 0x1D49E, 2, 0x61),
    (0x1D4A5, 0x1D4A6, 1, 0x6A), (0x1D4A9, 0x1D4AC, 1, 0x6E), (0x1D4AE, 0x1D4B5, 1, 0x73),
    (0x1D4B6, 0x1D4B9, 1, 0x61), (0x1D4BB, 0x1D4CF, 2, 0x66), (0x1D4BE, 0x1D4C2, 2, 0x69),
    (0x1D4C6, 0x1D4CE, 2, 0x71), (0x1D4D0, 0x1D4E9, 1, 0x61), (0x1D4EA, 0x1D503, 1, 0x61),
    (0x1D504, 0x1D505, 1, 0x61), (0x1D507, 0x1D50A, 1, 0x64), (0x1D50D, 0x1D514, 1, 0x6A),
    (0x1D516, 0x1D51C, 1, 0x73), (0x1D51E, 0x1D537, 1, 0x61), (0x1D538, 0x1D539, 1, 0x61),
    (0x1D53B, 0x1D53E, 1, 0x64), (0x1D540, 0x1D544, 1, 0x69), (0x1D54A, 0x1D550, 1, 0x73),
    (0x1D552, 0x1D56B, 1, 0x61), (0x1D56C, 0x1D585, 1, 0x61), (0x1D586, 0x1D59F, 1, 0x61),
    (0x1D5A0, 0x1D5B9, 1, 0x61), (0x1D5BA, 0x1D5D3, 1, 0x61), (0x1D5D4, 0x1D5ED, 1, 0x61),
    (0x1D5EE, 0x1D607, 1, 0x61), (0x1D608, 0x1D621, 1, 0x61), (0x1D622, 0x1D63B, 1, 0x61),
    (0x1D63C, 0x1D655, 1, 0x61), (0x1D656, 0x1D66F, 1, 0x61), (0x1D670, 0x1D689, 1, 0x61),
    (0x1D68A, 0x1D6A3, 1, 0x61), (0x1D6A8, 0x1D6B8, 1, 0x3B1), (0x1D6BA, 0x1D6C0, 1, 0x3C3),
    (0x1D6C2, 0x1D6D2, 1, 0x3B1), (0x1D6D3, 0x1D6D4, 0, 0x3C3), (0x1D6D5, 0x1D6DA, 1, 0x3C4),
    (0x1D6E2, 0x1D6F2, 1, 0x3B1), (0x1D6F4, 0x1D6FA, 1, 0x3C3), (0x1D6FC, 0x1D70C, 1, 0x3B1),
    (0x1D70D, 0x1D70E, 0, 0x3C3), (0x1D70F, 0x1D714, 1, 0x3C4), (0x1D71C, 0x1D72C, 1, 0x3B1),
    (0x1D72E, 0x1D734, 1, 0x3C3), (0x1D736, 0x1D746, 1, 0x3B1), (0x1D747, 0x1D748, 0, 0x3C3),
    (0x1D749, 0x1D74E, 1, 0x3C4), (0x1D756, 0x1D766, 1, 0x3B1), (0x1D768, 0x1D76E, 1, 0x3C3),
    (0x1D770, 0x1D780, 1, 0x3B1), (0x1D781, 0x1D782, 0, 0x3C3), (0x1D783, 0x1D788, 1, 0x3C4),
    (0x1D790, 0x1D7A0, 1, 0x3B1), (0x1D7A2, 0x1D7A8, 1, 0x3C3), (0x1D7AA, 0x1D7BA, 1, 0x3B1),
    (0x1D7BB, 0x1D7BC, 0, 0x3C3), (0x1D7BD, 0x1D7C2, 1, 0x3C4), (0x1D7CA, 0x1D7CB, 0, 0x3DD),
    (0x1D7CE, 0x1D7D7, 1, 0x30), (0x1D7D8, 0x1D7E1, 1, 0x30), (0x1D7E2, 0x1D7EB, 1, 0x30),
    (0x1D7EC, 0x1D7F5, 1, 0x30), (0x1D7F6, 0x1D7FF, 1, 0x30), (0x1E030, 0x1E038, 1, 0x430),
    (0x1E039, 0x1E03B, 1, 0x43A), (0x1E03C, 0x1E046, 1, 0x43E), (0x1E048, 0x1E049, 1, 0x44D),
    (0x1E051, 0x1E059, 1, 0x430), (0x1E05A, 0x1E05B, 1, 0x43A), (0x1E05C, 0x1E05D, 1, 0x43E),
    (0x1E05F, 0x1E064, 1, 0x443), (0x1E065, 0x1E066, 1, 0x44A), (0x1E900, 0x1E921, 1, 0x1E922),
    (0x1EE00, 0x1EE01, 1, 0x627), (0x1EE0A, 0x1EE0D, 1, 0x643), (0x1EE15, 0x1EE16, 1, 0x62A),
    (0x1EE2A, 0x1EE2D, 1, 0x643), (0x1EE35, 0x1EE36, 1, 0x62A), (0x1EE4B, 0x1EE4D, 2, 0x644),
    (0x1EE6A, 0x1EE6C, 2, 0x643), (0x1EE75, 0x1EE76, 1, 0x62A), (0x1EE80, 0x1EE81, 1, 0x627),
    (0x1EE84, 0x1EE85, 1, 0x647), (0x1EE8B, 0x1EE8D, 1, 0x644), (0x1EE95, 0x1EE96, 1, 0x62A),
    (0x1EEAB, 0x1EEAD, 1, 0x644), (0x1EEB5, 0x1EEB6, 1, 0x62A), (0x1F130, 0x1F149, 1, 0x61),
    (0x1FBF0, 0x1FBF9, 1, 0x30)]

/-- Blocks of characters that are replaced by one other: the first character, and what this and
the following ones become. -/
def letterBlocks : Array (Nat × List Nat) := #[
    (0xA0, [0x20]), (0xAA, [0x61]), (0xB5, [0x3BC]), (0xB9, [0x31, 0x6F]), (0x178, [0xFF]),
    (0x17F, [0x73]), (0x181, [0x253]), (0x186, [0x254, 0x188]), (0x18B, [0x18C]), (0x18E, [0x1DD,
      0x259, 0x25B, 0x192]), (0x193, [0x260, 0x263]), (0x196, [0x269, 0x268, 0x199]), (0x19C,
      [0x26F, 0x272]), (0x19F, [0x275]), (0x1A6, [0x280, 0x1A8]), (0x1A9, [0x283]), (0x1AC,
      [0x1AD]), (0x1AE, [0x288, 0x1B0]), (0x1B7, [0x292, 0x1B9]), (0x1BC, [0x1BD]), (0x1F4,
      [0x1F5]), (0x1F6, [0x195, 0x1BF]), (0x220, [0x19E]), (0x23A, [0x2C65, 0x23C]), (0x23D,
      [0x19A, 0x2C66]), (0x241, [0x242]), (0x243, [0x180, 0x289, 0x28C]), (0x2B1, [0x266]),
    (0x2B3, [0x72, 0x279, 0x27B, 0x281, 0x77, 0x79]), (0x2E0, [0x263, 0x6C, 0x73, 0x78, 0x295]),
    (0x345, [0x3B9]), (0x376, [0x377]), (0x37F, [0x3F3]), (0x386, [0x3AC]), (0x38C, [0x3CC]),
    (0x3CF, [0x3D7, 0x3B2, 0x3B8, 0x3C5, 0x3CD, 0x3CB, 0x3C6, 0x3C0]), (0x3F0, [0x3BA, 0x3C1,
      0x3C3]), (0x3F4, [0x3B8, 0x3B5]), (0x3F7, [0x3F8]), (0x3F9, [0x3C3, 0x3FB]), (0x4C0,
      [0x4CF]), (0xF0C, [0xF0B]), (0x10C7, [0x2D27]), (0x10CD, [0x2D2D]), (0x10FC, [0x10DC]),
    (0x1C80, [0x432, 0x434, 0x43E]), (0x1C85, [0x442, 0x44A, 0x463, 0xA64B, 0x1C8A]), (0x1D2C,
      [0x61, 0xE6]), (0x1D32, [0x1DD]), (0x1D3C, [0x6F, 0x223, 0x70, 0x72]), (0x1D42, [0x77,
      0x61]), (0x1D46, [0x1D02, 0x62]), (0x1D4A, [0x259]), (0x1D4D, [0x67]), (0x1D4F, [0x6B]),
    (0x1D51, [0x14B]), (0x1D53, [0x254]), (0x1D56, [0x70]), (0x1D59, [0x1D1D, 0x26F, 0x76,
      0x1D25]), (0x1D62, [0x69, 0x72]), (0x1D68, [0x3C1]), (0x1D78, [0x43D]), (0x1D9B, [0x252,
      0x63, 0x255, 0xF0, 0x25C, 0x66, 0x25F, 0x261, 0x265]), (0x1DA7, [0x1D7B, 0x29D, 0x26D,
      0x1D85, 0x29F, 0x271, 0x270]), (0x1DB2, [0x278]), (0x1DB5, [0x1AB]), (0x1DB8, [0x1D1C]),
    (0x1DBB, [0x7A]), (0x1DBF, [0x3B8]), (0x1E9B, [0x1E61]), (0x1E9E, [0xDF]), (0x1FBA, [0x1F70,
      0x3AC]), (0x1FC9, [0x3AD]), (0x1FCB, [0x3AE]), (0x1FDA, [0x1F76, 0x3AF]), (0x1FEA, [0x1F7A,
      0x3CD, 0x1FE5]), (0x1FF8, [0x1F78]), (0x1FFA, [0x1F7C]), (0x2011, [0x2010]), (0x202F,
      [0x20]), (0x205F, [0x20]), (0x2070, [0x30, 0x69]), (0x207A, [0x2B, 0x2212, 0x3D]), (0x207F,
      [0x6E]), (0x208A, [0x2B, 0x2212, 0x3D]), (0x2090, [0x61, 0x65, 0x6F, 0x78, 0x259, 0x68]),
    (0x209A, [0x70]), (0x2102, [0x63]), (0x2107, [0x25B]), (0x210F, [0x127]), (0x2115, [0x6E]),
    (0x2124, [0x7A]), (0x2126, [0x3C9]), (0x2128, [0x7A]), (0x212A, [0x6B, 0xE5]), (0x2131, [0x66,
      0x214E, 0x6D, 0x6F]), (0x2139, [0x69]), (0x213C, [0x3C0]), (0x213F, [0x3C0, 0x2211]),
    (0x2147, [0x65]), (0x2160, [0x69]), (0x2164, [0x76]), (0x2169, [0x78]), (0x216C, [0x6C]),
    (0x216F, [0x6D, 0x69]), (0x2174, [0x76]), (0x2179, [0x78]), (0x217C, [0x6C]), (0x217F,
      [0x6D]), (0x2183, [0x2184]), (0x24EA, [0x30]), (0x2C60, [0x2C61]), (0x2C62, [0x26B, 0x1D7D,
      0x27D]), (0x2C6D, [0x251, 0x271, 0x250, 0x252]), (0x2C72, [0x2C73]), (0x2C75, [0x2C76]),
    (0x2C7C, [0x6A, 0x76]), (0x2CF2, [0x2CF3]), (0x2D6F, [0x2D61]), (0x2E9F, [0x6BCD]), (0x2EF3,
      [0x9F9F]), (0x2F00, [0x4E00, 0x4E28, 0x4E36, 0x4E3F, 0x4E59, 0x4E85, 0x4E8C, 0x4EA0, 0x4EBA,
      0x513F, 0x5165, 0x516B, 0x5182, 0x5196, 0x51AB, 0x51E0, 0x51F5, 0x5200, 0x529B, 0x52F9,
      0x5315, 0x531A, 0x5338, 0x5341, 0x535C, 0x5369, 0x5382, 0x53B6, 0x53C8, 0x53E3, 0x56D7,
      0x571F, 0x58EB, 0x5902, 0x590A, 0x5915, 0x5927, 0x5973, 0x5B50, 0x5B80, 0x5BF8, 0x5C0F,
      0x5C22, 0x5C38, 0x5C6E, 0x5C71, 0x5DDB, 0x5DE5, 0x5DF1, 0x5DFE, 0x5E72, 0x5E7A, 0x5E7F,
      0x5EF4, 0x5EFE, 0x5F0B, 0x5F13, 0x5F50, 0x5F61, 0x5F73, 0x5FC3, 0x6208, 0x6236, 0x624B,
      0x652F, 0x6534, 0x6587, 0x6597, 0x65A4, 0x65B9, 0x65E0, 0x65E5, 0x66F0, 0x6708, 0x6728,
      0x6B20, 0x6B62, 0x6B79, 0x6BB3, 0x6BCB, 0x6BD4, 0x6BDB, 0x6C0F, 0x6C14, 0x6C34, 0x706B,
      0x722A, 0x7236, 0x723B, 0x723F, 0x7247, 0x7259, 0x725B, 0x72AC, 0x7384, 0x7389, 0x74DC,
      0x74E6, 0x7518, 0x751F, 0x7528, 0x7530, 0x758B, 0x7592, 0x7676, 0x767D, 0x76AE, 0x76BF,
      0x76EE, 0x77DB, 0x77E2, 0x77F3, 0x793A, 0x79B8, 0x79BE, 0x7A74, 0x7ACB, 0x7AF9, 0x7C73,
      0x7CF8, 0x7F36, 0x7F51, 0x7F8A, 0x7FBD, 0x8001, 0x800C, 0x8012, 0x8033, 0x807F, 0x8089,
      0x81E3, 0x81EA, 0x81F3, 0x81FC, 0x820C, 0x821B, 0x821F, 0x826E, 0x8272, 0x8278, 0x864D,
      0x866B, 0x8840, 0x884C, 0x8863, 0x897E, 0x898B, 0x89D2, 0x8A00, 0x8C37, 0x8C46, 0x8C55,
      0x8C78, 0x8C9D, 0x8D64, 0x8D70, 0x8DB3, 0x8EAB, 0x8ECA, 0x8F9B, 0x8FB0, 0x8FB5, 0x9091,
      0x9149, 0x91C6, 0x91CC, 0x91D1, 0x9577, 0x9580, 0x961C, 0x96B6, 0x96B9, 0x96E8, 0x9751,
      0x975E, 0x9762, 0x9769, 0x97CB, 0x97ED, 0x97F3, 0x9801, 0x98A8, 0x98DB, 0x98DF, 0x9996,
      0x9999, 0x99AC, 0x9AA8, 0x9AD8, 0x9ADF, 0x9B25, 0x9B2F, 0x9B32, 0x9B3C, 0x9B5A, 0x9CE5,
      0x9E75, 0x9E7F, 0x9EA5, 0x9EBB, 0x9EC3, 0x9ECD, 0x9ED1, 0x9EF9, 0x9EFD, 0x9F0E, 0x9F13,
      0x9F20, 0x9F3B, 0x9F4A, 0x9F52, 0x9F8D, 0x9F9C, 0x9FA0]), (0x3000, [0x20]), (0x3002,
      [0x2E]), (0x3036, [0x3012]), (0x3038, [0x5341]), (0x3134, [0x1102]), (0x3136, [0x11AD]),
    (0x3140, [0x111A]), (0x3144, [0x1121]), (0x3169, [0x11CC, 0x11CE, 0x11D3, 0x11D7, 0x11D9,
      0x111C, 0x11DD, 0x11DF]), (0x3173, [0x1120]), (0x3176, [0x1127, 0x1129]), (0x317D, [0x1132,
      0x1136, 0x1140, 0x1147, 0x114C]), (0x3189, [0x1188]), (0x318C, [0x1194, 0x119E, 0x11A1]),
    (0x3192, [0x4E00, 0x4E8C, 0x4E09, 0x56DB, 0x4E0A, 0x4E2D, 0x4E0B, 0x7532, 0x4E59, 0x4E19,
      0x4E01, 0x5929, 0x5730, 0x4EBA]), (0x3244, [0x554F, 0x5E7C, 0x6587, 0x7B8F]), (0x3260,
      [0x1100]), (0x3266, [0x1109]), (0x326E, [0xAC00, 0xB098, 0xB2E4, 0xB77C, 0xB9C8, 0xBC14,
      0xC0AC, 0xC544, 0xC790, 0xCC28, 0xCE74, 0xD0C0, 0xD30C, 0xD558]), (0x327E, [0xC6B0]),
    (0x3280, [0x4E00, 0x4E8C, 0x4E09, 0x56DB, 0x4E94, 0x516D, 0x4E03, 0x516B, 0x4E5D, 0x5341,
      0x6708, 0x706B, 0x6C34, 0x6728, 0x91D1, 0x571F, 0x65E5, 0x682A, 0x6709, 0x793E, 0x540D,
      0x7279, 0x8CA1, 0x795D, 0x52B4, 0x79D8, 0x7537, 0x5973, 0x9069, 0x512A, 0x5370, 0x6CE8,
      0x9805, 0x4F11, 0x5199, 0x6B63, 0x4E0A, 0x4E2D, 0x4E0B, 0x5DE6, 0x53F3, 0x533B, 0x5B97,
      0x5B66, 0x76E3, 0x4F01, 0x8CC7, 0x5354, 0x591C]), (0x32D0, [0x30A2, 0x30A4, 0x30A6,
      0x30A8]), (0x32D6, [0x30AD, 0x30AF, 0x30B1, 0x30B3, 0x30B5, 0x30B7, 0x30B9, 0x30BB, 0x30BD,
      0x30BF, 0x30C1, 0x30C4, 0x30C6, 0x30C8]), (0x32EA, [0x30D2, 0x30D5, 0x30D8, 0x30DB]),
    (0x32F3, [0x30E4, 0x30E6]), (0xA69C, [0x44A, 0x44C]), (0xA770, [0xA76F]), (0xA77D, [0x1D79]),
    (0xA78B, [0xA78C]), (0xA78D, [0x265]), (0xA7AA, [0x266, 0x25C, 0x261, 0x26C, 0x26A]), (0xA7B0,
      [0x29E, 0x287, 0x29D, 0xAB53]), (0xA7C4, [0xA794, 0x282, 0x1D8E]), (0xA7CB, [0x264]),
    (0xA7DC, [0x19B]), (0xA7F1, [0x73, 0x63, 0x66, 0x71, 0xA7F6]), (0xA7F8, [0x127, 0x153]),
    (0xAB5C, [0xA727, 0xAB37, 0x26B, 0xAB52]), (0xAB69, [0x28D]), (0xFB20, [0x5E2, 0x5D0]),
    (0xFB27, [0x5E8, 0x5EA, 0x2B]), (0xFE10, [0x2C, 0x3001]), (0xFE15, [0x21, 0x3F]), (0xFE31,
      [0x2014, 0x2013]), (0xFE37, [0x7B, 0x7D]), (0xFE47, [0x5B, 0x5D]), (0xFE50, [0x2C, 0x3001]),
    (0xFE54, [0x3B, 0x3A, 0x3F, 0x21, 0x2014]), (0xFE5B, [0x7B, 0x7D]), (0xFE5F, [0x23, 0x26]),
    (0xFE63, [0x2D, 0x3C, 0x3E, 0x3D]), (0xFE68, [0x5C]), (0xFE6B, [0x40]), (0xFF61, [0x2E]),
    (0xFF64, [0x3001, 0x30FB, 0x30F2, 0x30A1, 0x30A3, 0x30A5, 0x30A7, 0x30A9, 0x30E3, 0x30E5,
      0x30E7, 0x30C3, 0x30FC, 0x30A2, 0x30A4, 0x30A6, 0x30A8]), (0xFF77, [0x30AD, 0x30AF, 0x30B1,
      0x30B3, 0x30B5, 0x30B7, 0x30B9, 0x30BB, 0x30BD, 0x30BF, 0x30C1, 0x30C4, 0x30C6, 0x30C8]),
    (0xFF8B, [0x30D2, 0x30D5, 0x30D8, 0x30DB]), (0xFF94, [0x30E4, 0x30E6]), (0xFF9C, [0x30EF,
      0x30F3]), (0xFFA4, [0x1102]), (0xFFA6, [0x11AD]), (0xFFB0, [0x111A]), (0xFFB4, [0x1121]),
    (0xFFE2, [0xAC]), (0xFFE4, [0xA6, 0xA5, 0x20A9]), (0xFFE8, [0x2502]), (0xFFED, [0x25A0,
      0x25CB]), (0x10595, [0x105BC]), (0x10783, [0xE6, 0x299, 0x253]), (0x10788, [0xAB66]),
    (0x1078A, [0x2A4]), (0x1078D, [0x1D91, 0x258, 0x25E, 0x2A9, 0x264, 0x262, 0x260, 0x29B, 0x127,
      0x29C, 0x267, 0x284]), (0x1079B, [0x26C, 0x1DF04, 0xA78E, 0x26E, 0x1DF05, 0x28E, 0x1DF06,
      0xF8]), (0x107A5, [0x71, 0x27A, 0x1DF08]), (0x107AA, [0x280, 0x2A8, 0x2A6, 0xAB67, 0x2A7,
      0x288, 0x2C71]), (0x107B2, [0x28F]), (0x107B5, [0x298]), (0x107B9, [0x1DF0A, 0x1DF1E]),
    (0x1D49F, [0x64]), (0x1D4A2, [0x67]), (0x1D546, [0x6F]), (0x1D6A4, [0x131, 0x237]), (0x1D6B9,
      [0x3B8]), (0x1D6C1, [0x2207]), (0x1D6DB, [0x2202, 0x3B5, 0x3B8, 0x3BA, 0x3C6, 0x3C1,
      0x3C0]), (0x1D6F3, [0x3B8]), (0x1D6FB, [0x2207]), (0x1D715, [0x2202, 0x3B5, 0x3B8, 0x3BA,
      0x3C6, 0x3C1, 0x3C0]), (0x1D72D, [0x3B8]), (0x1D735, [0x2207]), (0x1D74F, [0x2202, 0x3B5,
      0x3B8, 0x3BA, 0x3C6, 0x3C1, 0x3C0]), (0x1D767, [0x3B8]), (0x1D76F, [0x2207]), (0x1D789,
      [0x2202, 0x3B5, 0x3B8, 0x3BA, 0x3C6, 0x3C1, 0x3C0]), (0x1D7A1, [0x3B8]), (0x1D7A9,
      [0x2207]), (0x1D7C3, [0x2202, 0x3B5, 0x3B8, 0x3BA, 0x3C6, 0x3C1, 0x3C0]), (0x1E047,
      [0x44B]), (0x1E04A, [0xA689, 0x4D9, 0x456, 0x458, 0x4E9, 0x4AF, 0x4CF]), (0x1E05E, [0x441]),
    (0x1E067, [0x491, 0x456, 0x455, 0x45F, 0x4AB, 0xA651, 0x4B1]), (0x1EE02, [0x62C, 0x62F]),
    (0x1EE05, [0x648, 0x632, 0x62D, 0x637, 0x64A]), (0x1EE0E, [0x633, 0x639, 0x641, 0x635, 0x642,
      0x631, 0x634]), (0x1EE17, [0x62E, 0x630, 0x636, 0x638, 0x63A, 0x66E, 0x6BA, 0x6A1, 0x66F]),
    (0x1EE21, [0x628, 0x62C]), (0x1EE24, [0x647]), (0x1EE27, [0x62D]), (0x1EE29, [0x64A]),
    (0x1EE2E, [0x633, 0x639, 0x641, 0x635, 0x642]), (0x1EE34, [0x634]), (0x1EE37, [0x62E]),
    (0x1EE39, [0x636]), (0x1EE3B, [0x63A]), (0x1EE42, [0x62C]), (0x1EE47, [0x62D]), (0x1EE49,
      [0x64A]), (0x1EE4E, [0x633, 0x639]), (0x1EE51, [0x635, 0x642]), (0x1EE54, [0x634]),
    (0x1EE57, [0x62E]), (0x1EE59, [0x636]), (0x1EE5B, [0x63A]), (0x1EE5D, [0x6BA]), (0x1EE5F,
      [0x66F]), (0x1EE61, [0x628, 0x62C]), (0x1EE64, [0x647]), (0x1EE67, [0x62D, 0x637, 0x64A]),
    (0x1EE6D, [0x646, 0x633, 0x639, 0x641, 0x635, 0x642]), (0x1EE74, [0x634]), (0x1EE77, [0x62E]),
    (0x1EE79, [0x636, 0x638, 0x63A, 0x66E]), (0x1EE7E, [0x6A1]), (0x1EE82, [0x62C, 0x62F]),
    (0x1EE86, [0x632, 0x62D, 0x637, 0x64A]), (0x1EE8E, [0x633, 0x639, 0x641, 0x635, 0x642, 0x631,
      0x634]), (0x1EE97, [0x62E, 0x630, 0x636, 0x638, 0x63A]), (0x1EEA1, [0x628, 0x62C, 0x62F]),
    (0x1EEA5, [0x648, 0x632, 0x62D, 0x637, 0x64A]), (0x1EEAE, [0x633, 0x639, 0x641, 0x635, 0x642,
      0x631, 0x634]), (0x1EEB7, [0x62E, 0x630, 0x636, 0x638, 0x63A]), (0x1F12B, [0x63, 0x72]),
    (0x1F202, [0x30B5]), (0x1F210, [0x624B, 0x5B57, 0x53CC, 0x30C7, 0x4E8C, 0x591A, 0x89E3,
      0x5929, 0x4EA4, 0x6620, 0x7121, 0x6599, 0x524D, 0x5F8C, 0x518D, 0x65B0, 0x521D, 0x7D42,
      0x751F, 0x8CA9, 0x58F0, 0x5439, 0x6F14, 0x6295, 0x6355, 0x4E00, 0x4E09, 0x904A, 0x5DE6,
      0x4E2D, 0x53F3, 0x6307, 0x8D70, 0x6253, 0x7981, 0x7A7A, 0x5408, 0x6E80, 0x6709, 0x6708,
      0x7533, 0x5272, 0x55B6, 0x914D]), (0x1F250, [0x5F97, 0x53EF])]

/-- Blocks of characters that are replaced by several others. -/
def spelledBlocks : Array (Nat × List (List Nat)) := #[
    (0xA8, [[0x20, 0x308]]), (0xAF, [[0x20, 0x304]]), (0xB4, [[0x20, 0x301]]), (0xB8, [[0x20,
      0x327]]), (0xBC, [[0x31, 0x2044, 0x34], [0x31, 0x2044, 0x32], [0x33, 0x2044, 0x34]]),
    (0x130, [[0x69, 0x307]]), (0x132, [[0x69, 0x6A], [0x69, 0x6A]]), (0x13F, [[0x6C, 0xB7], [0x6C,
      0xB7]]), (0x149, [[0x2BC, 0x6E]]), (0x1C4, [[0x64, 0x17E], [0x64, 0x17E], [0x64, 0x17E],
      [0x6C, 0x6A], [0x6C, 0x6A], [0x6C, 0x6A], [0x6E, 0x6A], [0x6E, 0x6A], [0x6E, 0x6A]]),
    (0x1F1, [[0x64, 0x7A], [0x64, 0x7A], [0x64, 0x7A]]), (0x2D8, [[0x20, 0x306], [0x20, 0x307],
      [0x20, 0x30A], [0x20, 0x328], [0x20, 0x303], [0x20, 0x30B]]), (0x37A, [[0x20, 0x3B9]]),
    (0x384, [[0x20, 0x301], [0x20, 0x308, 0x301]]), (0x587, [[0x565, 0x582]]), (0x675, [[0x627,
      0x674], [0x648, 0x674], [0x6C7, 0x674], [0x64A, 0x674]]), (0xE33, [[0xE4D, 0xE32]]), (0xEB3,
      [[0xECD, 0xEB2]]), (0xEDC, [[0xEAB, 0xE99], [0xEAB, 0xEA1]]), (0xF77, [[0xFB2, 0xF71,
      0xF80]]), (0xF79, [[0xFB3, 0xF71, 0xF80]]), (0x1E9A, [[0x61, 0x2BE]]), (0x1F80, [[0x1F00,
      0x3B9], [0x1F01, 0x3B9], [0x1F02, 0x3B9], [0x1F03, 0x3B9], [0x1F04, 0x3B9], [0x1F05, 0x3B9],
      [0x1F06, 0x3B9], [0x1F07, 0x3B9], [0x1F00, 0x3B9], [0x1F01, 0x3B9], [0x1F02, 0x3B9],
      [0x1F03, 0x3B9], [0x1F04, 0x3B9], [0x1F05, 0x3B9], [0x1F06, 0x3B9], [0x1F07, 0x3B9],
      [0x1F20, 0x3B9], [0x1F21, 0x3B9], [0x1F22, 0x3B9], [0x1F23, 0x3B9], [0x1F24, 0x3B9],
      [0x1F25, 0x3B9], [0x1F26, 0x3B9], [0x1F27, 0x3B9], [0x1F20, 0x3B9], [0x1F21, 0x3B9],
      [0x1F22, 0x3B9], [0x1F23, 0x3B9], [0x1F24, 0x3B9], [0x1F25, 0x3B9], [0x1F26, 0x3B9],
      [0x1F27, 0x3B9], [0x1F60, 0x3B9], [0x1F61, 0x3B9], [0x1F62, 0x3B9], [0x1F63, 0x3B9],
      [0x1F64, 0x3B9], [0x1F65, 0x3B9], [0x1F66, 0x3B9], [0x1F67, 0x3B9], [0x1F60, 0x3B9],
      [0x1F61, 0x3B9], [0x1F62, 0x3B9], [0x1F63, 0x3B9], [0x1F64, 0x3B9], [0x1F65, 0x3B9],
      [0x1F66, 0x3B9], [0x1F67, 0x3B9]]), (0x1FB2, [[0x1F70, 0x3B9], [0x3B1, 0x3B9], [0x3AC,
      0x3B9]]), (0x1FB7, [[0x1FB6, 0x3B9]]), (0x1FBC, [[0x3B1, 0x3B9], [0x20, 0x313]]), (0x1FBF,
      [[0x20, 0x313], [0x20, 0x342], [0x20, 0x308, 0x342], [0x1F74, 0x3B9], [0x3B7, 0x3B9],
      [0x3AE, 0x3B9]]), (0x1FC7, [[0x1FC6, 0x3B9]]), (0x1FCC, [[0x3B7, 0x3B9], [0x20, 0x313,
      0x300], [0x20, 0x313, 0x301], [0x20, 0x313, 0x342]]), (0x1FDD, [[0x20, 0x314, 0x300], [0x20,
      0x314, 0x301], [0x20, 0x314, 0x342]]), (0x1FED, [[0x20, 0x308, 0x300], [0x20, 0x308,
      0x301]]), (0x1FF2, [[0x1F7C, 0x3B9], [0x3C9, 0x3B9], [0x3CE, 0x3B9]]), (0x1FF7, [[0x1FF6,
      0x3B9]]), (0x1FFC, [[0x3C9, 0x3B9], [0x20, 0x301], [0x20, 0x314]]), (0x2017, [[0x20,
      0x333]]), (0x2033, [[0x2032, 0x2032], [0x2032, 0x2032, 0x2032]]), (0x2036, [[0x2035,
      0x2035], [0x2035, 0x2035, 0x2035]]), (0x203C, [[0x21, 0x21]]), (0x203E, [[0x20, 0x305]]),
    (0x2047, [[0x3F, 0x3F], [0x3F, 0x21], [0x21, 0x3F]]), (0x2057, [[0x2032, 0x2032, 0x2032,
      0x2032]]), (0x20A8, [[0x72, 0x73]]), (0x2100, [[0x61, 0x2F, 0x63], [0x61, 0x2F, 0x73]]),
    (0x2103, [[0xB0, 0x63]]), (0x2105, [[0x63, 0x2F, 0x6F], [0x63, 0x2F, 0x75]]), (0x2109, [[0xB0,
      0x66]]), (0x2116, [[0x6E, 0x6F]]), (0x2120, [[0x73, 0x6D], [0x74, 0x65, 0x6C], [0x74,
      0x6D]]), (0x213B, [[0x66, 0x61, 0x78]]), (0x2150, [[0x31, 0x2044, 0x37], [0x31, 0x2044,
      0x39], [0x31, 0x2044, 0x31, 0x30], [0x31, 0x2044, 0x33], [0x32, 0x2044, 0x33], [0x31,
      0x2044, 0x35], [0x32, 0x2044, 0x35], [0x33, 0x2044, 0x35], [0x34, 0x2044, 0x35], [0x31,
      0x2044, 0x36], [0x35, 0x2044, 0x36], [0x31, 0x2044, 0x38], [0x33, 0x2044, 0x38], [0x35,
      0x2044, 0x38], [0x37, 0x2044, 0x38], [0x31, 0x2044]]), (0x2161, [[0x69, 0x69], [0x69, 0x69,
      0x69], [0x69, 0x76]]), (0x2165, [[0x76, 0x69], [0x76, 0x69, 0x69], [0x76, 0x69, 0x69, 0x69],
      [0x69, 0x78]]), (0x216A, [[0x78, 0x69], [0x78, 0x69, 0x69]]), (0x2171, [[0x69, 0x69], [0x69,
      0x69, 0x69], [0x69, 0x76]]), (0x2175, [[0x76, 0x69], [0x76, 0x69, 0x69], [0x76, 0x69, 0x69,
      0x69], [0x69, 0x78]]), (0x217A, [[0x78, 0x69], [0x78, 0x69, 0x69]]), (0x2189, [[0x30,
      0x2044, 0x33]]), (0x222C, [[0x222B, 0x222B], [0x222B, 0x222B, 0x222B]]), (0x222F, [[0x222E,
      0x222E], [0x222E, 0x222E, 0x222E]]), (0x2469, [[0x31, 0x30], [0x31, 0x31], [0x31, 0x32],
      [0x31, 0x33], [0x31, 0x34], [0x31, 0x35], [0x31, 0x36], [0x31, 0x37], [0x31, 0x38], [0x31,
      0x39], [0x32, 0x30], [0x28, 0x31, 0x29], [0x28, 0x32, 0x29], [0x28, 0x33, 0x29], [0x28,
      0x34, 0x29], [0x28, 0x35, 0x29], [0x28, 0x36, 0x29], [0x28, 0x37, 0x29], [0x28, 0x38, 0x29],
      [0x28, 0x39, 0x29], [0x28, 0x31, 0x30, 0x29], [0x28, 0x31, 0x31, 0x29], [0x28, 0x31, 0x32,
      0x29], [0x28, 0x31, 0x33, 0x29], [0x28, 0x31, 0x34, 0x29], [0x28, 0x31, 0x35, 0x29], [0x28,
      0x31, 0x36, 0x29], [0x28, 0x31, 0x37, 0x29], [0x28, 0x31, 0x38, 0x29], [0x28, 0x31, 0x39,
      0x29], [0x28, 0x32, 0x30, 0x29]]), (0x249C, [[0x28, 0x61, 0x29], [0x28, 0x62, 0x29], [0x28,
      0x63, 0x29], [0x28, 0x64, 0x29], [0x28, 0x65, 0x29], [0x28, 0x66, 0x29], [0x28, 0x67, 0x29],
      [0x28, 0x68, 0x29], [0x28, 0x69, 0x29], [0x28, 0x6A, 0x29], [0x28, 0x6B, 0x29], [0x28, 0x6C,
      0x29], [0x28, 0x6D, 0x29], [0x28, 0x6E, 0x29], [0x28, 0x6F, 0x29], [0x28, 0x70, 0x29],
      [0x28, 0x71, 0x29], [0x28, 0x72, 0x29], [0x28, 0x73, 0x29], [0x28, 0x74, 0x29], [0x28, 0x75,
      0x29], [0x28, 0x76, 0x29], [0x28, 0x77, 0x29], [0x28, 0x78, 0x29], [0x28, 0x79, 0x29],
      [0x28, 0x7A, 0x29]]), (0x2A0C, [[0x222B, 0x222B, 0x222B, 0x222B]]), (0x2A74, [[0x3A, 0x3A,
      0x3D], [0x3D, 0x3D], [0x3D, 0x3D, 0x3D]]), (0x309B, [[0x20, 0x3099], [0x20, 0x309A]]),
    (0x309F, [[0x3088, 0x308A]]), (0x30FF, [[0x30B3, 0x30C8]]), (0x3200, [[0x28, 0x1100, 0x29],
      [0x28, 0x1102, 0x29], [0x28, 0x1103, 0x29], [0x28, 0x1105, 0x29], [0x28, 0x1106, 0x29],
      [0x28, 0x1107, 0x29], [0x28, 0x1109, 0x29], [0x28, 0x110B, 0x29], [0x28, 0x110C, 0x29],
      [0x28, 0x110E, 0x29], [0x28, 0x110F, 0x29], [0x28, 0x1110, 0x29], [0x28, 0x1111, 0x29],
      [0x28, 0x1112, 0x29], [0x28, 0xAC00, 0x29], [0x28, 0xB098, 0x29], [0x28, 0xB2E4, 0x29],
      [0x28, 0xB77C, 0x29], [0x28, 0xB9C8, 0x29], [0x28, 0xBC14, 0x29], [0x28, 0xC0AC, 0x29],
      [0x28, 0xC544, 0x29], [0x28, 0xC790, 0x29], [0x28, 0xCC28, 0x29], [0x28, 0xCE74, 0x29],
      [0x28, 0xD0C0, 0x29], [0x28, 0xD30C, 0x29], [0x28, 0xD558, 0x29], [0x28, 0xC8FC, 0x29],
      [0x28, 0xC624, 0xC804, 0x29], [0x28, 0xC624, 0xD6C4, 0x29]]), (0x3220, [[0x28, 0x4E00,
      0x29], [0x28, 0x4E8C, 0x29], [0x28, 0x4E09, 0x29], [0x28, 0x56DB, 0x29], [0x28, 0x4E94,
      0x29], [0x28, 0x516D, 0x29], [0x28, 0x4E03, 0x29], [0x28, 0x516B, 0x29], [0x28, 0x4E5D,
      0x29], [0x28, 0x5341, 0x29], [0x28, 0x6708, 0x29], [0x28, 0x706B, 0x29], [0x28, 0x6C34,
      0x29], [0x28, 0x6728, 0x29], [0x28, 0x91D1, 0x29], [0x28, 0x571F, 0x29], [0x28, 0x65E5,
      0x29], [0x28, 0x682A, 0x29], [0x28, 0x6709, 0x29], [0x28, 0x793E, 0x29], [0x28, 0x540D,
      0x29], [0x28, 0x7279, 0x29], [0x28, 0x8CA1, 0x29], [0x28, 0x795D, 0x29], [0x28, 0x52B4,
      0x29], [0x28, 0x4EE3, 0x29], [0x28, 0x547C, 0x29], [0x28, 0x5B66, 0x29], [0x28, 0x76E3,
      0x29], [0x28, 0x4F01, 0x29], [0x28, 0x8CC7, 0x29], [0x28, 0x5354, 0x29], [0x28, 0x796D,
      0x29], [0x28, 0x4F11, 0x29], [0x28, 0x81EA, 0x29], [0x28, 0x81F3, 0x29]]), (0x3250, [[0x70,
      0x74, 0x65], [0x32, 0x31], [0x32, 0x32], [0x32, 0x33], [0x32, 0x34], [0x32, 0x35], [0x32,
      0x36], [0x32, 0x37], [0x32, 0x38], [0x32, 0x39], [0x33, 0x30], [0x33, 0x31], [0x33, 0x32],
      [0x33, 0x33], [0x33, 0x34], [0x33, 0x35]]), (0x327C, [[0xCC38, 0xACE0], [0xC8FC, 0xC758]]),
    (0x32B1, [[0x33, 0x36], [0x33, 0x37], [0x33, 0x38], [0x33, 0x39], [0x34, 0x30], [0x34, 0x31],
      [0x34, 0x32], [0x34, 0x33], [0x34, 0x34], [0x34, 0x35], [0x34, 0x36], [0x34, 0x37], [0x34,
      0x38], [0x34, 0x39], [0x35, 0x30], [0x31, 0x6708], [0x32, 0x6708], [0x33, 0x6708], [0x34,
      0x6708], [0x35, 0x6708], [0x36, 0x6708], [0x37, 0x6708], [0x38, 0x6708], [0x39, 0x6708],
      [0x31, 0x30, 0x6708], [0x31, 0x31, 0x6708], [0x31, 0x32, 0x6708], [0x68, 0x67], [0x65, 0x72,
      0x67], [0x65, 0x76], [0x6C, 0x74, 0x64]]), (0x32FF, [[0x4EE4, 0x548C], [0x30A2, 0x30D1,
      0x30FC, 0x30C8], [0x30A2, 0x30EB, 0x30D5, 0x30A1], [0x30A2, 0x30F3, 0x30DA, 0x30A2],
      [0x30A2, 0x30FC, 0x30EB], [0x30A4, 0x30CB, 0x30F3, 0x30B0], [0x30A4, 0x30F3, 0x30C1],
      [0x30A6, 0x30A9, 0x30F3], [0x30A8, 0x30B9, 0x30AF, 0x30FC, 0x30C9], [0x30A8, 0x30FC, 0x30AB,
      0x30FC], [0x30AA, 0x30F3, 0x30B9], [0x30AA, 0x30FC, 0x30E0], [0x30AB, 0x30A4, 0x30EA],
      [0x30AB, 0x30E9, 0x30C3, 0x30C8], [0x30AB, 0x30ED, 0x30EA, 0x30FC], [0x30AC, 0x30ED,
      0x30F3], [0x30AC, 0x30F3, 0x30DE], [0x30AE, 0x30AC], [0x30AE, 0x30CB, 0x30FC], [0x30AD,
      0x30E5, 0x30EA, 0x30FC], [0x30AE, 0x30EB, 0x30C0, 0x30FC], [0x30AD, 0x30ED], [0x30AD,
      0x30ED, 0x30B0, 0x30E9, 0x30E0], [0x30AD, 0x30ED, 0x30E1, 0x30FC, 0x30C8, 0x30EB], [0x30AD,
      0x30ED, 0x30EF, 0x30C3, 0x30C8], [0x30B0, 0x30E9, 0x30E0], [0x30B0, 0x30E9, 0x30E0, 0x30C8,
      0x30F3], [0x30AF, 0x30EB, 0x30BC, 0x30A4, 0x30ED], [0x30AF, 0x30ED, 0x30FC, 0x30CD],
      [0x30B1, 0x30FC, 0x30B9], [0x30B3, 0x30EB, 0x30CA], [0x30B3, 0x30FC, 0x30DD], [0x30B5,
      0x30A4, 0x30AF, 0x30EB], [0x30B5, 0x30F3, 0x30C1, 0x30FC, 0x30E0], [0x30B7, 0x30EA, 0x30F3,
      0x30B0], [0x30BB, 0x30F3, 0x30C1], [0x30BB, 0x30F3, 0x30C8], [0x30C0, 0x30FC, 0x30B9],
      [0x30C7, 0x30B7], [0x30C9, 0x30EB], [0x30C8, 0x30F3], [0x30CA, 0x30CE], [0x30CE, 0x30C3,
      0x30C8], [0x30CF, 0x30A4, 0x30C4], [0x30D1, 0x30FC, 0x30BB, 0x30F3, 0x30C8], [0x30D1,
      0x30FC, 0x30C4], [0x30D0, 0x30FC, 0x30EC, 0x30EB], [0x30D4, 0x30A2, 0x30B9, 0x30C8, 0x30EB],
      [0x30D4, 0x30AF, 0x30EB], [0x30D4, 0x30B3], [0x30D3, 0x30EB], [0x30D5, 0x30A1, 0x30E9,
      0x30C3, 0x30C9], [0x30D5, 0x30A3, 0x30FC, 0x30C8], [0x30D6, 0x30C3, 0x30B7, 0x30A7, 0x30EB],
      [0x30D5, 0x30E9, 0x30F3], [0x30D8, 0x30AF, 0x30BF, 0x30FC, 0x30EB], [0x30DA, 0x30BD],
      [0x30DA, 0x30CB, 0x30D2], [0x30D8, 0x30EB, 0x30C4], [0x30DA, 0x30F3, 0x30B9], [0x30DA,
      0x30FC, 0x30B8], [0x30D9, 0x30FC, 0x30BF], [0x30DD, 0x30A4, 0x30F3, 0x30C8], [0x30DC,
      0x30EB, 0x30C8], [0x30DB, 0x30F3], [0x30DD, 0x30F3, 0x30C9], [0x30DB, 0x30FC, 0x30EB],
      [0x30DB, 0x30FC, 0x30F3], [0x30DE, 0x30A4, 0x30AF, 0x30ED], [0x30DE, 0x30A4, 0x30EB],
      [0x30DE, 0x30C3, 0x30CF], [0x30DE, 0x30EB, 0x30AF], [0x30DE, 0x30F3, 0x30B7, 0x30E7,
      0x30F3], [0x30DF, 0x30AF, 0x30ED, 0x30F3], [0x30DF, 0x30EA], [0x30DF, 0x30EA, 0x30D0,
      0x30FC, 0x30EB], [0x30E1, 0x30AC], [0x30E1, 0x30AC, 0x30C8, 0x30F3], [0x30E1, 0x30FC,
      0x30C8, 0x30EB], [0x30E4, 0x30FC, 0x30C9], [0x30E4, 0x30FC, 0x30EB], [0x30E6, 0x30A2,
      0x30F3], [0x30EA, 0x30C3, 0x30C8, 0x30EB], [0x30EA, 0x30E9], [0x30EB, 0x30D4, 0x30FC],
      [0x30EB, 0x30FC, 0x30D6, 0x30EB], [0x30EC, 0x30E0], [0x30EC, 0x30F3, 0x30C8, 0x30B2,
      0x30F3], [0x30EF, 0x30C3, 0x30C8], [0x30, 0x70B9], [0x31, 0x70B9], [0x32, 0x70B9], [0x33,
      0x70B9], [0x34, 0x70B9], [0x35, 0x70B9], [0x36, 0x70B9], [0x37, 0x70B9], [0x38, 0x70B9],
      [0x39, 0x70B9], [0x31, 0x30, 0x70B9], [0x31, 0x31, 0x70B9], [0x31, 0x32, 0x70B9], [0x31,
      0x33, 0x70B9], [0x31, 0x34, 0x70B9], [0x31, 0x35, 0x70B9], [0x31, 0x36, 0x70B9], [0x31,
      0x37, 0x70B9], [0x31, 0x38, 0x70B9], [0x31, 0x39, 0x70B9], [0x32, 0x30, 0x70B9], [0x32,
      0x31, 0x70B9], [0x32, 0x32, 0x70B9], [0x32, 0x33, 0x70B9], [0x32, 0x34, 0x70B9], [0x68,
      0x70, 0x61], [0x64, 0x61], [0x61, 0x75], [0x62, 0x61, 0x72], [0x6F, 0x76], [0x70, 0x63],
      [0x64, 0x6D], [0x64, 0x6D, 0x32], [0x64, 0x6D, 0x33], [0x69, 0x75], [0x5E73, 0x6210],
      [0x662D, 0x548C], [0x5927, 0x6B63], [0x660E, 0x6CBB], [0x682A, 0x5F0F, 0x4F1A, 0x793E],
      [0x70, 0x61], [0x6E, 0x61], [0x3BC, 0x61], [0x6D, 0x61], [0x6B, 0x61], [0x6B, 0x62], [0x6D,
      0x62], [0x67, 0x62], [0x63, 0x61, 0x6C], [0x6B, 0x63, 0x61, 0x6C], [0x70, 0x66], [0x6E,
      0x66], [0x3BC, 0x66], [0x3BC, 0x67], [0x6D, 0x67], [0x6B, 0x67], [0x68, 0x7A], [0x6B, 0x68,
      0x7A], [0x6D, 0x68, 0x7A], [0x67, 0x68, 0x7A], [0x74, 0x68, 0x7A], [0x3BC, 0x6C], [0x6D,
      0x6C], [0x64, 0x6C], [0x6B, 0x6C], [0x66, 0x6D], [0x6E, 0x6D], [0x3BC, 0x6D], [0x6D, 0x6D],
      [0x63, 0x6D], [0x6B, 0x6D], [0x6D, 0x6D, 0x32], [0x63, 0x6D, 0x32], [0x6D, 0x32], [0x6B,
      0x6D, 0x32], [0x6D, 0x6D, 0x33], [0x63, 0x6D, 0x33], [0x6D, 0x33], [0x6B, 0x6D, 0x33],
      [0x6D, 0x2215, 0x73], [0x6D, 0x2215, 0x73, 0x32], [0x70, 0x61], [0x6B, 0x70, 0x61], [0x6D,
      0x70, 0x61], [0x67, 0x70, 0x61], [0x72, 0x61, 0x64], [0x72, 0x61, 0x64, 0x2215, 0x73],
      [0x72, 0x61, 0x64, 0x2215, 0x73, 0x32], [0x70, 0x73], [0x6E, 0x73], [0x3BC, 0x73], [0x6D,
      0x73], [0x70, 0x76], [0x6E, 0x76], [0x3BC, 0x76], [0x6D, 0x76], [0x6B, 0x76], [0x6D, 0x76],
      [0x70, 0x77], [0x6E, 0x77], [0x3BC, 0x77], [0x6D, 0x77], [0x6B, 0x77], [0x6D, 0x77], [0x6B,
      0x3C9], [0x6D, 0x3C9]]), (0x33C3, [[0x62, 0x71], [0x63, 0x63], [0x63, 0x64], [0x63, 0x2215,
      0x6B, 0x67]]), (0x33C8, [[0x64, 0x62], [0x67, 0x79], [0x68, 0x61], [0x68, 0x70], [0x69,
      0x6E], [0x6B, 0x6B], [0x6B, 0x6D], [0x6B, 0x74], [0x6C, 0x6D], [0x6C, 0x6E], [0x6C, 0x6F,
      0x67], [0x6C, 0x78], [0x6D, 0x62], [0x6D, 0x69, 0x6C], [0x6D, 0x6F, 0x6C], [0x70, 0x68]]),
    (0x33D9, [[0x70, 0x70, 0x6D], [0x70, 0x72], [0x73, 0x72], [0x73, 0x76], [0x77, 0x62], [0x76,
      0x2215, 0x6D], [0x61, 0x2215, 0x6D], [0x31, 0x65E5], [0x32, 0x65E5], [0x33, 0x65E5], [0x34,
      0x65E5], [0x35, 0x65E5], [0x36, 0x65E5], [0x37, 0x65E5], [0x38, 0x65E5], [0x39, 0x65E5],
      [0x31, 0x30, 0x65E5], [0x31, 0x31, 0x65E5], [0x31, 0x32, 0x65E5], [0x31, 0x33, 0x65E5],
      [0x31, 0x34, 0x65E5], [0x31, 0x35, 0x65E5], [0x31, 0x36, 0x65E5], [0x31, 0x37, 0x65E5],
      [0x31, 0x38, 0x65E5], [0x31, 0x39, 0x65E5], [0x32, 0x30, 0x65E5], [0x32, 0x31, 0x65E5],
      [0x32, 0x32, 0x65E5], [0x32, 0x33, 0x65E5], [0x32, 0x34, 0x65E5], [0x32, 0x35, 0x65E5],
      [0x32, 0x36, 0x65E5], [0x32, 0x37, 0x65E5], [0x32, 0x38, 0x65E5], [0x32, 0x39, 0x65E5],
      [0x33, 0x30, 0x65E5], [0x33, 0x31, 0x65E5], [0x67, 0x61, 0x6C]]), (0xFB00, [[0x66, 0x66],
      [0x66, 0x69], [0x66, 0x6C], [0x66, 0x66, 0x69], [0x66, 0x66, 0x6C], [0x73, 0x74], [0x73,
      0x74]]), (0xFB13, [[0x574, 0x576], [0x574, 0x565], [0x574, 0x56B], [0x57E, 0x576], [0x574,
      0x56D]]), (0xFB4F, [[0x5D0, 0x5DC]]), (0xFBDD, [[0x6C7, 0x674]]), (0xFBEA, [[0x626, 0x627],
      [0x626, 0x627], [0x626, 0x6D5], [0x626, 0x6D5], [0x626, 0x648], [0x626, 0x648], [0x626,
      0x6C7], [0x626, 0x6C7], [0x626, 0x6C6], [0x626, 0x6C6], [0x626, 0x6C8], [0x626, 0x6C8],
      [0x626, 0x6D0], [0x626, 0x6D0], [0x626, 0x6D0], [0x626, 0x649], [0x626, 0x649], [0x626,
      0x649]]), (0xFC00, [[0x626, 0x62C], [0x626, 0x62D], [0x626, 0x645], [0x626, 0x649], [0x626,
      0x64A], [0x628, 0x62C], [0x628, 0x62D], [0x628, 0x62E], [0x628, 0x645], [0x628, 0x649],
      [0x628, 0x64A], [0x62A, 0x62C], [0x62A, 0x62D], [0x62A, 0x62E], [0x62A, 0x645], [0x62A,
      0x649], [0x62A, 0x64A], [0x62B, 0x62C], [0x62B, 0x645], [0x62B, 0x649], [0x62B, 0x64A],
      [0x62C, 0x62D], [0x62C, 0x645], [0x62D, 0x62C], [0x62D, 0x645], [0x62E, 0x62C], [0x62E,
      0x62D], [0x62E, 0x645], [0x633, 0x62C], [0x633, 0x62D], [0x633, 0x62E], [0x633, 0x645],
      [0x635, 0x62D], [0x635, 0x645], [0x636, 0x62C], [0x636, 0x62D], [0x636, 0x62E], [0x636,
      0x645], [0x637, 0x62D], [0x637, 0x645], [0x638, 0x645], [0x639, 0x62C], [0x639, 0x645],
      [0x63A, 0x62C], [0x63A, 0x645], [0x641, 0x62C], [0x641, 0x62D], [0x641, 0x62E], [0x641,
      0x645], [0x641, 0x649], [0x641, 0x64A], [0x642, 0x62D], [0x642, 0x645], [0x642, 0x649],
      [0x642, 0x64A], [0x643, 0x627], [0x643, 0x62C], [0x643, 0x62D], [0x643, 0x62E], [0x643,
      0x644], [0x643, 0x645], [0x643, 0x649], [0x643, 0x64A], [0x644, 0x62C], [0x644, 0x62D],
      [0x644, 0x62E], [0x644, 0x645], [0x644, 0x649], [0x644, 0x64A], [0x645, 0x62C], [0x645,
      0x62D], [0x645, 0x62E], [0x645, 0x645], [0x645, 0x649], [0x645, 0x64A], [0x646, 0x62C],
      [0x646, 0x62D], [0x646, 0x62E], [0x646, 0x645], [0x646, 0x649], [0x646, 0x64A], [0x647,
      0x62C], [0x647, 0x645], [0x647, 0x649], [0x647, 0x64A], [0x64A, 0x62C], [0x64A, 0x62D],
      [0x64A, 0x62E], [0x64A, 0x645], [0x64A, 0x649], [0x64A, 0x64A], [0x630, 0x670], [0x631,
      0x670], [0x649, 0x670], [0x20, 0x64C, 0x651], [0x20, 0x64D, 0x651], [0x20, 0x64E, 0x651],
      [0x20, 0x64F, 0x651], [0x20, 0x650, 0x651], [0x20, 0x651, 0x670], [0x626, 0x631], [0x626,
      0x632], [0x626, 0x645], [0x626, 0x646], [0x626, 0x649], [0x626, 0x64A], [0x628, 0x631],
      [0x628, 0x632], [0x628, 0x645], [0x628, 0x646], [0x628, 0x649], [0x628, 0x64A], [0x62A,
      0x631], [0x62A, 0x632], [0x62A, 0x645], [0x62A, 0x646], [0x62A, 0x649], [0x62A, 0x64A],
      [0x62B, 0x631], [0x62B, 0x632], [0x62B, 0x645], [0x62B, 0x646], [0x62B, 0x649], [0x62B,
      0x64A], [0x641, 0x649], [0x641, 0x64A], [0x642, 0x649], [0x642, 0x64A], [0x643, 0x627],
      [0x643, 0x644], [0x643, 0x645], [0x643, 0x649], [0x643, 0x64A], [0x644, 0x645], [0x644,
      0x649], [0x644, 0x64A], [0x645, 0x627], [0x645, 0x645], [0x646, 0x631], [0x646, 0x632],
      [0x646, 0x645], [0x646, 0x646], [0x646, 0x649], [0x646, 0x64A], [0x649, 0x670], [0x64A,
      0x631], [0x64A, 0x632], [0x64A, 0x645], [0x64A, 0x646], [0x64A, 0x649], [0x64A, 0x64A],
      [0x626, 0x62C], [0x626, 0x62D], [0x626, 0x62E], [0x626, 0x645], [0x626, 0x647], [0x628,
      0x62C], [0x628, 0x62D], [0x628, 0x62E], [0x628, 0x645], [0x628, 0x647], [0x62A, 0x62C],
      [0x62A, 0x62D], [0x62A, 0x62E], [0x62A, 0x645], [0x62A, 0x647], [0x62B, 0x645], [0x62C,
      0x62D], [0x62C, 0x645], [0x62D, 0x62C], [0x62D, 0x645], [0x62E, 0x62C], [0x62E, 0x645],
      [0x633, 0x62C], [0x633, 0x62D], [0x633, 0x62E], [0x633, 0x645], [0x635, 0x62D], [0x635,
      0x62E], [0x635, 0x645], [0x636, 0x62C], [0x636, 0x62D], [0x636, 0x62E], [0x636, 0x645],
      [0x637, 0x62D], [0x638, 0x645], [0x639, 0x62C], [0x639, 0x645], [0x63A, 0x62C], [0x63A,
      0x645], [0x641, 0x62C], [0x641, 0x62D], [0x641, 0x62E], [0x641, 0x645], [0x642, 0x62D],
      [0x642, 0x645], [0x643, 0x62C], [0x643, 0x62D], [0x643, 0x62E], [0x643, 0x644], [0x643,
      0x645], [0x644, 0x62C], [0x644, 0x62D], [0x644, 0x62E], [0x644, 0x645], [0x644, 0x647],
      [0x645, 0x62C], [0x645, 0x62D], [0x645, 0x62E], [0x645, 0x645], [0x646, 0x62C], [0x646,
      0x62D], [0x646, 0x62E], [0x646, 0x645], [0x646, 0x647], [0x647, 0x62C], [0x647, 0x645],
      [0x647, 0x670], [0x64A, 0x62C], [0x64A, 0x62D], [0x64A, 0x62E], [0x64A, 0x645], [0x64A,
      0x647], [0x626, 0x645], [0x626, 0x647], [0x628, 0x645], [0x628, 0x647], [0x62A, 0x645],
      [0x62A, 0x647], [0x62B, 0x645], [0x62B, 0x647], [0x633, 0x645], [0x633, 0x647], [0x634,
      0x645], [0x634, 0x647], [0x643, 0x644], [0x643, 0x645], [0x644, 0x645], [0x646, 0x645],
      [0x646, 0x647], [0x64A, 0x645], [0x64A, 0x647], [0x640, 0x64E, 0x651], [0x640, 0x64F,
      0x651], [0x640, 0x650, 0x651], [0x637, 0x649], [0x637, 0x64A], [0x639, 0x649], [0x639,
      0x64A], [0x63A, 0x649], [0x63A, 0x64A], [0x633, 0x649], [0x633, 0x64A], [0x634, 0x649],
      [0x634, 0x64A], [0x62D, 0x649], [0x62D, 0x64A], [0x62C, 0x649], [0x62C, 0x64A], [0x62E,
      0x649], [0x62E, 0x64A], [0x635, 0x649], [0x635, 0x64A], [0x636, 0x649], [0x636, 0x64A],
      [0x634, 0x62C], [0x634, 0x62D], [0x634, 0x62E], [0x634, 0x645], [0x634, 0x631], [0x633,
      0x631], [0x635, 0x631], [0x636, 0x631], [0x637, 0x649], [0x637, 0x64A], [0x639, 0x649],
      [0x639, 0x64A], [0x63A, 0x649], [0x63A, 0x64A], [0x633, 0x649], [0x633, 0x64A], [0x634,
      0x649], [0x634, 0x64A], [0x62D, 0x649], [0x62D, 0x64A], [0x62C, 0x649], [0x62C, 0x64A],
      [0x62E, 0x649], [0x62E, 0x64A], [0x635, 0x649], [0x635, 0x64A], [0x636, 0x649], [0x636,
      0x64A], [0x634, 0x62C], [0x634, 0x62D], [0x634, 0x62E], [0x634, 0x645], [0x634, 0x631],
      [0x633, 0x631], [0x635, 0x631], [0x636, 0x631], [0x634, 0x62C], [0x634, 0x62D], [0x634,
      0x62E], [0x634, 0x645], [0x633, 0x647], [0x634, 0x647], [0x637, 0x645], [0x633, 0x62C],
      [0x633, 0x62D], [0x633, 0x62E], [0x634, 0x62C], [0x634, 0x62D], [0x634, 0x62E], [0x637,
      0x645], [0x638, 0x645], [0x627, 0x64B], [0x627, 0x64B]]), (0xFD50, [[0x62A, 0x62C, 0x645],
      [0x62A, 0x62D, 0x62C], [0x62A, 0x62D, 0x62C], [0x62A, 0x62D, 0x645], [0x62A, 0x62E, 0x645],
      [0x62A, 0x645, 0x62C], [0x62A, 0x645, 0x62D], [0x62A, 0x645, 0x62E], [0x62C, 0x645, 0x62D],
      [0x62C, 0x645, 0x62D], [0x62D, 0x645, 0x64A], [0x62D, 0x645, 0x649], [0x633, 0x62D, 0x62C],
      [0x633, 0x62C, 0x62D], [0x633, 0x62C, 0x649], [0x633, 0x645, 0x62D], [0x633, 0x645, 0x62D],
      [0x633, 0x645, 0x62C], [0x633, 0x645, 0x645], [0x633, 0x645, 0x645], [0x635, 0x62D, 0x62D],
      [0x635, 0x62D, 0x62D], [0x635, 0x645, 0x645], [0x634, 0x62D, 0x645], [0x634, 0x62D, 0x645],
      [0x634, 0x62C, 0x64A], [0x634, 0x645, 0x62E], [0x634, 0x645, 0x62E], [0x634, 0x645, 0x645],
      [0x634, 0x645, 0x645], [0x636, 0x62D, 0x649], [0x636, 0x62E, 0x645], [0x636, 0x62E, 0x645],
      [0x637, 0x645, 0x62D], [0x637, 0x645, 0x62D], [0x637, 0x645, 0x645], [0x637, 0x645, 0x64A],
      [0x639, 0x62C, 0x645], [0x639, 0x645, 0x645], [0x639, 0x645, 0x645], [0x639, 0x645, 0x649],
      [0x63A, 0x645, 0x645], [0x63A, 0x645, 0x64A], [0x63A, 0x645, 0x649], [0x641, 0x62E, 0x645],
      [0x641, 0x62E, 0x645], [0x642, 0x645, 0x62D], [0x642, 0x645, 0x645], [0x644, 0x62D, 0x645],
      [0x644, 0x62D, 0x64A], [0x644, 0x62D, 0x649], [0x644, 0x62C, 0x62C], [0x644, 0x62C, 0x62C],
      [0x644, 0x62E, 0x645], [0x644, 0x62E, 0x645], [0x644, 0x645, 0x62D], [0x644, 0x645, 0x62D],
      [0x645, 0x62D, 0x62C], [0x645, 0x62D, 0x645], [0x645, 0x62D, 0x64A], [0x645, 0x62C, 0x62D],
      [0x645, 0x62C, 0x645], [0x645, 0x62E, 0x62C], [0x645, 0x62E, 0x645]]), (0xFD92, [[0x645,
      0x62C, 0x62E], [0x647, 0x645, 0x62C], [0x647, 0x645, 0x645], [0x646, 0x62D, 0x645], [0x646,
      0x62D, 0x649], [0x646, 0x62C, 0x645], [0x646, 0x62C, 0x645], [0x646, 0x62C, 0x649], [0x646,
      0x645, 0x64A], [0x646, 0x645, 0x649], [0x64A, 0x645, 0x645], [0x64A, 0x645, 0x645], [0x628,
      0x62E, 0x64A], [0x62A, 0x62C, 0x64A], [0x62A, 0x62C, 0x649], [0x62A, 0x62E, 0x64A], [0x62A,
      0x62E, 0x649], [0x62A, 0x645, 0x64A], [0x62A, 0x645, 0x649], [0x62C, 0x645, 0x64A], [0x62C,
      0x62D, 0x649], [0x62C, 0x645, 0x649], [0x633, 0x62E, 0x649], [0x635, 0x62D, 0x64A], [0x634,
      0x62D, 0x64A], [0x636, 0x62D, 0x64A], [0x644, 0x62C, 0x64A], [0x644, 0x645, 0x64A], [0x64A,
      0x62D, 0x64A], [0x64A, 0x62C, 0x64A], [0x64A, 0x645, 0x64A], [0x645, 0x645, 0x64A], [0x642,
      0x645, 0x64A], [0x646, 0x62D, 0x64A], [0x642, 0x645, 0x62D], [0x644, 0x62D, 0x645], [0x639,
      0x645, 0x64A], [0x643, 0x645, 0x64A], [0x646, 0x62C, 0x62D], [0x645, 0x62E, 0x64A], [0x644,
      0x62C, 0x645], [0x643, 0x645, 0x645], [0x644, 0x62C, 0x645], [0x646, 0x62C, 0x62D], [0x62C,
      0x62D, 0x64A], [0x62D, 0x62C, 0x64A], [0x645, 0x62C, 0x64A], [0x641, 0x645, 0x64A], [0x628,
      0x62D, 0x64A], [0x643, 0x645, 0x645], [0x639, 0x62C, 0x645], [0x635, 0x645, 0x645], [0x633,
      0x62E, 0x64A], [0x646, 0x62C, 0x64A]]), (0xFDF0, [[0x635, 0x644, 0x6D2], [0x642, 0x644,
      0x6D2], [0x627, 0x644, 0x644, 0x647], [0x627, 0x643, 0x628, 0x631], [0x645, 0x62D, 0x645,
      0x62F], [0x635, 0x644, 0x639, 0x645], [0x631, 0x633, 0x648, 0x644], [0x639, 0x644, 0x64A,
      0x647], [0x648, 0x633, 0x644, 0x645], [0x635, 0x644, 0x649], [0x635, 0x644, 0x649, 0x20,
      0x627, 0x644, 0x644, 0x647, 0x20, 0x639, 0x644, 0x64A, 0x647, 0x20, 0x648, 0x633, 0x644,
      0x645], [0x62C, 0x644, 0x20, 0x62C, 0x644, 0x627, 0x644, 0x647], [0x631, 0x6CC, 0x627,
      0x644]]), (0xFE49, [[0x20, 0x305], [0x20, 0x305], [0x20, 0x305], [0x20, 0x305]]), (0xFE70,
      [[0x20, 0x64B], [0x640, 0x64B], [0x20, 0x64C]]), (0xFE74, [[0x20, 0x64D]]), (0xFE76, [[0x20,
      0x64E], [0x640, 0x64E], [0x20, 0x64F], [0x640, 0x64F], [0x20, 0x650], [0x640, 0x650], [0x20,
      0x651], [0x640, 0x651], [0x20, 0x652], [0x640, 0x652]]), (0xFEF5, [[0x644, 0x622], [0x644,
      0x622], [0x644, 0x623], [0x644, 0x623], [0x644, 0x625], [0x644, 0x625], [0x644, 0x627],
      [0x644, 0x627]]), (0xFFE3, [[0x20, 0x304]]), (0x1F101, [[0x30, 0x2C], [0x31, 0x2C], [0x32,
      0x2C], [0x33, 0x2C], [0x34, 0x2C], [0x35, 0x2C], [0x36, 0x2C], [0x37, 0x2C], [0x38, 0x2C],
      [0x39, 0x2C]]), (0x1F110, [[0x28, 0x61, 0x29], [0x28, 0x62, 0x29], [0x28, 0x63, 0x29],
      [0x28, 0x64, 0x29], [0x28, 0x65, 0x29], [0x28, 0x66, 0x29], [0x28, 0x67, 0x29], [0x28, 0x68,
      0x29], [0x28, 0x69, 0x29], [0x28, 0x6A, 0x29], [0x28, 0x6B, 0x29], [0x28, 0x6C, 0x29],
      [0x28, 0x6D, 0x29], [0x28, 0x6E, 0x29], [0x28, 0x6F, 0x29], [0x28, 0x70, 0x29], [0x28, 0x71,
      0x29], [0x28, 0x72, 0x29], [0x28, 0x73, 0x29], [0x28, 0x74, 0x29], [0x28, 0x75, 0x29],
      [0x28, 0x76, 0x29], [0x28, 0x77, 0x29], [0x28, 0x78, 0x29], [0x28, 0x79, 0x29], [0x28, 0x7A,
      0x29], [0x3014, 0x73, 0x3015]]), (0x1F12D, [[0x63, 0x64], [0x77, 0x7A]]), (0x1F14A, [[0x68,
      0x76], [0x6D, 0x76], [0x73, 0x64], [0x73, 0x73], [0x70, 0x70, 0x76], [0x77, 0x63]]),
    (0x1F16A, [[0x6D, 0x63], [0x6D, 0x64], [0x6D, 0x72]]), (0x1F190, [[0x64, 0x6A]]), (0x1F200,
      [[0x307B, 0x304B], [0x30B3, 0x30B3]]), (0x1F240, [[0x3014, 0x672C, 0x3015], [0x3014, 0x4E09,
      0x3015], [0x3014, 0x4E8C, 0x3015], [0x3014, 0x5B89, 0x3015], [0x3014, 0x70B9, 0x3015],
      [0x3014, 0x6253, 0x3015], [0x3014, 0x76D7, 0x3015], [0x3014, 0x52DD, 0x3015], [0x3014,
      0x6557, 0x3015]])]

/-- What the character with the code point `n` becomes in a row. -/
def shifted? (n : Nat) (row : Nat × Nat × Nat × Nat) : Option Nat :=
  let (first, last, step, image) := row
  if n < first || last < n then none
  else if step == 0 then some image
  else if (n - first) % step == 0 then some (image + (n - first))
  else none

/-- What a character of a name is compared as. -/
def fold (c : Char) : List Char :=
  if c.toNat < 0x80 then [c.toLower]
  else if inRanges droppedRanges c then []
  else
    match (shiftRows.findSome? (shifted? c.toNat)).or (rowOf? letterBlocks c) with
    | some n => [Char.ofNat n]
    | none =>
      match rowOf? spelledBlocks c with
      | some ns => ns.map Char.ofNat
      | none => [c]

end UpnpGateway.Net.Domain
