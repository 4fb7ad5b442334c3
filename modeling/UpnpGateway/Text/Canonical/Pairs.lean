/-
# Composed characters

A letter with a mark often has a code point of its own.  This file lists the characters that
are composed of two others and that a text in composed form has in their place, as of
Unicode 17.
-/
import UpnpGateway.Text.Table

namespace UpnpGateway.Text.Canonical

/-- The pairs that characters are composed of, in blocks: the first composed character of a
block, and the pairs of this and the following characters. -/
def pairBlocks : Array (Nat × List (Nat × Nat)) := #[
    (0xC0, [(0x41, 0x300), (0x41, 0x301), (0x41, 0x302), (0x41, 0x303), (0x41, 0x308),
      (0x41, 0x30A)]), (0xC7, [(0x43, 0x327), (0x45, 0x300), (0x45, 0x301), (0x45, 0x302),
      (0x45, 0x308), (0x49, 0x300), (0x49, 0x301), (0x49, 0x302), (0x49, 0x308)]), (0xD1,
      [(0x4E, 0x303), (0x4F, 0x300), (0x4F, 0x301), (0x4F, 0x302), (0x4F, 0x303), (0x4F, 0x308)]),
    (0xD9, [(0x55, 0x300), (0x55, 0x301), (0x55, 0x302), (0x55, 0x308), (0x59, 0x301)]), (0xE0,
      [(0x61, 0x300), (0x61, 0x301), (0x61, 0x302), (0x61, 0x303), (0x61, 0x308), (0x61, 0x30A)]),
    (0xE7, [(0x63, 0x327), (0x65, 0x300), (0x65, 0x301), (0x65, 0x302), (0x65, 0x308),
      (0x69, 0x300), (0x69, 0x301), (0x69, 0x302), (0x69, 0x308)]), (0xF1, [(0x6E, 0x303),
      (0x6F, 0x300), (0x6F, 0x301), (0x6F, 0x302), (0x6F, 0x303), (0x6F, 0x308)]), (0xF9,
      [(0x75, 0x300), (0x75, 0x301), (0x75, 0x302), (0x75, 0x308), (0x79, 0x301)]), (0xFF,
      [(0x79, 0x308), (0x41, 0x304), (0x61, 0x304), (0x41, 0x306), (0x61, 0x306), (0x41, 0x328),
      (0x61, 0x328), (0x43, 0x301), (0x63, 0x301), (0x43, 0x302), (0x63, 0x302), (0x43, 0x307),
      (0x63, 0x307), (0x43, 0x30C), (0x63, 0x30C), (0x44, 0x30C), (0x64, 0x30C)]), (0x112,
      [(0x45, 0x304), (0x65, 0x304), (0x45, 0x306), (0x65, 0x306), (0x45, 0x307), (0x65, 0x307),
      (0x45, 0x328), (0x65, 0x328), (0x45, 0x30C), (0x65, 0x30C), (0x47, 0x302), (0x67, 0x302),
      (0x47, 0x306), (0x67, 0x306), (0x47, 0x307), (0x67, 0x307), (0x47, 0x327), (0x67, 0x327),
      (0x48, 0x302), (0x68, 0x302)]), (0x128, [(0x49, 0x303), (0x69, 0x303), (0x49, 0x304),
      (0x69, 0x304), (0x49, 0x306), (0x69, 0x306), (0x49, 0x328), (0x69, 0x328), (0x49, 0x307)]),
    (0x134, [(0x4A, 0x302), (0x6A, 0x302), (0x4B, 0x327), (0x6B, 0x327)]), (0x139, [(0x4C, 0x301),
      (0x6C, 0x301), (0x4C, 0x327), (0x6C, 0x327), (0x4C, 0x30C), (0x6C, 0x30C)]), (0x143,
      [(0x4E, 0x301), (0x6E, 0x301), (0x4E, 0x327), (0x6E, 0x327), (0x4E, 0x30C), (0x6E, 0x30C)]),
    (0x14C, [(0x4F, 0x304), (0x6F, 0x304), (0x4F, 0x306), (0x6F, 0x306), (0x4F, 0x30B),
      (0x6F, 0x30B)]), (0x154, [(0x52, 0x301), (0x72, 0x301), (0x52, 0x327), (0x72, 0x327),
      (0x52, 0x30C), (0x72, 0x30C), (0x53, 0x301), (0x73, 0x301), (0x53, 0x302), (0x73, 0x302),
      (0x53, 0x327), (0x73, 0x327), (0x53, 0x30C), (0x73, 0x30C), (0x54, 0x327), (0x74, 0x327),
      (0x54, 0x30C), (0x74, 0x30C)]), (0x168, [(0x55, 0x303), (0x75, 0x303), (0x55, 0x304),
      (0x75, 0x304), (0x55, 0x306), (0x75, 0x306), (0x55, 0x30A), (0x75, 0x30A), (0x55, 0x30B),
      (0x75, 0x30B), (0x55, 0x328), (0x75, 0x328), (0x57, 0x302), (0x77, 0x302), (0x59, 0x302),
      (0x79, 0x302), (0x59, 0x308), (0x5A, 0x301), (0x7A, 0x301), (0x5A, 0x307), (0x7A, 0x307),
      (0x5A, 0x30C), (0x7A, 0x30C)]), (0x1A0, [(0x4F, 0x31B), (0x6F, 0x31B)]), (0x1AF,
      [(0x55, 0x31B), (0x75, 0x31B)]), (0x1CD, [(0x41, 0x30C), (0x61, 0x30C), (0x49, 0x30C),
      (0x69, 0x30C), (0x4F, 0x30C), (0x6F, 0x30C), (0x55, 0x30C), (0x75, 0x30C), (0xDC, 0x304),
      (0xFC, 0x304), (0xDC, 0x301), (0xFC, 0x301), (0xDC, 0x30C), (0xFC, 0x30C), (0xDC, 0x300),
      (0xFC, 0x300)]), (0x1DE, [(0xC4, 0x304), (0xE4, 0x304), (0x226, 0x304), (0x227, 0x304),
      (0xC6, 0x304), (0xE6, 0x304)]), (0x1E6, [(0x47, 0x30C), (0x67, 0x30C), (0x4B, 0x30C),
      (0x6B, 0x30C), (0x4F, 0x328), (0x6F, 0x328), (0x1EA, 0x304), (0x1EB, 0x304), (0x1B7, 0x30C),
      (0x292, 0x30C), (0x6A, 0x30C)]), (0x1F4, [(0x47, 0x301), (0x67, 0x301)]), (0x1F8,
      [(0x4E, 0x300), (0x6E, 0x300), (0xC5, 0x301), (0xE5, 0x301), (0xC6, 0x301), (0xE6, 0x301),
      (0xD8, 0x301), (0xF8, 0x301), (0x41, 0x30F), (0x61, 0x30F), (0x41, 0x311), (0x61, 0x311),
      (0x45, 0x30F), (0x65, 0x30F), (0x45, 0x311), (0x65, 0x311), (0x49, 0x30F), (0x69, 0x30F),
      (0x49, 0x311), (0x69, 0x311), (0x4F, 0x30F), (0x6F, 0x30F), (0x4F, 0x311), (0x6F, 0x311),
      (0x52, 0x30F), (0x72, 0x30F), (0x52, 0x311), (0x72, 0x311), (0x55, 0x30F), (0x75, 0x30F),
      (0x55, 0x311), (0x75, 0x311), (0x53, 0x326), (0x73, 0x326), (0x54, 0x326), (0x74, 0x326)]),
    (0x21E, [(0x48, 0x30C), (0x68, 0x30C)]), (0x226, [(0x41, 0x307), (0x61, 0x307), (0x45, 0x327),
      (0x65, 0x327), (0xD6, 0x304), (0xF6, 0x304), (0xD5, 0x304), (0xF5, 0x304), (0x4F, 0x307),
      (0x6F, 0x307), (0x22E, 0x304), (0x22F, 0x304), (0x59, 0x304), (0x79, 0x304)]), (0x385,
      [(0xA8, 0x301), (0x391, 0x301)]), (0x388, [(0x395, 0x301), (0x397, 0x301), (0x399, 0x301)]),
    (0x38C, [(0x39F, 0x301)]), (0x38E, [(0x3A5, 0x301), (0x3A9, 0x301), (0x3CA, 0x301)]), (0x3AA,
      [(0x399, 0x308), (0x3A5, 0x308), (0x3B1, 0x301), (0x3B5, 0x301), (0x3B7, 0x301),
      (0x3B9, 0x301), (0x3CB, 0x301)]), (0x3CA, [(0x3B9, 0x308), (0x3C5, 0x308), (0x3BF, 0x301),
      (0x3C5, 0x301), (0x3C9, 0x301)]), (0x3D3, [(0x3D2, 0x301), (0x3D2, 0x308)]), (0x400,
      [(0x415, 0x300), (0x415, 0x308)]), (0x403, [(0x413, 0x301)]), (0x407, [(0x406, 0x308)]),
    (0x40C, [(0x41A, 0x301), (0x418, 0x300), (0x423, 0x306)]), (0x419, [(0x418, 0x306)]), (0x439,
      [(0x438, 0x306)]), (0x450, [(0x435, 0x300), (0x435, 0x308)]), (0x453, [(0x433, 0x301)]),
    (0x457, [(0x456, 0x308)]), (0x45C, [(0x43A, 0x301), (0x438, 0x300), (0x443, 0x306)]), (0x476,
      [(0x474, 0x30F), (0x475, 0x30F)]), (0x4C1, [(0x416, 0x306), (0x436, 0x306)]), (0x4D0,
      [(0x410, 0x306), (0x430, 0x306), (0x410, 0x308), (0x430, 0x308)]), (0x4D6, [(0x415, 0x306),
      (0x435, 0x306)]), (0x4DA, [(0x4D8, 0x308), (0x4D9, 0x308), (0x416, 0x308), (0x436, 0x308),
      (0x417, 0x308), (0x437, 0x308)]), (0x4E2, [(0x418, 0x304), (0x438, 0x304), (0x418, 0x308),
      (0x438, 0x308), (0x41E, 0x308), (0x43E, 0x308)]), (0x4EA, [(0x4E8, 0x308), (0x4E9, 0x308),
      (0x42D, 0x308), (0x44D, 0x308), (0x423, 0x304), (0x443, 0x304), (0x423, 0x308),
      (0x443, 0x308), (0x423, 0x30B), (0x443, 0x30B), (0x427, 0x308), (0x447, 0x308)]), (0x4F8,
      [(0x42B, 0x308), (0x44B, 0x308)]), (0x622, [(0x627, 0x653), (0x627, 0x654), (0x648, 0x654),
      (0x627, 0x655), (0x64A, 0x654)]), (0x6C0, [(0x6D5, 0x654)]), (0x6C2, [(0x6C1, 0x654)]),
    (0x6D3, [(0x6D2, 0x654)]), (0x929, [(0x928, 0x93C)]), (0x931, [(0x930, 0x93C)]), (0x934,
      [(0x933, 0x93C)]), (0x9CB, [(0x9C7, 0x9BE), (0x9C7, 0x9D7)]), (0xB48, [(0xB47, 0xB56)]),
    (0xB4B, [(0xB47, 0xB3E), (0xB47, 0xB57)]), (0xB94, [(0xB92, 0xBD7)]), (0xBCA, [(0xBC6, 0xBBE),
      (0xBC7, 0xBBE), (0xBC6, 0xBD7)]), (0xC48, [(0xC46, 0xC56)]), (0xCC0, [(0xCBF, 0xCD5)]),
    (0xCC7, [(0xCC6, 0xCD5), (0xCC6, 0xCD6)]), (0xCCA, [(0xCC6, 0xCC2), (0xCCA, 0xCD5)]), (0xD4A,
      [(0xD46, 0xD3E), (0xD47, 0xD3E), (0xD46, 0xD57)]), (0xDDA, [(0xDD9, 0xDCA)]), (0xDDC,
      [(0xDD9, 0xDCF), (0xDDC, 0xDCA), (0xDD9, 0xDDF)]), (0x1026, [(0x1025, 0x102E)]), (0x1B06,
      [(0x1B05, 0x1B35)]), (0x1B08, [(0x1B07, 0x1B35)]), (0x1B0A, [(0x1B09, 0x1B35)]), (0x1B0C,
      [(0x1B0B, 0x1B35)]), (0x1B0E, [(0x1B0D, 0x1B35)]), (0x1B12, [(0x1B11, 0x1B35)]), (0x1B3B,
      [(0x1B3A, 0x1B35)]), (0x1B3D, [(0x1B3C, 0x1B35)]), (0x1B40, [(0x1B3E, 0x1B35),
      (0x1B3F, 0x1B35)]), (0x1B43, [(0x1B42, 0x1B35)]), (0x1E00, [(0x41, 0x325), (0x61, 0x325),
      (0x42, 0x307), (0x62, 0x307), (0x42, 0x323), (0x62, 0x323), (0x42, 0x331), (0x62, 0x331),
      (0xC7, 0x301), (0xE7, 0x301), (0x44, 0x307), (0x64, 0x307), (0x44, 0x323), (0x64, 0x323),
      (0x44, 0x331), (0x64, 0x331), (0x44, 0x327), (0x64, 0x327), (0x44, 0x32D), (0x64, 0x32D),
      (0x112, 0x300), (0x113, 0x300), (0x112, 0x301), (0x113, 0x301), (0x45, 0x32D),
      (0x65, 0x32D), (0x45, 0x330), (0x65, 0x330), (0x228, 0x306), (0x229, 0x306), (0x46, 0x307),
      (0x66, 0x307), (0x47, 0x304), (0x67, 0x304), (0x48, 0x307), (0x68, 0x307), (0x48, 0x323),
      (0x68, 0x323), (0x48, 0x308), (0x68, 0x308), (0x48, 0x327), (0x68, 0x327), (0x48, 0x32E),
      (0x68, 0x32E), (0x49, 0x330), (0x69, 0x330), (0xCF, 0x301), (0xEF, 0x301), (0x4B, 0x301),
      (0x6B, 0x301), (0x4B, 0x323), (0x6B, 0x323), (0x4B, 0x331), (0x6B, 0x331), (0x4C, 0x323),
      (0x6C, 0x323), (0x1E36, 0x304), (0x1E37, 0x304), (0x4C, 0x331), (0x6C, 0x331),
      (0x4C, 0x32D), (0x6C, 0x32D), (0x4D, 0x301), (0x6D, 0x301), (0x4D, 0x307), (0x6D, 0x307),
      (0x4D, 0x323), (0x6D, 0x323), (0x4E, 0x307), (0x6E, 0x307), (0x4E, 0x323), (0x6E, 0x323),
      (0x4E, 0x331), (0x6E, 0x331), (0x4E, 0x32D), (0x6E, 0x32D), (0xD5, 0x301), (0xF5, 0x301),
      (0xD5, 0x308), (0xF5, 0x308), (0x14C, 0x300), (0x14D, 0x300), (0x14C, 0x301),
      (0x14D, 0x301), (0x50, 0x301), (0x70, 0x301), (0x50, 0x307), (0x70, 0x307), (0x52, 0x307),
      (0x72, 0x307), (0x52, 0x323), (0x72, 0x323), (0x1E5A, 0x304), (0x1E5B, 0x304),
      (0x52, 0x331), (0x72, 0x331), (0x53, 0x307), (0x73, 0x307), (0x53, 0x323), (0x73, 0x323),
      (0x15A, 0x307), (0x15B, 0x307), (0x160, 0x307), (0x161, 0x307), (0x1E62, 0x307),
      (0x1E63, 0x307), (0x54, 0x307), (0x74, 0x307), (0x54, 0x323), (0x74, 0x323), (0x54, 0x331),
      (0x74, 0x331), (0x54, 0x32D), (0x74, 0x32D), (0x55, 0x324), (0x75, 0x324), (0x55, 0x330),
      (0x75, 0x330), (0x55, 0x32D), (0x75, 0x32D), (0x168, 0x301), (0x169, 0x301), (0x16A, 0x308),
      (0x16B, 0x308), (0x56, 0x303), (0x76, 0x303), (0x56, 0x323), (0x76, 0x323), (0x57, 0x300),
      (0x77, 0x300), (0x57, 0x301), (0x77, 0x301), (0x57, 0x308), (0x77, 0x308), (0x57, 0x307),
      (0x77, 0x307), (0x57, 0x323), (0x77, 0x323), (0x58, 0x307), (0x78, 0x307), (0x58, 0x308),
      (0x78, 0x308), (0x59, 0x307), (0x79, 0x307), (0x5A, 0x302), (0x7A, 0x302), (0x5A, 0x323),
      (0x7A, 0x323), (0x5A, 0x331), (0x7A, 0x331), (0x68, 0x331), (0x74, 0x308), (0x77, 0x30A),
      (0x79, 0x30A)]), (0x1E9B, [(0x17F, 0x307)]), (0x1EA0, [(0x41, 0x323), (0x61, 0x323),
      (0x41, 0x309), (0x61, 0x309), (0xC2, 0x301), (0xE2, 0x301), (0xC2, 0x300), (0xE2, 0x300),
      (0xC2, 0x309), (0xE2, 0x309), (0xC2, 0x303), (0xE2, 0x303), (0x1EA0, 0x302),
      (0x1EA1, 0x302), (0x102, 0x301), (0x103, 0x301), (0x102, 0x300), (0x103, 0x300),
      (0x102, 0x309), (0x103, 0x309), (0x102, 0x303), (0x103, 0x303), (0x1EA0, 0x306),
      (0x1EA1, 0x306), (0x45, 0x323), (0x65, 0x323), (0x45, 0x309), (0x65, 0x309), (0x45, 0x303),
      (0x65, 0x303), (0xCA, 0x301), (0xEA, 0x301), (0xCA, 0x300), (0xEA, 0x300), (0xCA, 0x309),
      (0xEA, 0x309), (0xCA, 0x303), (0xEA, 0x303), (0x1EB8, 0x302), (0x1EB9, 0x302),
      (0x49, 0x309), (0x69, 0x309), (0x49, 0x323), (0x69, 0x323), (0x4F, 0x323), (0x6F, 0x323),
      (0x4F, 0x309), (0x6F, 0x309), (0xD4, 0x301), (0xF4, 0x301), (0xD4, 0x300), (0xF4, 0x300),
      (0xD4, 0x309), (0xF4, 0x309), (0xD4, 0x303), (0xF4, 0x303), (0x1ECC, 0x302),
      (0x1ECD, 0x302), (0x1A0, 0x301), (0x1A1, 0x301), (0x1A0, 0x300), (0x1A1, 0x300),
      (0x1A0, 0x309), (0x1A1, 0x309), (0x1A0, 0x303), (0x1A1, 0x303), (0x1A0, 0x323),
      (0x1A1, 0x323), (0x55, 0x323), (0x75, 0x323), (0x55, 0x309), (0x75, 0x309), (0x1AF, 0x301),
      (0x1B0, 0x301), (0x1AF, 0x300), (0x1B0, 0x300), (0x1AF, 0x309), (0x1B0, 0x309),
      (0x1AF, 0x303), (0x1B0, 0x303), (0x1AF, 0x323), (0x1B0, 0x323), (0x59, 0x300),
      (0x79, 0x300), (0x59, 0x323), (0x79, 0x323), (0x59, 0x309), (0x79, 0x309), (0x59, 0x303),
      (0x79, 0x303)]), (0x1F00, [(0x3B1, 0x313), (0x3B1, 0x314), (0x1F00, 0x300), (0x1F01, 0x300),
      (0x1F00, 0x301), (0x1F01, 0x301), (0x1F00, 0x342), (0x1F01, 0x342), (0x391, 0x313),
      (0x391, 0x314), (0x1F08, 0x300), (0x1F09, 0x300), (0x1F08, 0x301), (0x1F09, 0x301),
      (0x1F08, 0x342), (0x1F09, 0x342), (0x3B5, 0x313), (0x3B5, 0x314), (0x1F10, 0x300),
      (0x1F11, 0x300), (0x1F10, 0x301), (0x1F11, 0x301)]), (0x1F18, [(0x395, 0x313),
      (0x395, 0x314), (0x1F18, 0x300), (0x1F19, 0x300), (0x1F18, 0x301), (0x1F19, 0x301)]),
    (0x1F20, [(0x3B7, 0x313), (0x3B7, 0x314), (0x1F20, 0x300), (0x1F21, 0x300), (0x1F20, 0x301),
      (0x1F21, 0x301), (0x1F20, 0x342), (0x1F21, 0x342), (0x397, 0x313), (0x397, 0x314),
      (0x1F28, 0x300), (0x1F29, 0x300), (0x1F28, 0x301), (0x1F29, 0x301), (0x1F28, 0x342),
      (0x1F29, 0x342), (0x3B9, 0x313), (0x3B9, 0x314), (0x1F30, 0x300), (0x1F31, 0x300),
      (0x1F30, 0x301), (0x1F31, 0x301), (0x1F30, 0x342), (0x1F31, 0x342), (0x399, 0x313),
      (0x399, 0x314), (0x1F38, 0x300), (0x1F39, 0x300), (0x1F38, 0x301), (0x1F39, 0x301),
      (0x1F38, 0x342), (0x1F39, 0x342), (0x3BF, 0x313), (0x3BF, 0x314), (0x1F40, 0x300),
      (0x1F41, 0x300), (0x1F40, 0x301), (0x1F41, 0x301)]), (0x1F48, [(0x39F, 0x313),
      (0x39F, 0x314), (0x1F48, 0x300), (0x1F49, 0x300), (0x1F48, 0x301), (0x1F49, 0x301)]),
    (0x1F50, [(0x3C5, 0x313), (0x3C5, 0x314), (0x1F50, 0x300), (0x1F51, 0x300), (0x1F50, 0x301),
      (0x1F51, 0x301), (0x1F50, 0x342), (0x1F51, 0x342)]), (0x1F59, [(0x3A5, 0x314)]), (0x1F5B,
      [(0x1F59, 0x300)]), (0x1F5D, [(0x1F59, 0x301)]), (0x1F5F, [(0x1F59, 0x342), (0x3C9, 0x313),
      (0x3C9, 0x314), (0x1F60, 0x300), (0x1F61, 0x300), (0x1F60, 0x301), (0x1F61, 0x301),
      (0x1F60, 0x342), (0x1F61, 0x342), (0x3A9, 0x313), (0x3A9, 0x314), (0x1F68, 0x300),
      (0x1F69, 0x300), (0x1F68, 0x301), (0x1F69, 0x301), (0x1F68, 0x342), (0x1F69, 0x342),
      (0x3B1, 0x300)]), (0x1F72, [(0x3B5, 0x300)]), (0x1F74, [(0x3B7, 0x300)]), (0x1F76,
      [(0x3B9, 0x300)]), (0x1F78, [(0x3BF, 0x300)]), (0x1F7A, [(0x3C5, 0x300)]), (0x1F7C,
      [(0x3C9, 0x300)]), (0x1F80, [(0x1F00, 0x345), (0x1F01, 0x345), (0x1F02, 0x345),
      (0x1F03, 0x345), (0x1F04, 0x345), (0x1F05, 0x345), (0x1F06, 0x345), (0x1F07, 0x345),
      (0x1F08, 0x345), (0x1F09, 0x345), (0x1F0A, 0x345), (0x1F0B, 0x345), (0x1F0C, 0x345),
      (0x1F0D, 0x345), (0x1F0E, 0x345), (0x1F0F, 0x345), (0x1F20, 0x345), (0x1F21, 0x345),
      (0x1F22, 0x345), (0x1F23, 0x345), (0x1F24, 0x345), (0x1F25, 0x345), (0x1F26, 0x345),
      (0x1F27, 0x345), (0x1F28, 0x345), (0x1F29, 0x345), (0x1F2A, 0x345), (0x1F2B, 0x345),
      (0x1F2C, 0x345), (0x1F2D, 0x345), (0x1F2E, 0x345), (0x1F2F, 0x345), (0x1F60, 0x345),
      (0x1F61, 0x345), (0x1F62, 0x345), (0x1F63, 0x345), (0x1F64, 0x345), (0x1F65, 0x345),
      (0x1F66, 0x345), (0x1F67, 0x345), (0x1F68, 0x345), (0x1F69, 0x345), (0x1F6A, 0x345),
      (0x1F6B, 0x345), (0x1F6C, 0x345), (0x1F6D, 0x345), (0x1F6E, 0x345), (0x1F6F, 0x345),
      (0x3B1, 0x306), (0x3B1, 0x304), (0x1F70, 0x345), (0x3B1, 0x345), (0x3AC, 0x345)]), (0x1FB6,
      [(0x3B1, 0x342), (0x1FB6, 0x345), (0x391, 0x306), (0x391, 0x304), (0x391, 0x300)]), (0x1FBC,
      [(0x391, 0x345)]), (0x1FC1, [(0xA8, 0x342), (0x1F74, 0x345), (0x3B7, 0x345),
      (0x3AE, 0x345)]), (0x1FC6, [(0x3B7, 0x342), (0x1FC6, 0x345), (0x395, 0x300)]), (0x1FCA,
      [(0x397, 0x300)]), (0x1FCC, [(0x397, 0x345), (0x1FBF, 0x300), (0x1FBF, 0x301),
      (0x1FBF, 0x342), (0x3B9, 0x306), (0x3B9, 0x304), (0x3CA, 0x300)]), (0x1FD6, [(0x3B9, 0x342),
      (0x3CA, 0x342), (0x399, 0x306), (0x399, 0x304), (0x399, 0x300)]), (0x1FDD, [(0x1FFE, 0x300),
      (0x1FFE, 0x301), (0x1FFE, 0x342), (0x3C5, 0x306), (0x3C5, 0x304), (0x3CB, 0x300)]), (0x1FE4,
      [(0x3C1, 0x313), (0x3C1, 0x314), (0x3C5, 0x342), (0x3CB, 0x342), (0x3A5, 0x306),
      (0x3A5, 0x304), (0x3A5, 0x300)]), (0x1FEC, [(0x3A1, 0x314), (0xA8, 0x300)]), (0x1FF2,
      [(0x1F7C, 0x345), (0x3C9, 0x345), (0x3CE, 0x345)]), (0x1FF6, [(0x3C9, 0x342),
      (0x1FF6, 0x345), (0x39F, 0x300)]), (0x1FFA, [(0x3A9, 0x300)]), (0x1FFC, [(0x3A9, 0x345)]),
    (0x219A, [(0x2190, 0x338), (0x2192, 0x338)]), (0x21AE, [(0x2194, 0x338)]), (0x21CD,
      [(0x21D0, 0x338), (0x21D4, 0x338), (0x21D2, 0x338)]), (0x2204, [(0x2203, 0x338)]), (0x2209,
      [(0x2208, 0x338)]), (0x220C, [(0x220B, 0x338)]), (0x2224, [(0x2223, 0x338)]), (0x2226,
      [(0x2225, 0x338)]), (0x2241, [(0x223C, 0x338)]), (0x2244, [(0x2243, 0x338)]), (0x2247,
      [(0x2245, 0x338)]), (0x2249, [(0x2248, 0x338)]), (0x2260, [(0x3D, 0x338)]), (0x2262,
      [(0x2261, 0x338)]), (0x226D, [(0x224D, 0x338), (0x3C, 0x338), (0x3E, 0x338),
      (0x2264, 0x338), (0x2265, 0x338)]), (0x2274, [(0x2272, 0x338), (0x2273, 0x338)]), (0x2278,
      [(0x2276, 0x338), (0x2277, 0x338)]), (0x2280, [(0x227A, 0x338), (0x227B, 0x338)]), (0x2284,
      [(0x2282, 0x338), (0x2283, 0x338)]), (0x2288, [(0x2286, 0x338), (0x2287, 0x338)]), (0x22AC,
      [(0x22A2, 0x338), (0x22A8, 0x338), (0x22A9, 0x338), (0x22AB, 0x338)]), (0x22E0,
      [(0x227C, 0x338), (0x227D, 0x338), (0x2291, 0x338), (0x2292, 0x338)]), (0x22EA,
      [(0x22B2, 0x338), (0x22B3, 0x338), (0x22B4, 0x338), (0x22B5, 0x338)]), (0x304C,
      [(0x304B, 0x3099)]), (0x304E, [(0x304D, 0x3099)]), (0x3050, [(0x304F, 0x3099)]), (0x3052,
      [(0x3051, 0x3099)]), (0x3054, [(0x3053, 0x3099)]), (0x3056, [(0x3055, 0x3099)]), (0x3058,
      [(0x3057, 0x3099)]), (0x305A, [(0x3059, 0x3099)]), (0x305C, [(0x305B, 0x3099)]), (0x305E,
      [(0x305D, 0x3099)]), (0x3060, [(0x305F, 0x3099)]), (0x3062, [(0x3061, 0x3099)]), (0x3065,
      [(0x3064, 0x3099)]), (0x3067, [(0x3066, 0x3099)]), (0x3069, [(0x3068, 0x3099)]), (0x3070,
      [(0x306F, 0x3099), (0x306F, 0x309A)]), (0x3073, [(0x3072, 0x3099), (0x3072, 0x309A)]),
    (0x3076, [(0x3075, 0x3099), (0x3075, 0x309A)]), (0x3079, [(0x3078, 0x3099),
      (0x3078, 0x309A)]), (0x307C, [(0x307B, 0x3099), (0x307B, 0x309A)]), (0x3094,
      [(0x3046, 0x3099)]), (0x309E, [(0x309D, 0x3099)]), (0x30AC, [(0x30AB, 0x3099)]), (0x30AE,
      [(0x30AD, 0x3099)]), (0x30B0, [(0x30AF, 0x3099)]), (0x30B2, [(0x30B1, 0x3099)]), (0x30B4,
      [(0x30B3, 0x3099)]), (0x30B6, [(0x30B5, 0x3099)]), (0x30B8, [(0x30B7, 0x3099)]), (0x30BA,
      [(0x30B9, 0x3099)]), (0x30BC, [(0x30BB, 0x3099)]), (0x30BE, [(0x30BD, 0x3099)]), (0x30C0,
      [(0x30BF, 0x3099)]), (0x30C2, [(0x30C1, 0x3099)]), (0x30C5, [(0x30C4, 0x3099)]), (0x30C7,
      [(0x30C6, 0x3099)]), (0x30C9, [(0x30C8, 0x3099)]), (0x30D0, [(0x30CF, 0x3099),
      (0x30CF, 0x309A)]), (0x30D3, [(0x30D2, 0x3099), (0x30D2, 0x309A)]), (0x30D6,
      [(0x30D5, 0x3099), (0x30D5, 0x309A)]), (0x30D9, [(0x30D8, 0x3099), (0x30D8, 0x309A)]),
    (0x30DC, [(0x30DB, 0x3099), (0x30DB, 0x309A)]), (0x30F4, [(0x30A6, 0x3099)]), (0x30F7,
      [(0x30EF, 0x3099), (0x30F0, 0x3099), (0x30F1, 0x3099), (0x30F2, 0x3099)]), (0x30FE,
      [(0x30FD, 0x3099)]), (0x105C9, [(0x105D2, 0x307)]), (0x105E4, [(0x105DA, 0x307)]), (0x1109A,
      [(0x11099, 0x110BA)]), (0x1109C, [(0x1109B, 0x110BA)]), (0x110AB, [(0x110A5, 0x110BA)]),
    (0x1112E, [(0x11131, 0x11127), (0x11132, 0x11127)]), (0x1134B, [(0x11347, 0x1133E),
      (0x11347, 0x11357)]), (0x11383, [(0x11382, 0x113C9)]), (0x11385, [(0x11384, 0x113BB)]),
    (0x1138E, [(0x1138B, 0x113C2)]), (0x11391, [(0x11390, 0x113C9)]), (0x113C5,
      [(0x113C2, 0x113C2)]), (0x113C7, [(0x113C2, 0x113B8), (0x113C2, 0x113C9)]), (0x114BB,
      [(0x114B9, 0x114BA), (0x114B9, 0x114B0)]), (0x114BE, [(0x114B9, 0x114BD)]), (0x115BA,
      [(0x115B8, 0x115AF), (0x115B9, 0x115AF)]), (0x11938, [(0x11935, 0x11930)]), (0x16121,
      [(0x1611E, 0x1611E), (0x1611E, 0x16129), (0x1611E, 0x1611F), (0x16129, 0x1611F),
      (0x1611E, 0x16120), (0x16121, 0x1611F), (0x16122, 0x1611F), (0x16121, 0x16120)]), (0x16D68,
      [(0x16D67, 0x16D67), (0x16D63, 0x16D67), (0x16D69, 0x16D67)])]

/-- The two characters that a character is composed of. -/
def pairOf? (c : Char) : Option (Char × Char) :=
  (rowOf? pairBlocks c).map fun p => (Char.ofNat p.1, Char.ofNat p.2)

/-- The character that is composed of two others. -/
def composed? (a b : Char) : Option Char :=
  pairBlocks.findSome? fun block =>
    (block.2.findIdx? (· == (a.toNat, b.toNat))).map fun i => Char.ofNat (block.1 + i)

end UpnpGateway.Text.Canonical
