import HttpReply.Text.Basic

/-!
# Single-byte code pages

In a code page each byte stands for one character or for none. The bytes below
0x80 are ASCII in all of them; the upper half is a table of 128 entries, given as
stretches of consecutive code points and of bytes that stand for nothing.
-/
namespace HttpReply

/-- The code pages, each named for its registered charset. -/
inductive CodePage
  | ibm866
  | iso8859_2
  | iso8859_3
  | iso8859_4
  | iso8859_5
  | iso8859_6
  | iso8859_7
  | iso8859_8
  | iso8859_8I
  | iso8859_10
  | iso8859_13
  | iso8859_14
  | iso8859_15
  | iso8859_16
  | koi8R
  | koi8U
  | macRoman
  | windows874
  | windows1250
  | windows1251
  | windows1252
  | windows1253
  | windows1254
  | windows1255
  | windows1256
  | windows1257
  | windows1258
  | macCyrillic
deriving DecidableEq, Repr

namespace CodePage

/-- Every code page, in the order of their declaration. -/
def all : List CodePage :=
  [.ibm866, .iso8859_2, .iso8859_3, .iso8859_4, .iso8859_5, .iso8859_6, .iso8859_7, .iso8859_8,
   .iso8859_8I, .iso8859_10, .iso8859_13, .iso8859_14, .iso8859_15, .iso8859_16, .koi8R, .koi8U,
   .macRoman, .windows874, .windows1250, .windows1251, .windows1252, .windows1253, .windows1254,
   .windows1255, .windows1256, .windows1257, .windows1258, .macCyrillic]

theorem mem_all (page : CodePage) : page ∈ all := by
  cases page <;> decide

/-- A stretch of consecutive bytes in the upper half of a code page. -/
inductive Run
  /-- The bytes stand for the code points from `first` to `last`. -/
  | span (first last : Nat)
  /-- The bytes, `count` of them, stand for nothing. -/
  | gap (count : Nat)

/-- A number alone is the stretch of one byte that stands for that code point. -/
instance (n : Nat) : OfNat Run n := ⟨.span n n⟩

/-- How many bytes a stretch covers. -/
def Run.width : Run → Nat
  | .span first last => last + 1 - first
  | .gap count => count

/-- What the bytes of a stretch stand for, in order. -/
def Run.entries : Run → List (Option Char)
  | .span first last => (List.range' first (last + 1 - first)).map fun n => some (Char.ofNat n)
  | .gap count => List.replicate count none

theorem Run.length_entries (run : Run) : run.entries.length = run.width := by
  cases run <;> simp [entries, width]

/-- The stretches of the upper half, in the order of the bytes from 0x80 on. -/
def upperRuns : CodePage → List Run
  | .ibm866 =>
    [.span 0x410 0x43F, .span 0x2591 0x2593, 0x2502, 0x2524, 0x2561, 0x2562, 0x2556, 0x2555,
     0x2563, 0x2551, 0x2557, 0x255D, 0x255C, 0x255B, 0x2510, 0x2514, 0x2534, 0x252C, 0x251C,
     0x2500, 0x253C, 0x255E, 0x255F, 0x255A, 0x2554, 0x2569, 0x2566, 0x2560, 0x2550, 0x256C,
     0x2567, 0x2568, 0x2564, 0x2565, 0x2559, 0x2558, 0x2552, 0x2553, 0x256B, 0x256A, 0x2518,
     0x250C, 0x2588, 0x2584, 0x258C, 0x2590, 0x2580, .span 0x440 0x44F, 0x401, 0x451, 0x404,
     0x454, 0x407, 0x457, 0x40E, 0x45E, 0xB0, 0x2219, 0xB7, 0x221A, 0x2116, 0xA4, 0x25A0, 0xA0]
  | .iso8859_2 =>
    [.span 0x80 0xA0, 0x104, 0x2D8, 0x141, 0xA4, 0x13D, 0x15A, 0xA7, 0xA8, 0x160, 0x15E, 0x164,
     0x179, 0xAD, 0x17D, 0x17B, 0xB0, 0x105, 0x2DB, 0x142, 0xB4, 0x13E, 0x15B, 0x2C7, 0xB8,
     0x161, 0x15F, 0x165, 0x17A, 0x2DD, 0x17E, 0x17C, 0x154, 0xC1, 0xC2, 0x102, 0xC4, 0x139,
     0x106, 0xC7, 0x10C, 0xC9, 0x118, 0xCB, 0x11A, 0xCD, 0xCE, 0x10E, 0x110, 0x143, 0x147, 0xD3,
     0xD4, 0x150, 0xD6, 0xD7, 0x158, 0x16E, 0xDA, 0x170, 0xDC, 0xDD, 0x162, 0xDF, 0x155, 0xE1,
     0xE2, 0x103, 0xE4, 0x13A, 0x107, 0xE7, 0x10D, 0xE9, 0x119, 0xEB, 0x11B, 0xED, 0xEE, 0x10F,
     0x111, 0x144, 0x148, 0xF3, 0xF4, 0x151, 0xF6, 0xF7, 0x159, 0x16F, 0xFA, 0x171, 0xFC, 0xFD,
     0x163, 0x2D9]
  | .iso8859_3 =>
    [.span 0x80 0xA0, 0x126, 0x2D8, 0xA3, 0xA4, .gap 1, 0x124, 0xA7, 0xA8, 0x130, 0x15E, 0x11E,
     0x134, 0xAD, .gap 1, 0x17B, 0xB0, 0x127, .span 0xB2 0xB5, 0x125, 0xB7, 0xB8, 0x131, 0x15F,
     0x11F, 0x135, 0xBD, .gap 1, 0x17C, .span 0xC0 0xC2, .gap 1, 0xC4, 0x10A, 0x108,
     .span 0xC7 0xCF, .gap 1, .span 0xD1 0xD4, 0x120, 0xD6, 0xD7, 0x11C, .span 0xD9 0xDC, 0x16C,
     0x15C, .span 0xDF 0xE2, .gap 1, 0xE4, 0x10B, 0x109, .span 0xE7 0xEF, .gap 1,
     .span 0xF1 0xF4, 0x121, 0xF6, 0xF7, 0x11D, .span 0xF9 0xFC, 0x16D, 0x15D, 0x2D9]
  | .iso8859_4 =>
    [.span 0x80 0xA0, 0x104, 0x138, 0x156, 0xA4, 0x128, 0x13B, 0xA7, 0xA8, 0x160, 0x112, 0x122,
     0x166, 0xAD, 0x17D, 0xAF, 0xB0, 0x105, 0x2DB, 0x157, 0xB4, 0x129, 0x13C, 0x2C7, 0xB8,
     0x161, 0x113, 0x123, 0x167, 0x14A, 0x17E, 0x14B, 0x100, .span 0xC1 0xC6, 0x12E, 0x10C,
     0xC9, 0x118, 0xCB, 0x116, 0xCD, 0xCE, 0x12A, 0x110, 0x145, 0x14C, 0x136, .span 0xD4 0xD8,
     0x172, .span 0xDA 0xDC, 0x168, 0x16A, 0xDF, 0x101, .span 0xE1 0xE6, 0x12F, 0x10D, 0xE9,
     0x119, 0xEB, 0x117, 0xED, 0xEE, 0x12B, 0x111, 0x146, 0x14D, 0x137, .span 0xF4 0xF8, 0x173,
     .span 0xFA 0xFC, 0x169, 0x16B, 0x2D9]
  | .iso8859_5 =>
    [.span 0x80 0xA0, .span 0x401 0x40C, 0xAD, .span 0x40E 0x44F, 0x2116, .span 0x451 0x45C,
     0xA7, 0x45E, 0x45F]
  | .iso8859_6 =>
    [.span 0x80 0xA0, .gap 3, 0xA4, .gap 7, 0x60C, 0xAD, .gap 13, 0x61B, .gap 3, 0x61F, .gap 1,
     .span 0x621 0x63A, .gap 5, .span 0x640 0x652, .gap 13]
  | .iso8859_7 =>
    [.span 0x80 0xA0, 0x2018, 0x2019, 0xA3, 0x20AC, 0x20AF, .span 0xA6 0xA9, 0x37A,
     .span 0xAB 0xAD, .gap 1, 0x2015, .span 0xB0 0xB3, .span 0x384 0x386, 0xB7,
     .span 0x388 0x38A, 0xBB, 0x38C, 0xBD, .span 0x38E 0x3A1, .gap 1, .span 0x3A3 0x3CE, .gap 1]
  | .iso8859_8 | .iso8859_8I =>
    [.span 0x80 0xA0, .gap 1, .span 0xA2 0xA9, 0xD7, .span 0xAB 0xB9, 0xF7, .span 0xBB 0xBE,
     .gap 32, 0x2017, .span 0x5D0 0x5EA, .gap 2, 0x200E, 0x200F, .gap 1]
  | .iso8859_10 =>
    [.span 0x80 0xA0, 0x104, 0x112, 0x122, 0x12A, 0x128, 0x136, 0xA7, 0x13B, 0x110, 0x160,
     0x166, 0x17D, 0xAD, 0x16A, 0x14A, 0xB0, 0x105, 0x113, 0x123, 0x12B, 0x129, 0x137, 0xB7,
     0x13C, 0x111, 0x161, 0x167, 0x17E, 0x2015, 0x16B, 0x14B, 0x100, .span 0xC1 0xC6, 0x12E,
     0x10C, 0xC9, 0x118, 0xCB, 0x116, .span 0xCD 0xD0, 0x145, 0x14C, .span 0xD3 0xD6, 0x168,
     0xD8, 0x172, .span 0xDA 0xDF, 0x101, .span 0xE1 0xE6, 0x12F, 0x10D, 0xE9, 0x119, 0xEB,
     0x117, .span 0xED 0xF0, 0x146, 0x14D, .span 0xF3 0xF6, 0x169, 0xF8, 0x173, .span 0xFA 0xFE,
     0x138]
  | .iso8859_13 =>
    [.span 0x80 0xA0, 0x201D, .span 0xA2 0xA4, 0x201E, 0xA6, 0xA7, 0xD8, 0xA9, 0x156,
     .span 0xAB 0xAE, 0xC6, .span 0xB0 0xB3, 0x201C, .span 0xB5 0xB7, 0xF8, 0xB9, 0x157,
     .span 0xBB 0xBE, 0xE6, 0x104, 0x12E, 0x100, 0x106, 0xC4, 0xC5, 0x118, 0x112, 0x10C, 0xC9,
     0x179, 0x116, 0x122, 0x136, 0x12A, 0x13B, 0x160, 0x143, 0x145, 0xD3, 0x14C,
     .span 0xD5 0xD7, 0x172, 0x141, 0x15A, 0x16A, 0xDC, 0x17B, 0x17D, 0xDF, 0x105, 0x12F, 0x101,
     0x107, 0xE4, 0xE5, 0x119, 0x113, 0x10D, 0xE9, 0x17A, 0x117, 0x123, 0x137, 0x12B, 0x13C,
     0x161, 0x144, 0x146, 0xF3, 0x14D, .span 0xF5 0xF7, 0x173, 0x142, 0x15B, 0x16B, 0xFC, 0x17C,
     0x17E, 0x2019]
  | .iso8859_14 =>
    [.span 0x80 0xA0, 0x1E02, 0x1E03, 0xA3, 0x10A, 0x10B, 0x1E0A, 0xA7, 0x1E80, 0xA9, 0x1E82,
     0x1E0B, 0x1EF2, 0xAD, 0xAE, 0x178, 0x1E1E, 0x1E1F, 0x120, 0x121, 0x1E40, 0x1E41, 0xB6,
     0x1E56, 0x1E81, 0x1E57, 0x1E83, 0x1E60, 0x1EF3, 0x1E84, 0x1E85, 0x1E61, .span 0xC0 0xCF,
     0x174, .span 0xD1 0xD6, 0x1E6A, .span 0xD8 0xDD, 0x176, .span 0xDF 0xEF, 0x175,
     .span 0xF1 0xF6, 0x1E6B, .span 0xF8 0xFD, 0x177, 0xFF]
  | .iso8859_15 =>
    [.span 0x80 0xA3, 0x20AC, 0xA5, 0x160, 0xA7, 0x161, .span 0xA9 0xB3, 0x17D, .span 0xB5 0xB7,
     0x17E, .span 0xB9 0xBB, 0x152, 0x153, 0x178, .span 0xBF 0xFF]
  | .iso8859_16 =>
    [.span 0x80 0xA0, 0x104, 0x105, 0x141, 0x20AC, 0x201E, 0x160, 0xA7, 0x161, 0xA9, 0x218,
     0xAB, 0x179, 0xAD, 0x17A, 0x17B, 0xB0, 0xB1, 0x10C, 0x142, 0x17D, 0x201D, 0xB6, 0xB7,
     0x17E, 0x10D, 0x219, 0xBB, 0x152, 0x153, 0x178, 0x17C, .span 0xC0 0xC2, 0x102, 0xC4, 0x106,
     .span 0xC6 0xCF, 0x110, 0x143, .span 0xD2 0xD4, 0x150, 0xD6, 0x15A, 0x170, .span 0xD9 0xDC,
     0x118, 0x21A, .span 0xDF 0xE2, 0x103, 0xE4, 0x107, .span 0xE6 0xEF, 0x111, 0x144,
     .span 0xF2 0xF4, 0x151, 0xF6, 0x15B, 0x171, .span 0xF9 0xFC, 0x119, 0x21B, 0xFF]
  | .koi8R =>
    [0x2500, 0x2502, 0x250C, 0x2510, 0x2514, 0x2518, 0x251C, 0x2524, 0x252C, 0x2534, 0x253C,
     0x2580, 0x2584, 0x2588, 0x258C, .span 0x2590 0x2593, 0x2320, 0x25A0, 0x2219, 0x221A,
     0x2248, 0x2264, 0x2265, 0xA0, 0x2321, 0xB0, 0xB2, 0xB7, 0xF7, .span 0x2550 0x2552, 0x451,
     .span 0x2553 0x2561, 0x401, .span 0x2562 0x256C, 0xA9, 0x44E, 0x430, 0x431, 0x446, 0x434,
     0x435, 0x444, 0x433, 0x445, .span 0x438 0x43F, 0x44F, .span 0x440 0x443, 0x436, 0x432,
     0x44C, 0x44B, 0x437, 0x448, 0x44D, 0x449, 0x447, 0x44A, 0x42E, 0x410, 0x411, 0x426, 0x414,
     0x415, 0x424, 0x413, 0x425, .span 0x418 0x41F, 0x42F, .span 0x420 0x423, 0x416, 0x412,
     0x42C, 0x42B, 0x417, 0x428, 0x42D, 0x429, 0x427, 0x42A]
  | .koi8U =>
    [0x2500, 0x2502, 0x250C, 0x2510, 0x2514, 0x2518, 0x251C, 0x2524, 0x252C, 0x2534, 0x253C,
     0x2580, 0x2584, 0x2588, 0x258C, .span 0x2590 0x2593, 0x2320, 0x25A0, 0x2219, 0x221A,
     0x2248, 0x2264, 0x2265, 0xA0, 0x2321, 0xB0, 0xB2, 0xB7, 0xF7, .span 0x2550 0x2552, 0x451,
     0x454, 0x2554, 0x456, 0x457, .span 0x2557 0x255B, 0x491, 0x45E, .span 0x255E 0x2561, 0x401,
     0x404, 0x2563, 0x406, 0x407, .span 0x2566 0x256A, 0x490, 0x40E, 0xA9, 0x44E, 0x430, 0x431,
     0x446, 0x434, 0x435, 0x444, 0x433, 0x445, .span 0x438 0x43F, 0x44F, .span 0x440 0x443,
     0x436, 0x432, 0x44C, 0x44B, 0x437, 0x448, 0x44D, 0x449, 0x447, 0x44A, 0x42E, 0x410, 0x411,
     0x426, 0x414, 0x415, 0x424, 0x413, 0x425, .span 0x418 0x41F, 0x42F, .span 0x420 0x423,
     0x416, 0x412, 0x42C, 0x42B, 0x417, 0x428, 0x42D, 0x429, 0x427, 0x42A]
  | .macRoman =>
    [0xC4, 0xC5, 0xC7, 0xC9, 0xD1, 0xD6, 0xDC, 0xE1, 0xE0, 0xE2, 0xE4, 0xE3, 0xE5, 0xE7, 0xE9,
     0xE8, 0xEA, 0xEB, 0xED, 0xEC, 0xEE, 0xEF, 0xF1, 0xF3, 0xF2, 0xF4, 0xF6, 0xF5, 0xFA, 0xF9,
     0xFB, 0xFC, 0x2020, 0xB0, 0xA2, 0xA3, 0xA7, 0x2022, 0xB6, 0xDF, 0xAE, 0xA9, 0x2122, 0xB4,
     0xA8, 0x2260, 0xC6, 0xD8, 0x221E, 0xB1, 0x2264, 0x2265, 0xA5, 0xB5, 0x2202, 0x2211, 0x220F,
     0x3C0, 0x222B, 0xAA, 0xBA, 0x3A9, 0xE6, 0xF8, 0xBF, 0xA1, 0xAC, 0x221A, 0x192, 0x2248,
     0x2206, 0xAB, 0xBB, 0x2026, 0xA0, 0xC0, 0xC3, 0xD5, 0x152, 0x153, 0x2013, 0x2014, 0x201C,
     0x201D, 0x2018, 0x2019, 0xF7, 0x25CA, 0xFF, 0x178, 0x2044, 0x20AC, 0x2039, 0x203A, 0xFB01,
     0xFB02, 0x2021, 0xB7, 0x201A, 0x201E, 0x2030, 0xC2, 0xCA, 0xC1, 0xCB, 0xC8,
     .span 0xCD 0xCF, 0xCC, 0xD3, 0xD4, 0xF8FF, 0xD2, 0xDA, 0xDB, 0xD9, 0x131, 0x2C6, 0x2DC,
     0xAF, .span 0x2D8 0x2DA, 0xB8, 0x2DD, 0x2DB, 0x2C7]
  | .windows874 =>
    [0x20AC, .span 0x81 0x84, 0x2026, .span 0x86 0x90, 0x2018, 0x2019, 0x201C, 0x201D, 0x2022,
     0x2013, 0x2014, .span 0x98 0xA0, .span 0xE01 0xE3A, .gap 4, .span 0xE3F 0xE5B, .gap 4]
  | .windows1250 =>
    [0x20AC, 0x81, 0x201A, 0x83, 0x201E, 0x2026, 0x2020, 0x2021, 0x88, 0x2030, 0x160, 0x2039,
     0x15A, 0x164, 0x17D, 0x179, 0x90, 0x2018, 0x2019, 0x201C, 0x201D, 0x2022, 0x2013, 0x2014,
     0x98, 0x2122, 0x161, 0x203A, 0x15B, 0x165, 0x17E, 0x17A, 0xA0, 0x2C7, 0x2D8, 0x141, 0xA4,
     0x104, .span 0xA6 0xA9, 0x15E, .span 0xAB 0xAE, 0x17B, 0xB0, 0xB1, 0x2DB, 0x142,
     .span 0xB4 0xB8, 0x105, 0x15F, 0xBB, 0x13D, 0x2DD, 0x13E, 0x17C, 0x154, 0xC1, 0xC2, 0x102,
     0xC4, 0x139, 0x106, 0xC7, 0x10C, 0xC9, 0x118, 0xCB, 0x11A, 0xCD, 0xCE, 0x10E, 0x110, 0x143,
     0x147, 0xD3, 0xD4, 0x150, 0xD6, 0xD7, 0x158, 0x16E, 0xDA, 0x170, 0xDC, 0xDD, 0x162, 0xDF,
     0x155, 0xE1, 0xE2, 0x103, 0xE4, 0x13A, 0x107, 0xE7, 0x10D, 0xE9, 0x119, 0xEB, 0x11B, 0xED,
     0xEE, 0x10F, 0x111, 0x144, 0x148, 0xF3, 0xF4, 0x151, 0xF6, 0xF7, 0x159, 0x16F, 0xFA, 0x171,
     0xFC, 0xFD, 0x163, 0x2D9]
  | .windows1251 =>
    [0x402, 0x403, 0x201A, 0x453, 0x201E, 0x2026, 0x2020, 0x2021, 0x20AC, 0x2030, 0x409, 0x2039,
     0x40A, 0x40C, 0x40B, 0x40F, 0x452, 0x2018, 0x2019, 0x201C, 0x201D, 0x2022, 0x2013, 0x2014,
     0x98, 0x2122, 0x459, 0x203A, 0x45A, 0x45C, 0x45B, 0x45F, 0xA0, 0x40E, 0x45E, 0x408, 0xA4,
     0x490, 0xA6, 0xA7, 0x401, 0xA9, 0x404, .span 0xAB 0xAE, 0x407, 0xB0, 0xB1, 0x406, 0x456,
     0x491, .span 0xB5 0xB7, 0x451, 0x2116, 0x454, 0xBB, 0x458, 0x405, 0x455, 0x457,
     .span 0x410 0x44F]
  | .windows1252 =>
    [0x20AC, 0x81, 0x201A, 0x192, 0x201E, 0x2026, 0x2020, 0x2021, 0x2C6, 0x2030, 0x160, 0x2039,
     0x152, 0x8D, 0x17D, 0x8F, 0x90, 0x2018, 0x2019, 0x201C, 0x201D, 0x2022, 0x2013, 0x2014,
     0x2DC, 0x2122, 0x161, 0x203A, 0x153, 0x9D, 0x17E, 0x178, .span 0xA0 0xFF]
  | .windows1253 =>
    [0x20AC, 0x81, 0x201A, 0x192, 0x201E, 0x2026, 0x2020, 0x2021, 0x88, 0x2030, 0x8A, 0x2039,
     .span 0x8C 0x90, 0x2018, 0x2019, 0x201C, 0x201D, 0x2022, 0x2013, 0x2014, 0x98, 0x2122,
     0x9A, 0x203A, .span 0x9C 0xA0, 0x385, 0x386, .span 0xA3 0xA9, .gap 1, .span 0xAB 0xAE,
     0x2015, .span 0xB0 0xB3, 0x384, .span 0xB5 0xB7, .span 0x388 0x38A, 0xBB, 0x38C, 0xBD,
     .span 0x38E 0x3A1, .gap 1, .span 0x3A3 0x3CE, .gap 1]
  | .windows1254 =>
    [0x20AC, 0x81, 0x201A, 0x192, 0x201E, 0x2026, 0x2020, 0x2021, 0x2C6, 0x2030, 0x160, 0x2039,
     0x152, .span 0x8D 0x90, 0x2018, 0x2019, 0x201C, 0x201D, 0x2022, 0x2013, 0x2014, 0x2DC,
     0x2122, 0x161, 0x203A, 0x153, 0x9D, 0x9E, 0x178, .span 0xA0 0xCF, 0x11E, .span 0xD1 0xDC,
     0x130, 0x15E, .span 0xDF 0xEF, 0x11F, .span 0xF1 0xFC, 0x131, 0x15F, 0xFF]
  | .windows1255 =>
    [0x20AC, 0x81, 0x201A, 0x192, 0x201E, 0x2026, 0x2020, 0x2021, 0x2C6, 0x2030, 0x8A, 0x2039,
     .span 0x8C 0x90, 0x2018, 0x2019, 0x201C, 0x201D, 0x2022, 0x2013, 0x2014, 0x2DC, 0x2122,
     0x9A, 0x203A, .span 0x9C 0xA3, 0x20AA, .span 0xA5 0xA9, 0xD7, .span 0xAB 0xB9, 0xF7,
     .span 0xBB 0xBF, .span 0x5B0 0x5C3, .span 0x5F0 0x5F4, .gap 7, .span 0x5D0 0x5EA, .gap 2,
     0x200E, 0x200F, .gap 1]
  | .windows1256 =>
    [0x20AC, 0x67E, 0x201A, 0x192, 0x201E, 0x2026, 0x2020, 0x2021, 0x2C6, 0x2030, 0x679, 0x2039,
     0x152, 0x686, 0x698, 0x688, 0x6AF, 0x2018, 0x2019, 0x201C, 0x201D, 0x2022, 0x2013, 0x2014,
     0x6A9, 0x2122, 0x691, 0x203A, 0x153, 0x200C, 0x200D, 0x6BA, 0xA0, 0x60C, .span 0xA2 0xA9,
     0x6BE, .span 0xAB 0xB9, 0x61B, .span 0xBB 0xBE, 0x61F, 0x6C1, .span 0x621 0x636, 0xD7,
     .span 0x637 0x63A, .span 0x640 0x643, 0xE0, 0x644, 0xE2, .span 0x645 0x648,
     .span 0xE7 0xEB, 0x649, 0x64A, 0xEE, 0xEF, .span 0x64B 0x64E, 0xF4, 0x64F, 0x650, 0xF7,
     0x651, 0xF9, 0x652, 0xFB, 0xFC, 0x200E, 0x200F, 0x6D2]
  | .windows1257 =>
    [0x20AC, 0x81, 0x201A, 0x83, 0x201E, 0x2026, 0x2020, 0x2021, 0x88, 0x2030, 0x8A, 0x2039,
     0x8C, 0xA8, 0x2C7, 0xB8, 0x90, 0x2018, 0x2019, 0x201C, 0x201D, 0x2022, 0x2013, 0x2014,
     0x98, 0x2122, 0x9A, 0x203A, 0x9C, 0xAF, 0x2DB, 0x9F, 0xA0, .gap 1, .span 0xA2 0xA4, .gap 1,
     0xA6, 0xA7, 0xD8, 0xA9, 0x156, .span 0xAB 0xAE, 0xC6, .span 0xB0 0xB7, 0xF8, 0xB9, 0x157,
     .span 0xBB 0xBE, 0xE6, 0x104, 0x12E, 0x100, 0x106, 0xC4, 0xC5, 0x118, 0x112, 0x10C, 0xC9,
     0x179, 0x116, 0x122, 0x136, 0x12A, 0x13B, 0x160, 0x143, 0x145, 0xD3, 0x14C,
     .span 0xD5 0xD7, 0x172, 0x141, 0x15A, 0x16A, 0xDC, 0x17B, 0x17D, 0xDF, 0x105, 0x12F, 0x101,
     0x107, 0xE4, 0xE5, 0x119, 0x113, 0x10D, 0xE9, 0x17A, 0x117, 0x123, 0x137, 0x12B, 0x13C,
     0x161, 0x144, 0x146, 0xF3, 0x14D, .span 0xF5 0xF7, 0x173, 0x142, 0x15B, 0x16B, 0xFC, 0x17C,
     0x17E, 0x2D9]
  | .windows1258 =>
    [0x20AC, 0x81, 0x201A, 0x192, 0x201E, 0x2026, 0x2020, 0x2021, 0x2C6, 0x2030, 0x8A, 0x2039,
     0x152, .span 0x8D 0x90, 0x2018, 0x2019, 0x201C, 0x201D, 0x2022, 0x2013, 0x2014, 0x2DC,
     0x2122, 0x9A, 0x203A, 0x153, 0x9D, 0x9E, 0x178, .span 0xA0 0xC2, 0x102, .span 0xC4 0xCB,
     0x300, .span 0xCD 0xCF, 0x110, 0xD1, 0x309, 0xD3, 0xD4, 0x1A0, .span 0xD6 0xDC, 0x1AF,
     0x303, .span 0xDF 0xE2, 0x103, .span 0xE4 0xEB, 0x301, .span 0xED 0xEF, 0x111, 0xF1, 0x323,
     0xF3, 0xF4, 0x1A1, .span 0xF6 0xFC, 0x1B0, 0x20AB, 0xFF]
  | .macCyrillic =>
    [.span 0x410 0x42F, 0x2020, 0xB0, 0x490, 0xA3, 0xA7, 0x2022, 0xB6, 0x406, 0xAE, 0xA9,
     0x2122, 0x402, 0x452, 0x2260, 0x403, 0x453, 0x221E, 0xB1, 0x2264, 0x2265, 0x456, 0xB5,
     0x491, 0x408, 0x404, 0x454, 0x407, 0x457, 0x409, 0x459, 0x40A, 0x45A, 0x458, 0x405, 0xAC,
     0x221A, 0x192, 0x2248, 0x2206, 0xAB, 0xBB, 0x2026, 0xA0, 0x40B, 0x45B, 0x40C, 0x45C, 0x455,
     0x2013, 0x2014, 0x201C, 0x201D, 0x2018, 0x2019, 0xF7, 0x201E, 0x40E, 0x45E, 0x40F, 0x45F,
     0x2116, 0x401, 0x451, 0x44F, .span 0x430 0x44E, 0x20AC]

/-- What the bytes from 0x80 to 0xFF stand for, in order. -/
def upperHalf (page : CodePage) : List (Option Char) := page.upperRuns.flatMap Run.entries

theorem length_upperHalf (page : CodePage) : page.upperHalf.length = 128 := by
  have widths : (page.upperRuns.map Run.width).sum = 128 := by cases page <;> decide +kernel
  simpa [upperHalf, List.length_flatMap, Run.length_entries] using widths

/-- The character that a byte stands for, if there is one. -/
def char? (page : CodePage) (b : UInt8) : Option Char :=
  if b < 0x80 then some (Char.ofNat b.toNat) else page.upperHalf[b.toNat - 0x80]?.join

/-- The first byte that stands for a character, if there is one. -/
def byte? (page : CodePage) (c : Char) : Option UInt8 :=
  if c.toNat < 0x80 then some (UInt8.ofNat c.toNat)
  else (page.upperHalf.idxOf? (some c)).map fun i => UInt8.ofNat (0x80 + i)

end CodePage

end HttpReply
