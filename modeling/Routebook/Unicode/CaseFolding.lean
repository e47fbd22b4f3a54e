import Routebook.Unicode.CharSet

/-!
# Simple case folding

Characters that fold to the same character are spellings of one letter. Nearly all such letters
have two spellings; the pairs come in runs, and the few letters with more are listed.

* `pairRuns`, `wideGroups` : the letters with two spellings and with more;
* `spellings` : the other spellings of a character;
* `CharSet.fold` : the set closed under a change of spelling.
-/

namespace Routebook.Unicode

/-- Runs of pairs: the pairs `(first + k * step, first + k * step + gap)` for `k < count`, written
`(first, gap, count, step)`. -/
def pairRuns : List (Nat × Nat × Nat × Nat) :=
  [(0x41, 32, 10, 1), (0x4c, 32, 7, 1), (0x54, 32, 7, 1), (0xc0, 32, 5, 1), (0xc6, 32, 17, 1),
   (0xd8, 32, 7, 1), (0xdf, 7615, 1, 1), (0xff, 121, 1, 1), (0x100, 1, 24, 2), (0x132, 1, 3, 2),
   (0x139, 1, 8, 2), (0x14a, 1, 23, 2), (0x179, 1, 3, 2), (0x180, 195, 1, 1), (0x181, 210, 1, 1),
   (0x182, 1, 2, 2), (0x186, 206, 1, 1), (0x187, 1, 1, 1), (0x189, 205, 2, 1), (0x18b, 1, 1, 1),
   (0x18e, 79, 1, 1), (0x18f, 202, 1, 1), (0x190, 203, 1, 1), (0x191, 1, 1, 1), (0x193, 205, 1, 1),
   (0x194, 207, 1, 1), (0x195, 97, 1, 1), (0x196, 211, 1, 1), (0x197, 209, 1, 1), (0x198, 1, 1, 1),
   (0x19a, 163, 1, 1), (0x19c, 211, 1, 1), (0x19d, 213, 1, 1), (0x19e, 130, 1, 1),
   (0x19f, 214, 1, 1), (0x1a0, 1, 3, 2), (0x1a6, 218, 1, 1), (0x1a7, 1, 1, 1), (0x1a9, 218, 1, 1),
   (0x1ac, 1, 1, 1), (0x1ae, 218, 1, 1), (0x1af, 1, 1, 1), (0x1b1, 217, 2, 1), (0x1b3, 1, 2, 2),
   (0x1b7, 219, 1, 1), (0x1b8, 1, 1, 1), (0x1bc, 1, 1, 1), (0x1bf, 56, 1, 1), (0x1cd, 1, 8, 2),
   (0x1de, 1, 9, 2), (0x1f4, 1, 1, 1), (0x1f8, 1, 20, 2), (0x222, 1, 9, 2), (0x23a, 10795, 1, 1),
   (0x23b, 1, 1, 1), (0x23e, 10792, 1, 1), (0x23f, 10815, 2, 1), (0x241, 1, 1, 1),
   (0x244, 69, 1, 1), (0x245, 71, 1, 1), (0x246, 1, 5, 2), (0x250, 10783, 1, 1),
   (0x251, 10780, 1, 1), (0x252, 10782, 1, 1), (0x25c, 42319, 1, 1), (0x261, 42315, 1, 1),
   (0x265, 42280, 1, 1), (0x266, 42308, 1, 1), (0x26a, 42308, 1, 1), (0x26b, 10743, 1, 1),
   (0x26c, 42305, 1, 1), (0x271, 10749, 1, 1), (0x27d, 10727, 1, 1), (0x282, 42307, 1, 1),
   (0x287, 42282, 1, 1), (0x29d, 42261, 1, 1), (0x29e, 42258, 1, 1), (0x370, 1, 2, 2),
   (0x376, 1, 1, 1), (0x37b, 130, 3, 1), (0x37f, 116, 1, 1), (0x386, 38, 1, 1), (0x388, 37, 3, 1),
   (0x38c, 64, 1, 1), (0x38e, 63, 2, 1), (0x390, 7235, 1, 1), (0x391, 32, 2, 2), (0x394, 32, 2, 2),
   (0x397, 32, 1, 1), (0x39b, 32, 2, 2), (0x39e, 32, 2, 1), (0x3a4, 32, 2, 1), (0x3a7, 32, 2, 1),
   (0x3aa, 32, 2, 1), (0x3b0, 7219, 1, 1), (0x3cf, 8, 1, 1), (0x3d8, 1, 12, 2), (0x3f2, 7, 1, 1),
   (0x3f7, 1, 1, 1), (0x3fa, 1, 1, 1), (0x400, 80, 16, 1), (0x410, 32, 2, 1), (0x413, 32, 2, 2),
   (0x416, 32, 8, 1), (0x41f, 32, 2, 1), (0x423, 32, 7, 1), (0x42b, 32, 5, 1), (0x460, 1, 1, 1),
   (0x464, 1, 15, 2), (0x48a, 1, 27, 2), (0x4c0, 15, 1, 1), (0x4c1, 1, 7, 2), (0x4d0, 1, 48, 2),
   (0x531, 48, 38, 1), (0x10a0, 7264, 38, 1), (0x10c7, 7264, 1, 1), (0x10cd, 7264, 1, 1),
   (0x10d0, 3008, 43, 1), (0x10fd, 3008, 3, 1), (0x13a0, 38864, 80, 1), (0x13f0, 8, 6, 1),
   (0x1d79, 35332, 1, 1), (0x1d7d, 3814, 1, 1), (0x1d8e, 35384, 1, 1), (0x1e00, 1, 48, 2),
   (0x1e62, 1, 26, 2), (0x1ea0, 1, 48, 2), (0x1f00, 8, 8, 1), (0x1f10, 8, 6, 1), (0x1f20, 8, 8, 1),
   (0x1f30, 8, 8, 1), (0x1f40, 8, 6, 1), (0x1f51, 8, 4, 2), (0x1f60, 8, 8, 1), (0x1f70, 74, 2, 1),
   (0x1f72, 86, 4, 1), (0x1f76, 100, 2, 1), (0x1f78, 128, 2, 1), (0x1f7a, 112, 2, 1),
   (0x1f7c, 126, 2, 1), (0x1f80, 8, 8, 1), (0x1f90, 8, 8, 1), (0x1fa0, 8, 8, 1), (0x1fb0, 8, 2, 1),
   (0x1fb3, 9, 1, 1), (0x1fc3, 9, 1, 1), (0x1fd0, 8, 2, 1), (0x1fe0, 8, 2, 1), (0x1fe5, 7, 1, 1),
   (0x1ff3, 9, 1, 1), (0x2132, 28, 1, 1), (0x2160, 16, 16, 1), (0x2183, 1, 1, 1),
   (0x24b6, 26, 26, 1), (0x2c00, 48, 48, 1), (0x2c60, 1, 1, 1), (0x2c67, 1, 3, 2),
   (0x2c72, 1, 1, 1), (0x2c75, 1, 1, 1), (0x2c80, 1, 50, 2), (0x2ceb, 1, 2, 2), (0x2cf2, 1, 1, 1),
   (0xa640, 1, 5, 2), (0xa64c, 1, 17, 2), (0xa680, 1, 14, 2), (0xa722, 1, 7, 2),
   (0xa732, 1, 31, 2), (0xa779, 1, 2, 2), (0xa77e, 1, 5, 2), (0xa78b, 1, 1, 1), (0xa790, 1, 2, 2),
   (0xa794, 48, 1, 1), (0xa796, 1, 10, 2), (0xa7b3, 928, 1, 1), (0xa7b4, 1, 8, 2),
   (0xa7c7, 1, 2, 2), (0xa7d0, 1, 1, 1), (0xa7d6, 1, 2, 2), (0xa7f5, 1, 1, 1), (0xfb05, 1, 1, 1),
   (0xff21, 32, 26, 1), (0x10400, 40, 40, 1), (0x104b0, 40, 36, 1), (0x10570, 39, 11, 1),
   (0x1057c, 39, 15, 1), (0x1058c, 39, 7, 1), (0x10594, 39, 2, 1), (0x10c80, 64, 51, 1),
   (0x118a0, 32, 32, 1), (0x16e40, 32, 32, 1), (0x1e900, 34, 34, 1)]

/-- The letters with three or four spellings. -/
def wideGroups : List (List Nat) :=
  [[0x4b, 0x6b, 0x212a], [0x53, 0x73, 0x17f], [0xb5, 0x39c, 0x3bc], [0xc5, 0xe5, 0x212b],
   [0x1c4, 0x1c5, 0x1c6], [0x1c7, 0x1c8, 0x1c9], [0x1ca, 0x1cb, 0x1cc], [0x1f1, 0x1f2, 0x1f3],
   [0x345, 0x399, 0x3b9, 0x1fbe], [0x392, 0x3b2, 0x3d0], [0x395, 0x3b5, 0x3f5],
   [0x398, 0x3b8, 0x3d1, 0x3f4], [0x39a, 0x3ba, 0x3f0], [0x3a0, 0x3c0, 0x3d6],
   [0x3a1, 0x3c1, 0x3f1], [0x3a3, 0x3c2, 0x3c3], [0x3a6, 0x3c6, 0x3d5], [0x3a9, 0x3c9, 0x2126],
   [0x412, 0x432, 0x1c80], [0x414, 0x434, 0x1c81], [0x41e, 0x43e, 0x1c82], [0x421, 0x441, 0x1c83],
   [0x422, 0x442, 0x1c84, 0x1c85], [0x42a, 0x44a, 0x1c86], [0x462, 0x463, 0x1c87],
   [0x1c88, 0xa64a, 0xa64b], [0x1e60, 0x1e61, 0x1e9b]]

/-- The partner of a code point in a run of pairs. -/
def partner? (c : Nat) (run : Nat × Nat × Nat × Nat) : Option Nat :=
  let (first, gap, count, step) := run
  let place (x : Nat) : Bool := first ≤ x && (x - first) % step == 0 && (x - first) / step < count
  if place c then some (c + gap)
  else if gap ≤ c && place (c - gap) then some (c - gap)
  else none

/-- The other spellings of a code point; nothing below `A` has any. -/
def spellings (c : Nat) : List Nat :=
  if c < 0x41 then []
  else pairRuns.filterMap (partner? c) ++ wideGroups.flatMap fun g => if g.contains c then g.erase c else []

def pairsOf (run : Nat × Nat × Nat × Nat) : List (List Nat) :=
  let (first, gap, count, step) := run
  (List.range count).map fun k => [first + k * step, first + k * step + gap]

def letterGroups : List (List Nat) :=
  pairRuns.flatMap pairsOf ++ wideGroups

/-- The set closed under a change of spelling. -/
def CharSet.fold (s : CharSet) : CharSet :=
  letterGroups.foldl (fun t g =>
    if g.any s.contains then
      g.foldl (fun t c => if t.contains c then t else t.insert c c) t
    else t) s

end Routebook.Unicode
