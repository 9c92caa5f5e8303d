import PegEngine.Unicode.RangeMap

/-!
# Whitespace code points

The property White_Space of version 17 of the standard.
-/

namespace PegEngine

namespace Unicode

/-- The whitespace code points, as closed ranges in ascending order. -/
def whitespaceRanges : List (Nat × Nat) :=
  [
    (0x9, 0xD), (0x20, 0x20), (0x85, 0x85), (0xA0, 0xA0), (0x1680, 0x1680),
    (0x2000, 0x200A), (0x2028, 0x2029), (0x202F, 0x202F), (0x205F, 0x205F),
    (0x3000, 0x3000)
  ]

/-- The whitespace code points, ready for lookups. -/
def whitespace : CodeSet :=
  CodeSet.ofAscending whitespaceRanges

end Unicode

end PegEngine
