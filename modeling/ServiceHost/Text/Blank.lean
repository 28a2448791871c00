/-!
This module contains the characters that count as white space: the Unicode property `White_Space`.
-/

namespace ServiceHost.Text

def blankRanges : List (Nat × Nat) :=
  [(0x9, 0xD), (0x20, 0x20), (0x85, 0x85), (0xA0, 0xA0), (0x1680, 0x1680), (0x2000, 0x200A),
   (0x2028, 0x2029), (0x202F, 0x202F), (0x205F, 0x205F), (0x3000, 0x3000)]

def isBlank (c : Char) : Bool :=
  blankRanges.any fun (low, high) => decide (low ≤ c.toNat) && decide (c.toNat ≤ high)

example : isBlank ' ' ∧ isBlank '\t' ∧ isBlank '\u2003' ∧ ¬ isBlank 'a' ∧ ¬ isBlank '\u200b' := by
  decide

end ServiceHost.Text
