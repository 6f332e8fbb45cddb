import SiteConfig.Network.Address

/-!
# Subnet masks and prefix lengths

A mask of prefix length `n` has its `n` highest bits set and all others clear. Only the 33 words
of this form have a prefix length.

- `Mask.prefixLength?`: the prefix length of a mask, if its bits are ones followed by zeros.
- `Mask.ofPrefix?`: the mask of a prefix length up to 32.
-/

namespace SiteConfig.Mask

/-- The number of ones before the first zero, from the highest bit down. -/
def leadingOnes (m : Address) : Nat :=
  ((List.range 32).takeWhile m.getMsbD).length

/-- The number of ones. -/
def ones (m : Address) : Nat :=
  (List.range 32).countP m.getMsbD

/-- The prefix length of a mask whose ones all come first. -/
def prefixLength? (m : Address) : Option Nat :=
  let n := leadingOnes m
  if ones m = n then some n else none

/-- The longest prefix: a single address. -/
def maxPrefix : Nat := 32

/-- The mask of a prefix length, which is at most 32. For the length zero the shift is by the whole
word, and leaves no bit of it. -/
def ofPrefix? (n : Nat) : Option Address :=
  if n ≤ maxPrefix then some (BitVec.allOnes 32 <<< (maxPrefix - n)) else none

end SiteConfig.Mask
