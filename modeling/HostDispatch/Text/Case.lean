/-!
# Lowering case for comparison with ASCII words

Names such as levels, months and weekdays are matched in any case by lowering the text and
comparing it with a lowercase ASCII word. Three kinds of character lower to an ASCII letter: the
ASCII capitals, U+0130 (capital I with a dot, lowered to `i`) and the Kelvin sign U+212A (lowered
to `k`). Any other character either has no lowercase or lowers to a character outside ASCII, so a
comparison with an ASCII word fails with it kept as it is, just as with its lowercase.
-/

namespace HostDispatch

namespace Text

/-- A character lowered for comparison with ASCII words. -/
def lowerForWords (c : Char) : Char :=
  if c.toNat = 0x130 then 'i'
  else if c.toNat = 0x212A then 'k'
  else c.toLower

/-- Text lowered for comparison with ASCII words. -/
def lowerWord (s : String) : String := s.map lowerForWords

end Text

end HostDispatch
