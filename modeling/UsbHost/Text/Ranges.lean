/-!
# Sets of characters given by ranges of code points
-/

set_option autoImplicit false

namespace UsbHost.Text

/-- Whether the code point of `c` lies in one of the closed ranges. -/
def inRanges (ranges : List (Nat × Nat)) (c : Char) : Bool :=
  ranges.any fun range => range.1 ≤ c.toNat && c.toNat ≤ range.2

end UsbHost.Text
