/-!
# Ranges of code points

A character property is given by a table of inclusive ranges; membership is a search through them.
-/

namespace Switchboard.Text

/-- Whether a code point lies in one of the inclusive ranges. -/
def inRanges (ranges : Array (Nat × Nat)) (code : Nat) : Bool :=
  ranges.any fun range => range.1 ≤ code && code ≤ range.2

end Switchboard.Text
