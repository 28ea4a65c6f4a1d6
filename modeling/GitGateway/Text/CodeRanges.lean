/-!
# Tables of code points

Unicode properties are kept as rising lists of ranges, first and last code point
included.
-/

namespace GitGateway.CodeRanges

/-- Whether a code point lies in one of the ranges of a rising list. The search
ends at the first range that starts above it. -/
def has : List (Nat × Nat) → Nat → Bool
  | [], _ => false
  | (first, last) :: rest, code =>
    if code < first then false else code ≤ last || has rest code

/-- Whether the ranges of a list rise, with a gap between any two. -/
def rising : List (Nat × Nat) → Bool
  | (first, last) :: (next, stop) :: rest =>
    first ≤ last && last + 1 < next && rising ((next, stop) :: rest)
  | [(first, last)] => first ≤ last
  | [] => true

end GitGateway.CodeRanges
