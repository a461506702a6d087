/-!
# Code point ranges

A character class is an ascending list of inclusive code point ranges. Membership is decided by one
walk over the list that ends at the first range beyond the character.
-/

namespace TemplateMachine

/-- Whether a code point lies in one of the ranges. -/
def inRanges (code : Nat) : List (Nat × Nat) → Bool
  | [] => false
  | (first, last) :: rest =>
    if code < first then false
    else if code ≤ last then true
    else inRanges code rest

end TemplateMachine
