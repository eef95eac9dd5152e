/-!
Classes of characters given by their sorted bounds: the class starts at the first bound, ends
before the second, starts again at the third, and so on.
-/

namespace InputDeck

namespace Text

/-- Whether `code` lies in the class that the sorted `bounds` delimit. -/
def withinBounds (bounds : List Nat) (code : Nat) : Bool :=
  (bounds.takeWhile (· ≤ code)).length % 2 == 1

end Text

end InputDeck
