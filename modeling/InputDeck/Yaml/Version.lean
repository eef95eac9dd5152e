/-!
The versions of the format.  They differ in the words and numbers that are recognised, and in
what a colon or question mark means inside flow collections.
-/

namespace InputDeck

namespace Yaml

inductive Version where
  | first
  | second
deriving DecidableEq, Repr

def Version.ofMinor? : Nat → Option Version
  | 1 => some .first
  | 2 => some .second
  | _ => none

end Yaml

end InputDeck
