import InputDeck.Proofs.Analysis.Expressions

/-!
What the values of a parameter may refer to.  The schema type of the parameter decides it: some
types name what the sub-blocks of certain top-level blocks define, a vector type counts as the type
of its elements, and a parameter without a type may refer to anything.
-/

namespace InputDeck

namespace Analysis

open Schema Text

def Gap (space : Text) : Prop :=
  space = [] ∨ ∃ c, isBlank c = true ∧ space = [c]

section Vector

variable {library element text rest type : Text}

end Vector

section Namespaces

variable {name scope type : Text}

end Namespaces

end Analysis

end InputDeck
