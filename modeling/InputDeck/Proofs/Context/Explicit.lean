import InputDeck.Proofs.Line.Value
import InputDeck.Proofs.Outline.Growth

/-!
The type at a cursor and the type of a block.  A cursor sees the first word of the value that its
block gives to `type`; the block has the value without its quotation marks.
-/

namespace InputDeck

open Outline Text

namespace Outline

theorem State.context_of_portion? {state : State} {portion : Portion}
    (here : state.portion? = some portion) :
    state.context = ⟨portion.path, givenType? portion.parameters⟩ := by
  obtain ⟨top, current, rfl⟩ := Option.map_eq_some_iff.mp here
  rw [State.context, current]
  rfl

theorem findParameter?_of_append {first later : List Parameter} {name : Text}
    {parameter : Parameter} (found : findParameter? (first ++ later) name = some parameter)
    (apart : parameter ∉ later) : findParameter? first name = some parameter := by
  rw [findParameter?, List.find?_append, Option.or_eq_some_iff] at found
  rcases found with found | ⟨-, found⟩
  · exact found
  · exact absurd (List.mem_of_find?_eq_some found) apart

end Outline

namespace Document

variable {doc : Document}

/-- A document in which reading upwards meets the same tags as reading downwards. -/
structure Legible (doc : Document) : Prop where
  orderly : ∀ diagnostic ∈ doc.structuralDiagnostics,
    diagnostic.kind ≠ .closure ∧ diagnostic.kind ≠ .duplication
  plain : ∀ row ∈ doc.rows, (Line.read row).content = .other → ¬ Line.Bracketed row

theorem Legible.harmless (legible : doc.Legible) : Orderly doc.structuralDiagnostics :=
  fun diagnostic member =>
    ⟨(legible.orderly diagnostic member).2, fun closure =>
      absurd closure (legible.orderly diagnostic member).1⟩

/-- A row belongs to a block and to none of its sub-blocks: at its end, the block is the innermost
of those that are open. -/
def Encloses (doc : Document) (row : Nat) (block : Block) : Prop :=
  ∃ top, (State.run {} (doc.rows.take (row + 1))).current = some top ∧
    top.innermost.start = block.start

variable {text path : Text} {names : List Text} {block : Block} {row : Nat} {line : Text}

theorem context_of_portion? (legible : (ofText text path).Legible)
    (here : (ofText text path).rows[row]? = some line) {portion : Portion}
    (inside : (State.run {} ((ofText text path).rows.take (row + 1))).portion? = some portion) :
    (ofText text path).context ⟨row, line.length⟩ =
      .ok ⟨portion.path, givenType? portion.parameters⟩ := by
  have reads := Context.reads_run (orderly_take legible.harmless (row + 1))
    (fun other member => legible.plain other (List.mem_of_mem_take member))
    (fun other member => not_mem_of_mem_splitOn (List.mem_of_mem_take member))
  rw [context_row here, reads.scan_eq, State.context_of_portion? inside]

theorem tight_of_holds {doc : Document} (legible : doc.Legible)
    (holds : Holds doc.outline names block) {parameter : Parameter}
    (member : parameter ∈ block.parameters) {value : Placed}
    (given : parameter.value = some value) : Tight value.text := by
  obtain ⟨before, after, split⟩ := List.append_of_mem member
  obtain ⟨row, text, -, -, reads, -⟩ :=
    traced_of_holds legible.harmless holds before parameter after split
  rw [given] at reads
  exact (Line.value_of_parameter reads).1

/-- In a document without duplicates whose blocks open and close in turn, where brackets at the
start of a row are tags, a cursor below the type of its block sees the first word of the value.
That is the type of the block only where the value is one word without quotation marks at its
ends. -/
theorem context_type_eq_iff (text path : Text) (legible : (ofText text path).Legible)
    {names : List Text} {block : Block} (holds : Holds (ofText text path).outline names block)
    {parameter : Parameter} (typed : block.parameter? "type".toList = some parameter)
    {value : Placed} (given : parameter.value = some value) {row : Nat} {line : Text}
    (here : (ofText text path).rows[row]? = some line)
    (inside : (ofText text path).Encloses row block) (below : parameter.start.row ≤ row) :
    ∃ word, (ofText text path).context ⟨row, line.length⟩ = .ok ⟨names, some word⟩ ∧
      (words value.text).head? = some word ∧ (block.type? = some word ↔ Bare value.text) := by
  obtain ⟨top, current, start⟩ := inside
  have portion : (State.run {} ((ofText text path).rows.take (row + 1))).portion? =
      some top.portion := by
    rw [State.portion?, current, Option.map_some]
  have bound : row < (ofText text path).rows.length := (List.getElem?_eq_some_iff.mp here).1
  obtain ⟨whole, wholeHolds, wholeStart, later, parameters, after⟩ :=
    exists_holds_of_portion? legible.harmless bound portion
  obtain ⟨samePath, -, sameParameters⟩ := Portion.mk.inj
    (holds_inj legible.harmless holds wholeHolds (start.symm.trans wholeStart.symm))
  have tight : Tight value.text :=
    tight_of_holds legible holds (List.mem_of_find?_eq_some typed) given
  have among : findParameter? (top.portion.parameters ++ later) "type".toList = some parameter := by
    rw [← parameters, ← sameParameters]
    exact typed
  have found : findParameter? top.portion.parameters "type".toList = some parameter :=
    findParameter?_of_append among fun member => absurd (after parameter member) (by omega)
  have seen : givenType? top.portion.parameters = (words value.text).head? := by
    rw [givenType?, found]
    simp [Parameter.valueText?, given]
  have type : block.type? = some (unquote value.text) := by
    rw [Block.type?, Block.valueOf?, typed]
    simp [Parameter.valueText?, given]
  refine ⟨value.text.takeWhile (fun c => !isBlank c), ?_, tight.head?_words, ?_⟩
  · rw [context_of_portion? legible here portion, seen, tight.head?_words, samePath]
  · rw [type, ← head?_words_eq_unquote_iff tight, tight.head?_words, eq_comm]

def quoted : Text :=
  joinWith ['\n'] (["[A]", "  type = 'B'", "[]"].map String.toList)

def quotedType : Parameter where
  name := "type".toList
  value := some ⟨"'B'".toList, 9⟩
  start := ⟨1, 2⟩
  stop := ⟨1, 12⟩

def quotedBlock : TopBlock where
  name := "A".toList
  start := ⟨0, 0⟩
  stop := ⟨2, 2⟩
  parameters := [quotedType]
  children := []

theorem quoted_context :
    quotedBlock ∈ (ofText quoted unnamed).outline ∧ quotedBlock.type? = some "B".toList ∧
      (ofText quoted unnamed).context ⟨1, 12⟩ = .ok ⟨["A".toList], some "'B'".toList⟩ := by
  have legible : (ofText quoted unnamed).Legible := ⟨by decide +kernel, by decide +kernel⟩
  have member : quotedBlock ∈ (ofText quoted unnamed).outline := by decide +kernel
  have inside : (ofText quoted unnamed).Encloses 1 quotedBlock.toBlock :=
    ⟨{ block := ⟨"A".toList, ⟨0, 0⟩, [quotedType]⟩ }, by decide +kernel, rfl⟩
  obtain ⟨word, context, first, same⟩ := context_type_eq_iff quoted unnamed legible (.top member)
    (show quotedBlock.parameter? "type".toList = some quotedType by decide)
    (show quotedType.value = some ⟨"'B'".toList, 9⟩ from rfl)
    (show (ofText quoted unnamed).rows[1]? = some "  type = 'B'".toList by decide +kernel)
    inside (by decide)
  obtain rfl : word = "'B'".toList := by
    rw [← Option.some.injEq, ← first]
    decide +kernel
  exact ⟨member, by decide, context⟩

end Document

end InputDeck
