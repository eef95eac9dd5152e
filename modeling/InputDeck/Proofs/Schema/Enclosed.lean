import InputDeck.Proofs.Text.Search
import InputDeck.Schema.Dump

/-!
Dumps between marker lines.  A marker is a row with its line break, so no marker is found across the
seam to the text in front of it or behind it.  What is cut out is the text from the first start
marker to the last end marker, whatever it holds.
-/

namespace InputDeck

open Text

namespace Schema.Markers

theorem unbordered_of_known {markers : Markers} (known : markers ∈ [blocks, metadata]) :
    Unbordered markers.start ∧ Unbordered markers.stop := by
  have rows : ∀ markers ∈ [blocks, metadata], ∀ marker ∈ [markers.start, markers.stop],
      marker = marker.dropLast ++ ['\n'] ∧ '\n' ∉ marker.dropLast := by decide
  have each : ∀ marker ∈ [markers.start, markers.stop], Unbordered marker := by
    intro marker member
    obtain ⟨row, unbroken⟩ := rows markers known marker member
    rw [row]
    exact unbordered_row unbroken
  exact ⟨each _ (by simp), each _ (by simp)⟩

section Strip

variable {markers : Markers} {before body after text : Text}

theorem strip_of_enclosed (starts : Unbordered markers.start) (stops : Unbordered markers.stop)
    (unopened : ¬ markers.start <:+: before) (unclosed : ¬ markers.stop <:+: after) :
    markers.strip (before ++ markers.start ++ body ++ markers.stop ++ after) = body := by
  have first : find? markers.start (before ++ markers.start ++ body ++ markers.stop ++ after) =
      some before.length := by
    rw [List.append_assoc, List.append_assoc]
    exact starts.find?_append unopened
  have last : findLast? markers.stop (before ++ markers.start ++ body ++ markers.stop ++ after) =
      some (before ++ markers.start ++ body).length :=
    stops.findLast?_append unclosed
  have ordered : ¬ (before ++ markers.start ++ body).length <
      before.length + markers.start.length := by
    simp only [List.length_append]
    omega
  simp only [strip, first, last, ordered, if_false]
  rw [List.append_assoc _ markers.stop after, List.take_left, ← List.length_append, List.drop_left]

theorem strip_of_unclosed (starts : Unbordered markers.start)
    (unopened : ¬ markers.start <:+: before) (unclosed : ¬ markers.stop <:+: body) :
    markers.strip (before ++ markers.start ++ body) = body := by
  have first : find? markers.start (before ++ markers.start ++ body) = some before.length :=
    starts.find?_append unopened
  have last : ∀ offset, findLast? markers.stop (before ++ markers.start ++ body) = some offset →
      offset < before.length + markers.start.length := by
    intro offset found
    by_contra behind
    rw [Nat.not_lt, ← List.length_append] at behind
    have stands := (findLast?_eq_some_iff.mp found).1
    exact unclosed (stands.of_append_right behind).isInfix
  have kept : (before ++ markers.start ++ body).drop (before.length + markers.start.length) =
      body := by
    rw [← List.length_append, List.drop_left]
  cases found : findLast? markers.stop (before ++ markers.start ++ body) with
  | none => simp only [strip, first, found, List.take_length, kept]
  | some offset =>
      simp only [strip, first, found, last offset found, if_true, List.take_length, kept]

theorem strip_of_unmarked (unopened : ¬ markers.start <:+: text)
    (unclosed : ¬ markers.stop <:+: text) : markers.strip text = text := by
  have first := find?_eq_none_iff.mpr unopened
  have last := findLast?_eq_none_iff.mpr unclosed
  simp only [strip, first, last, List.take_length, List.drop_zero]

end Strip

/-- What is left of a text with the markers around a dump is the dump, which may hold markers
itself.  Without an end marker the dump goes on to the end, and a text without markers is a dump. -/
theorem strip_leaves_dump {markers : Markers} (known : markers ∈ [blocks, metadata]) :
    (∀ before body after, ¬ markers.start <:+: before → ¬ markers.stop <:+: after →
      markers.strip (before ++ markers.start ++ body ++ markers.stop ++ after) = body) ∧
    (∀ before body, ¬ markers.start <:+: before → ¬ markers.stop <:+: body →
      markers.strip (before ++ markers.start ++ body) = body) ∧
    ∀ text, ¬ markers.start <:+: text → ¬ markers.stop <:+: text → markers.strip text = text := by
  obtain ⟨starts, stops⟩ := unbordered_of_known known
  refine ⟨?_, ?_, ?_⟩
  · intro before body after
    exact strip_of_enclosed starts stops
  · intro before body
    exact strip_of_unclosed starts
  · intro text
    exact strip_of_unmarked

theorem strip_nested_markers :
    blocks ∈ [blocks, metadata] ∧
    ¬ blocks.start <:+: "**END YAML DATA**\n**START YAML ".toList ∧
    ¬ blocks.stop <:+: "YAML DATA**\n".toList ∧
    blocks.strip ("**END YAML DATA**\n**START YAML **START YAML DATA**\n" ++
        "**END YAML DATA**\n- name: /A\n**START YAML DATA**\n" ++
        "**END YAML DATA**\nYAML DATA**\n").toList =
      "**END YAML DATA**\n- name: /A\n**START YAML DATA**\n".toList ∧
    blocks.strip "**END YAML DATA**\n**START YAML **START YAML DATA**\nYAML DATA**\n".toList =
      "YAML DATA**\n".toList ∧
    ¬ blocks.start <:+: "YAML DATA**\n".toList ∧
    blocks.strip "YAML DATA**\n".toList = "YAML DATA**\n".toList := by
  have opened : ¬ blocks.start <:+: "**END YAML DATA**\n**START YAML ".toList := by
    decide +kernel
  have unopened : ¬ blocks.start <:+: "YAML DATA**\n".toList := by decide +kernel
  have unclosed : ¬ blocks.stop <:+: "YAML DATA**\n".toList := by decide +kernel
  have known : blocks ∈ [blocks, metadata] := by decide
  obtain ⟨enclosed, started, unmarked⟩ := strip_leaves_dump known
  refine ⟨known, opened, unclosed, ?_, ?_, unopened, unmarked _ unopened unclosed⟩
  · have whole := enclosed _ "**END YAML DATA**\n- name: /A\n**START YAML DATA**\n".toList _ opened
      unclosed
    exact Eq.trans (congrArg blocks.strip (by decide +kernel)) whole
  · have whole := started _ _ opened unclosed
    exact Eq.trans (congrArg blocks.strip (by decide +kernel)) whole

end Schema.Markers

end InputDeck
