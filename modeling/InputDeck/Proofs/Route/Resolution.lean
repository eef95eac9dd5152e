import InputDeck.Proofs.Text.Rows
import InputDeck.Route
import Mathlib.Data.List.Induction

/-!
Routes that are resolved piece by piece.  What is left of a route leads back first, if at all, and
from there down through names only.  From any place it leads where the route itself leads, so that a
part of a route may be resolved before the rest is known.
-/

namespace InputDeck

open Text

namespace Route

/-- A segment that leads one level down. -/
structure LeadsDown (segment : Text) : Prop where
  nonempty : segment ≠ []
  moves : segment ≠ ['.']
  descends : segment ≠ ['.', '.']

theorem segment_cases (segment : Text) :
    (segment = [] ∨ segment = ['.']) ∨ segment = ['.', '.'] ∨ LeadsDown segment := by
  by_cases stays : segment = [] ∨ segment = ['.']
  · exact .inl stays
  · rw [not_or] at stays
    by_cases back : segment = ['.', '.']
    · exact .inr (.inl back)
    · exact .inr (.inr ⟨stays.1, stays.2, back⟩)

/-- A route that leads back first and then down. -/
def Resolved (route : List Text) : Prop :=
  ∃ back down, route = List.replicate back ['.', '.'] ++ down ∧ ∀ segment ∈ down, LeadsDown segment

namespace Resolved

variable {route : List Text} {segment : Text}

theorem replicate (back : Nat) : Resolved (List.replicate back ['.', '.']) :=
  ⟨back, [], (List.append_nil _).symm, by simp⟩

theorem concat (resolved : Resolved route) (leads : LeadsDown segment) :
    Resolved (route ++ [segment]) := by
  obtain ⟨back, down, rfl, names⟩ := resolved
  refine ⟨back, down ++ [segment], List.append_assoc _ _ _, ?_⟩
  exact List.forall_mem_append.mpr ⟨names, List.forall_mem_singleton.mpr leads⟩

theorem back_or_concat (resolved : Resolved route) :
    (∃ back, route = List.replicate back ['.', '.']) ∨
      ∃ before last, route = before ++ [last] ∧ Resolved before ∧ LeadsDown last := by
  obtain ⟨back, down, rfl, names⟩ := resolved
  rcases List.eq_nil_or_concat down with rfl | ⟨before, last, rfl⟩
  · exact .inl ⟨back, List.append_nil _⟩
  · rw [List.concat_eq_append, List.forall_mem_append, List.forall_mem_singleton] at names
    refine .inr ⟨List.replicate back ['.', '.'] ++ before, last, ?_, ?_, names.2⟩
    · rw [List.concat_eq_append, List.append_assoc]
    · exact ⟨back, before, rfl, names.1⟩

end Resolved

section Advance

variable {absolute : Bool} {walked : List Text} {segment other : Text}

theorem advance_of_stays (stays : segment = [] ∨ segment = ['.']) :
    advance absolute walked segment = walked :=
  if_pos stays

theorem advance_of_leadsDown (leads : LeadsDown segment) :
    advance absolute walked segment = segment :: walked := by
  simp [advance, leads.nonempty, leads.moves, leads.descends]

theorem advance_back_of_leadsDown (leads : LeadsDown segment) :
    advance absolute (segment :: walked) ['.', '.'] = walked := by
  simp [advance, leads.descends]

theorem advance_back_replicate (back : Nat) :
    advance absolute (List.replicate back ['.', '.']) ['.', '.'] =
      List.replicate (if absolute ∧ back = 0 then 0 else back + 1) ['.', '.'] := by
  cases back with
  | zero => cases absolute <;> rfl
  | succ back => simp [advance, List.replicate_succ]

theorem mem_of_mem_advance (member : other ∈ advance absolute walked segment) :
    other ∈ walked ∨ other = segment := by
  unfold advance at member
  split at member
  · exact .inl member
  · split at member
    · split at member
      · split at member
        · cases member
        · exact .inr (List.mem_singleton.mp member)
      · next last before =>
          split at member
          · exact (List.mem_cons.mp member).symm
          · exact .inl (List.mem_cons_of_mem last member)
    · exact (List.mem_cons.mp member).symm

end Advance

section Resolve

variable {absolute : Bool} {segments : List Text}

theorem resolve_concat (absolute : Bool) (segments : List Text) (segment : Text) :
    resolve absolute (segments ++ [segment]) =
      (advance absolute (resolve absolute segments).reverse segment).reverse := by
  rw [resolve, resolve, List.foldl_append, List.reverse_reverse]
  rfl

theorem resolve_concat_of_stays {segment : Text} (stays : segment = [] ∨ segment = ['.']) :
    resolve absolute (segments ++ [segment]) = resolve absolute segments := by
  rw [resolve_concat, advance_of_stays stays, List.reverse_reverse]

theorem resolve_concat_of_leadsDown {segment : Text} (leads : LeadsDown segment) :
    resolve absolute (segments ++ [segment]) = resolve absolute segments ++ [segment] := by
  rw [resolve_concat, advance_of_leadsDown leads, List.reverse_cons, List.reverse_reverse]

theorem resolve_concat_back_of_concat {before : List Text} {last : Text}
    (whole : resolve absolute segments = before ++ [last]) (leads : LeadsDown last) :
    resolve absolute (segments ++ [['.', '.']]) = before := by
  rw [resolve_concat, whole, List.reverse_append, List.reverse_singleton, List.singleton_append,
    advance_back_of_leadsDown leads, List.reverse_reverse]

theorem resolve_concat_back_of_replicate {back : Nat}
    (whole : resolve absolute segments = List.replicate back ['.', '.']) :
    resolve absolute (segments ++ [['.', '.']]) =
      List.replicate (if absolute ∧ back = 0 then 0 else back + 1) ['.', '.'] := by
  rw [resolve_concat, whole, List.reverse_replicate, advance_back_replicate, List.reverse_replicate]

theorem resolved_resolve (absolute : Bool) (segments : List Text) :
    Resolved (resolve absolute segments) := by
  induction segments using List.reverseRecOn with
  | nil => exact .replicate 0
  | append_singleton segments segment ih =>
      rcases segment_cases segment with stays | rfl | leads
      · rw [resolve_concat_of_stays stays]
        exact ih
      · rcases ih.back_or_concat with ⟨back, whole⟩ | ⟨before, last, whole, resolved, leads⟩
        · rw [resolve_concat_back_of_replicate whole]
          exact .replicate _
        · rw [resolve_concat_back_of_concat whole leads]
          exact resolved
      · rw [resolve_concat_of_leadsDown leads]
        exact ih.concat leads

theorem leadsDown_of_mem_resolve_true :
    ∀ segment ∈ resolve true segments, LeadsDown segment := by
  induction segments using List.reverseRecOn with
  | nil => exact fun _ member => nomatch member
  | append_singleton segments segment ih =>
      rcases segment_cases segment with stays | rfl | leads
      · rw [resolve_concat_of_stays stays]
        exact ih
      · rcases List.eq_nil_or_concat (resolve true segments) with whole | ⟨before, last, whole⟩
        · have root : resolve true segments = List.replicate 0 ['.', '.'] := whole
          rw [resolve_concat_back_of_replicate root]
          exact fun _ member => nomatch member
        · rw [List.concat_eq_append] at whole
          rw [whole, List.forall_mem_append, List.forall_mem_singleton] at ih
          rw [resolve_concat_back_of_concat whole ih.2]
          exact ih.1
      · rw [resolve_concat_of_leadsDown leads]
        exact List.forall_mem_append.mpr ⟨ih, List.forall_mem_singleton.mpr leads⟩

theorem mem_of_mem_resolve {segment : Text} (member : segment ∈ resolve absolute segments) :
    segment ∈ segments := by
  induction segments using List.reverseRecOn with
  | nil => exact member
  | append_singleton segments last ih =>
      rw [resolve_concat, List.mem_reverse] at member
      rw [List.mem_append, List.mem_singleton]
      rcases mem_of_mem_advance member with earlier | same
      · exact .inl (ih (List.mem_reverse.mp earlier))
      · exact .inr same

theorem foldl_advance_resolve (segments walked : List Text) :
    (resolve false segments).foldl (advance false) walked =
      segments.foldl (advance false) walked := by
  -- Resolving changes a route only at its end, so the route grows there while `walked` stays.
  induction segments using List.reverseRecOn with
  | nil => rfl
  | append_singleton segments segment ih =>
      rw [List.foldl_append, ← ih]
      rcases segment_cases segment with stays | rfl | leads
      · rw [resolve_concat_of_stays stays, List.foldl_cons, List.foldl_nil, advance_of_stays stays]
      · rcases (resolved_resolve false segments).back_or_concat with
          ⟨back, whole⟩ | ⟨before, last, whole, -, leads⟩
        · have longer := resolve_concat_back_of_replicate whole
          rw [longer, whole]
          simp only [Bool.false_eq_true, false_and, if_false]
          rw [List.replicate_succ', List.foldl_append]
        · rw [resolve_concat_back_of_concat whole leads, whole, List.foldl_append]
          simp only [List.foldl_cons, List.foldl_nil, advance_of_leadsDown leads,
            advance_back_of_leadsDown leads]
      · rw [resolve_concat_of_leadsDown leads, List.foldl_append]

theorem resolve_resolve_append (first second : List Text) :
    resolve false (resolve false first ++ second) = resolve false (first ++ second) := by
  calc
    resolve false (resolve false first ++ second) =
        (second.foldl (advance false)
          ((resolve false first).foldl (advance false) [])).reverse := by
      rw [resolve, List.foldl_append]
    _ = (second.foldl (advance false) (first.foldl (advance false) [])).reverse := by
      rw [foldl_advance_resolve]
    _ = resolve false (first ++ second) := by
      rw [resolve, List.foldl_append]

theorem resolve_append_resolve (first second : List Text) :
    resolve false (first ++ resolve false second) = resolve false (first ++ second) := by
  rw [resolve, List.foldl_append, foldl_advance_resolve, ← List.foldl_append]
  rfl

end Resolve

/-- A route whose first segment, if there is one, is not empty and does not start with a slash. -/
def Relative (segments : List Text) : Prop :=
  ∀ segment ∈ segments.head?, segment ≠ [] ∧ segment.head? ≠ some '/'

instance (segments : List Text) : Decidable (Relative segments) :=
  inferInstanceAs (Decidable (∀ segment ∈ segments.head?, segment ≠ [] ∧ segment.head? ≠ some '/'))

theorem relative_of_slash_not_mem {segments : List Text}
    (free : ∀ segment ∈ segments, '/' ∉ segment)
    (starts : ∀ segment ∈ segments.head?, segment ≠ []) : Relative segments := by
  intro segment first
  refine ⟨starts segment first, fun slash => ?_⟩
  exact free segment (List.mem_of_mem_head? first) (List.mem_of_mem_head? slash)

theorem Relative.append {first second : List Text} (relative : Relative first)
    (others : Relative second) : Relative (first ++ second) := by
  cases first with
  | nil => exact others
  | cons segment rest => exact relative

section Normalize

variable {first second segments : List Text}

theorem normalize_of_relative (relative : Relative segments) :
    normalize segments = resolve false (segments.flatMap (splitOn '/')) := by
  cases segments with
  | nil => rfl
  | cons segment rest =>
      obtain ⟨nonempty, unslashed⟩ := relative segment rfl
      have start : (joinWith ['/'] (segment :: rest)).head? = segment.head? := by
        rw [joinWith_cons]
        cases segment with
        | nil => exact absurd rfl nonempty
        | cons c text => rfl
      rw [normalize, splitOn_joinWith_flatMap (List.cons_ne_nil _ _), start,
        beq_eq_false_iff_ne.mpr unslashed]

theorem slash_not_mem_normalize : ∀ segment ∈ normalize segments, '/' ∉ segment :=
  fun _ member => not_mem_of_mem_splitOn (mem_of_mem_resolve member)

theorem Resolved.nonempty (resolved : Resolved segments) : ∀ segment ∈ segments, segment ≠ [] := by
  obtain ⟨back, down, rfl, names⟩ := resolved
  refine List.forall_mem_append.mpr ⟨?_, fun segment member => (names segment member).nonempty⟩
  intro segment member
  rw [List.eq_of_mem_replicate member]
  simp

theorem resolved_normalize (segments : List Text) : Resolved (normalize segments) :=
  resolved_resolve _ _

theorem relative_normalize (segments : List Text) : Relative (normalize segments) :=
  relative_of_slash_not_mem slash_not_mem_normalize fun segment first =>
    (resolved_normalize segments).nonempty segment (List.mem_of_mem_head? first)

theorem normalize_append (relative : Relative first) (others : Relative second) :
    normalize (first ++ second) =
      resolve false (first.flatMap (splitOn '/') ++ second.flatMap (splitOn '/')) := by
  rw [normalize_of_relative (relative.append others), List.flatMap_append]

theorem normalize_normalize_append (relative : Relative first) (others : Relative second) :
    normalize (normalize first ++ second) = normalize (first ++ second) := by
  rw [normalize_append relative others, normalize_append (relative_normalize first) others,
    flatMap_splitOn_of_free slash_not_mem_normalize, normalize_of_relative relative,
    resolve_resolve_append]

theorem normalize_append_normalize (relative : Relative first) (others : Relative second) :
    normalize (first ++ normalize second) = normalize (first ++ second) := by
  rw [normalize_append relative others, normalize_append relative (relative_normalize second),
    flatMap_splitOn_of_free slash_not_mem_normalize, normalize_of_relative others,
    resolve_append_resolve]

/-- What is left of a route leads back only at its start and stays in place nowhere.  Of two routes
one behind the other either may be resolved first: the front one, or the one that is reached first
on the way up. -/
theorem normalize_piecewise (first second : List Text) :
    Resolved (normalize first) ∧
      (Relative first → Relative second →
        normalize (first ++ second) = normalize (normalize first ++ second) ∧
          normalize (first ++ second) = normalize (first ++ normalize second)) := by
  refine ⟨resolved_normalize first, fun relative others => ⟨?_, ?_⟩⟩
  · exact (normalize_normalize_append relative others).symm
  · exact (normalize_append_normalize relative others).symm

theorem normalize_piecewise_kernels :
    Relative (["..", "Kernels", ".", "a", ".."].map String.toList) ∧
    Relative (["..", "..", "b", ""].map String.toList) ∧
    normalize (["..", "Kernels", ".", "a", ".."].map String.toList) =
      ["..", "Kernels"].map String.toList ∧
    normalize ((["..", "Kernels", ".", "a", ".."] ++ ["..", "..", "b", ""]).map String.toList) =
      ["..", "..", "b"].map String.toList := by
  have relative : Relative (["..", "Kernels", ".", "a", ".."].map String.toList) := by decide
  have others : Relative (["..", "..", "b", ""].map String.toList) := by decide
  have pieces := ((normalize_piecewise _ _).2 relative others).1
  refine ⟨relative, others, by decide +kernel, ?_⟩
  rw [List.map_append, pieces]
  decide +kernel

end Normalize

end Route

end InputDeck
