import InputDeck.Schema.Catalog
import Mathlib.Order.Defs.PartialOrder

/-!
Questions that are asked again.  Queries leave nothing behind but merged blocks, and what has been
merged once is not merged again, so a later answer is the earlier one.
-/

namespace InputDeck

namespace Schema

/-- A schema that has at least the merged blocks of another. -/
structure Loaded.Extends (first second : Loaded) : Prop where
  nodes : second.nodes = first.nodes
  metadata : second.metadata = first.metadata
  merged : ∀ path node, first.merged.lookup path = some node → second.merged.lookup path = some node

instance : Preorder Loaded where
  le := Loaded.Extends
  le_refl _ := ⟨rfl, rfl, fun _ _ found => found⟩
  le_trans _ _ _ first second :=
    ⟨second.nodes.trans first.nodes, second.metadata.trans first.metadata,
      fun path node found => second.merged path node (first.merged path node found)⟩

/-- Catalogs compare as their schemas do; how often a schema was asked for does not matter. -/
inductive Catalog.Extends (first second : Catalog) : Prop
  | absent (before : first.loaded = none) (after : second.loaded = none)
  | loaded {one other : Loaded} (before : first.loaded = some one)
      (after : second.loaded = some other) (above : one ≤ other)

instance : Preorder Catalog where
  le := Catalog.Extends
  le_refl catalog := by
    cases loaded : catalog.loaded with
    | none => exact .absent loaded loaded
    | some one => exact .loaded loaded loaded (le_refl one)
  le_trans first second third := by
    rintro (⟨before, middle⟩ | ⟨before, middle, below⟩) (⟨again, after⟩ | ⟨again, after, above⟩)
    · exact .absent before after
    · rw [middle] at again
      cases again
    · rw [middle] at again
      cases again
    · obtain rfl := Option.some.inj (middle.symm.trans again)
      exact .loaded before after (le_trans below above)

/-- A question that only adds to the state.  When it is asked again, it has the same answer and adds
nothing. -/
structure Settles {σ α : Type} [Preorder σ] (question : StateM σ α) : Prop where
  grows : ∀ state, state ≤ (question.run state).2
  answer : ∀ state later, (question.run state).2 ≤ later →
    (question.run later).1 = (question.run state).1
  nothing : ∀ state later, (question.run state).2 ≤ later → (question.run later).2 ≤ later

namespace Settles

variable {σ α β : Type} [Preorder σ]

theorem pure (value : α) : Settles (Pure.pure value : StateM σ α) :=
  ⟨fun state => le_refl state, fun _ _ _ => rfl, fun _ later _ => le_refl later⟩

theorem bind {first : StateM σ α} {next : α → StateM σ β} (one : Settles first)
    (two : ∀ value, Settles (next value)) : Settles (first >>= next) := by
  have run : ∀ state, (first >>= next).run state =
      (next (first.run state).1).run (first.run state).2 := fun _ => rfl
  have again : ∀ state later, ((first >>= next).run state).2 ≤ later →
      (first.run later).1 = (first.run state).1 ∧ (first.run later).2 ≤ later ∧
        ((next (first.run state).1).run (first.run state).2).2 ≤ (first.run later).2 := by
    intro state later below
    rw [run] at below
    have before := le_trans ((two _).grows _) below
    exact ⟨one.answer state later before, one.nothing state later before,
      le_trans below (one.grows later)⟩
  refine ⟨fun state => ?_, fun state later below => ?_, fun state later below => ?_⟩
  · rw [run]
    exact le_trans (one.grows state) ((two _).grows _)
  · obtain ⟨same, -, above⟩ := again state later below
    rw [run, run, same]
    exact (two _).answer _ _ above
  · obtain ⟨same, back, above⟩ := again state later below
    rw [run, same]
    exact le_trans ((two _).nothing _ _ above) back

theorem bind_at {first : StateM σ α} {next : α → StateM σ β}
    (two : ∀ value, Settles (next value)) {later : σ}
    (still : ((first >>= next).run later).2 ≤ later) :
    (first.run later).2 ≤ later ∧ ((next (first.run later).1).run later).2 ≤ later ∧
      ((first >>= next).run later).1 = ((next (first.run later).1).run later).1 := by
  have run : (first >>= next).run later =
      (next (first.run later).1).run (first.run later).2 := rfl
  rw [run] at still ⊢
  refine ⟨le_trans ((two _).grows _) still, (two _).nothing _ _ still, ?_⟩
  exact ((two _).answer _ _ still).symm

end Settles

namespace Loaded

theorem settles_merge (node : Node) : Settles (merge node) := by
  have known : ∀ (state : Loaded) (merged : Node), state.merged.lookup node.path = some merged →
      (merge node).run state = (merged, state) := by
    intro state merged found
    simp only [merge, StateT.run_bind, StateT.run_get, pure_bind, found]
    rfl
  have fresh : ∀ state : Loaded, state.merged.lookup node.path = none → ∃ merged,
      (merge node).run state =
        (merged, { state with merged := (node.path, merged) :: state.merged }) := by
    intro state found
    simp only [merge, StateT.run_bind, StateT.run_get, pure_bind, found]
    exact ⟨_, rfl⟩
  have merges : ∀ state : Loaded, state ≤ ((merge node).run state).2 ∧
      ((merge node).run state).2.merged.lookup node.path = some ((merge node).run state).1 := by
    intro state
    cases found : state.merged.lookup node.path with
    | some merged =>
        rw [known state merged found]
        exact ⟨le_refl state, found⟩
    | none =>
        obtain ⟨merged, run⟩ := fresh state found
        rw [run]
        refine ⟨⟨rfl, rfl, fun path other earlier => ?_⟩, List.lookup_cons_self⟩
        have different : (path == node.path) = false := by
          rw [beq_eq_false_iff_ne]
          rintro rfl
          rw [found] at earlier
          cases earlier
        rwa [List.lookup_cons, different]
  refine ⟨fun state => (merges state).1, fun state later below => ?_, fun state later below => ?_⟩
  · rw [known later _ (below.merged _ _ (merges state).2)]
  · rw [known later _ (below.merged _ _ (merges state).2)]

theorem settles_get {α : Type} {question : Loaded → StateM Loaded α}
    (settles : ∀ state, Settles (question state))
    (same : ∀ state later, state ≤ later → question later = question state) :
    Settles (do question (← get)) := by
  have run : ∀ state : Loaded, (do question (← get) : StateM Loaded α).run state =
      (question state).run state := fun _ => rfl
  have again : ∀ state later, ((question state).run state).2 ≤ later →
      question later = question state := fun state later below =>
    same state later (le_trans ((settles state).grows state) below)
  refine ⟨fun state => ?_, fun state later below => ?_, fun state later below => ?_⟩
  · exact (settles state).grows state
  · rw [run, run, again state later below]
    exact (settles state).answer state later below
  · rw [run, again state later below]
    exact (settles state).nothing state later below

theorem settles_find? (path : List Text) : Settles (find? path) := by
  refine settles_get (fun state => ?_) (fun state later above => ?_)
  · cases bestMatch state.nodes path with
    | none => exact Settles.pure none
    | some found => exact (settles_merge found.node).bind fun _ => Settles.pure _
  · rw [above.nodes]

theorem settles_mergeAll (nodes : List Node) : Settles (mergeAll nodes) := by
  induction nodes with
  | nil => exact Settles.pure []
  | cons node rest ih => exact (settles_merge node).bind fun _ => ih.bind fun _ => Settles.pure _

theorem settles_parameters (path : List Text) (type : Option Text) :
    Settles (parameters path type) := by
  refine (settles_find? path).bind fun found => ?_
  cases found with
  | none => exact Settles.pure []
  | some found =>
      simp only
      split
      · exact Settles.pure _
      · exact Settles.pure _
      · split
        · refine (settles_find? _).bind fun typed => ?_
          cases typed with
          | none => exact Settles.pure _
          | some typed =>
              simp only
              split <;> exact Settles.pure _
        · exact Settles.pure _

theorem settles_types (path : List Text) : Settles (types path) := by
  refine (settles_find? path).bind fun found => ?_
  cases found with
  | none => exact Settles.pure []
  | some found =>
      simp only
      split
      · exact Settles.pure []
      · refine (settles_find? _).bind fun parent => ?_
        cases parent with
        | none => exact Settles.pure []
        | some parent => exact settles_mergeAll _

end Loaded

namespace Inquiry

theorem settles_ask {α : Type} (default : α) {query : StateM Loaded α} (settles : Settles query) :
    Settles (ask default query) := by
  have absent : ∀ catalog : Catalog, catalog.loaded = none →
      (ask default query).run catalog = (default, { catalog with asked := catalog.asked + 1 }) := by
    intro catalog loaded
    simp only [ask, StateT.run_bind, StateT.run_get, pure_bind, loaded]
    rfl
  have present : ∀ (catalog : Catalog) (loaded : Loaded), catalog.loaded = some loaded →
      (ask default query).run catalog = ((query.run loaded).1,
        { loaded := some (query.run loaded).2, asked := catalog.asked + 1 }) := by
    intro catalog loaded found
    simp only [ask, StateT.run_bind, StateT.run_get, pure_bind, found]
    rfl
  refine ⟨fun catalog => ?_, fun catalog later below => ?_, fun catalog later below => ?_⟩
  · cases loaded : catalog.loaded with
    | none =>
        rw [absent catalog loaded]
        exact .absent loaded loaded
    | some schema =>
        rw [present catalog schema loaded]
        exact .loaded loaded rfl (settles.grows schema)
  · cases loaded : catalog.loaded with
    | none =>
        rw [absent catalog loaded] at below ⊢
        cases below with
        | absent _ after => rw [absent later after]
        | loaded before _ _ => exact nomatch loaded.symm.trans before
    | some schema =>
        rw [present catalog schema loaded] at below ⊢
        cases below with
        | absent before _ => cases before
        | @loaded one other before after above =>
            obtain rfl := Option.some.inj before
            rw [present later other after]
            exact settles.answer schema other above
  · cases loaded : catalog.loaded with
    | none =>
        rw [absent catalog loaded] at below
        cases below with
        | absent _ after =>
            rw [absent later after]
            exact .absent after after
        | loaded before _ _ => exact nomatch loaded.symm.trans before
    | some schema =>
        rw [present catalog schema loaded] at below
        cases below with
        | absent before _ => cases before
        | @loaded one other before after above =>
            obtain rfl := Option.some.inj before
            rw [present later other after]
            exact .loaded rfl after (settles.nothing schema other above)

theorem settles_isLoaded : Settles isLoaded :=
  settles_ask false (Settles.pure true)

theorem settles_find? (path : List Text) : Settles (find? path) := by
  unfold find?
  split
  · exact Settles.pure none
  · exact settles_ask none (Loaded.settles_find? path)

theorem settles_parameters (path : List Text) (type : Option Text) :
    Settles (parameters path type) := by
  unfold parameters
  split
  · exact Settles.pure []
  · exact settles_ask [] (Loaded.settles_parameters path type)

theorem settles_types (path : List Text) : Settles (types path) := by
  unfold types
  split
  · exact Settles.pure []
  · exact settles_ask [] (Loaded.settles_types path)

end Inquiry

end Schema

end InputDeck
