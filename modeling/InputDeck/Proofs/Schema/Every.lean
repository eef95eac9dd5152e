import InputDeck.Schema.Catalog

/-!
Properties of all parameters of a schema.  Queries find blocks of the schema and keep merged copies
of them, so what holds of every parameter of the schema holds of every parameter they give.
-/

namespace InputDeck

namespace Schema

/-- A computation that keeps an invariant of its state and gives a result with a property. -/
def Yields {σ α : Type} (invariant : σ → Prop) (computation : StateM σ α) (result : α → Prop) :
    Prop :=
  ∀ state, invariant state →
    result (computation.run state).1 ∧ invariant (computation.run state).2

namespace Yields

variable {σ α β : Type} {invariant : σ → Prop}

theorem pure {result : α → Prop} {value : α} (holds : result value) :
    Yields invariant (Pure.pure value : StateM σ α) result :=
  fun _ kept => ⟨holds, kept⟩

theorem bind {first : StateM σ α} {next : α → StateM σ β} {middle : α → Prop} {result : β → Prop}
    (one : Yields invariant first middle)
    (two : ∀ value, middle value → Yields invariant (next value) result) :
    Yields invariant (first >>= next) result := by
  intro state kept
  obtain ⟨holds, keptFirst⟩ := one state kept
  exact two _ holds _ keptFirst

theorem get : Yields invariant (MonadState.get : StateM σ σ) invariant :=
  fun _ kept => ⟨kept, kept⟩

theorem set {state : σ} (kept : invariant state) :
    Yields invariant (MonadStateOf.set state : StateM σ PUnit) (fun _ => True) :=
  fun _ _ => ⟨trivial, kept⟩

theorem mono {computation : StateM σ α} {first second : α → Prop}
    (yields : Yields invariant computation first) (weaker : ∀ value, first value → second value) :
    Yields invariant computation second :=
  fun state kept => ⟨weaker _ (yields state kept).1, (yields state kept).2⟩

theorem assuming {computation : StateM σ α} {result : α → Prop} (assumption : Prop)
    (yields : Yields invariant computation result) :
    Yields (fun state => assumption → invariant state) computation
      (fun value => assumption → result value) :=
  fun state kept =>
    ⟨fun holds => (yields state (kept holds)).1, fun holds => (yields state (kept holds)).2⟩

end Yields

variable {holds : Param → Prop}

/-- Every parameter of a block, and of the blocks below it. -/
inductive Node.Every (holds : Param → Prop) : Node → Prop
  | intro {node : Node} (parameters : ∀ param ∈ node.parameters, holds param)
      (children : ∀ child ∈ node.children, Node.Every holds child) : Node.Every holds node

namespace Node.Every

theorem parameters {node : Node} (every : node.Every holds) :
    ∀ param ∈ node.parameters, holds param := by
  cases every with
  | intro parameters children => exact parameters

theorem children {node : Node} (every : node.Every holds) :
    ∀ child ∈ node.children, child.Every holds := by
  cases every with
  | intro parameters children => exact children

theorem withMetadata {node : Node} (every : node.Every holds) (metadata : Metadata) :
    (node.withMetadata metadata).Every holds :=
  .intro every.parameters every.children

end Node.Every

mutual

theorem Node.every_matches (path : List Text) :
    (node : Node) → node.Every holds → ∀ found ∈ node.matches path, found.node.Every holds
  | ⟨name, description, parameters, holdsBlocks, children, file⟩, every, found, member => by
      simp only [Node.matches] at member
      split at member
      · split at member
        · rw [List.mem_singleton.mp member]
          exact every
        · exact every_matchesIn path children every.children found member
      · cases member

theorem every_matchesIn (path : List Text) :
    (nodes : List Node) → (∀ node ∈ nodes, node.Every holds) →
      ∀ found ∈ matchesIn path nodes, found.node.Every holds
  | [], _, _, member => by
      rw [matchesIn] at member
      cases member
  | node :: rest, every, found, member => by
      rw [matchesIn] at member
      rcases List.mem_append.mp member with first | later
      · exact node.every_matches path (every node List.mem_cons_self) found first
      · exact every_matchesIn path rest
          (fun other inside => every other (List.mem_cons_of_mem node inside)) found later

end

theorem mem_of_leastStars {found : Match} {matched : List Match}
    (least : leastStars matched = some found) : found ∈ matched := by
  induction matched with
  | nil => cases least
  | cons first rest ih =>
      simp only [leastStars] at least
      split at least
      · next better found' =>
          split at least
          · exact List.mem_cons_of_mem first (ih (found'.trans least))
          · rw [Option.some.inj least]
            exact List.mem_cons_self
      · rw [Option.some.inj least]
        exact List.mem_cons_self

structure Loaded.Every (holds : Param → Prop) (loaded : Loaded) : Prop where
  nodes : ∀ node ∈ loaded.nodes, node.Every holds
  merged : ∀ entry ∈ loaded.merged, entry.2.Every holds

namespace Loaded

theorem yields_merge {node : Node} (every : node.Every holds) :
    Yields (Loaded.Every holds) (merge node) (·.Every holds) := by
  refine Yields.bind Yields.get fun loaded kept => ?_
  cases found : loaded.merged.lookup node.path with
  | some known =>
      obtain ⟨before, after, split, -⟩ := List.lookup_eq_some_iff.mp found
      exact Yields.pure (kept.merged (node.path, known) (by rw [split]; simp))
  | none =>
      have recorded : ∀ merged : Node, merged.Every holds →
          Loaded.Every holds { loaded with merged := (node.path, merged) :: loaded.merged } := by
        refine fun merged mergedEvery => ⟨kept.nodes, fun entry member => ?_⟩
        rcases List.mem_cons.mp member with rfl | earlier
        · exact mergedEvery
        · exact kept.merged entry earlier
      cases described : loaded.metadata.lookup node.path with
      | some metadata =>
          have merged := every.withMetadata metadata
          exact Yields.bind (Yields.set (recorded _ merged)) fun _ _ => Yields.pure merged
      | none => exact Yields.bind (Yields.set (recorded _ every)) fun _ _ => Yields.pure every

theorem yields_mergeAll {nodes : List Node} (every : ∀ node ∈ nodes, node.Every holds) :
    Yields (Loaded.Every holds) (mergeAll nodes) (fun _ => True) := by
  induction nodes with
  | nil => exact Yields.pure trivial
  | cons node rest ih =>
      refine Yields.bind (yields_merge (every node List.mem_cons_self)) fun _ _ => ?_
      refine Yields.bind (ih fun other member => every other (List.mem_cons_of_mem node member))
        fun _ _ => Yields.pure trivial

theorem yields_find? (path : List Text) :
    Yields (Loaded.Every holds) (find? path)
      (fun found => ∀ match', found = some match' → match'.node.Every holds) := by
  refine Yields.bind Yields.get fun loaded kept => ?_
  cases best : bestMatch loaded.nodes path with
  | none => exact Yields.pure (by simp)
  | some found =>
      have every := every_matchesIn path loaded.nodes kept.nodes found (mem_of_leastStars best)
      refine Yields.bind (yields_merge every) fun merged mergedEvery => Yields.pure ?_
      intro result same
      obtain rfl := Option.some.inj same
      exact mergedEvery

theorem yields_parameters (path : List Text) (type : Option Text) :
    Yields (Loaded.Every holds) (parameters path type)
      (fun params => ∀ param ∈ params, holds param) := by
  refine Yields.bind (yields_find? path) fun found every => ?_
  cases found with
  | none => exact Yields.pure (by simp)
  | some found =>
      have own := (every found rfl).parameters
      simp only
      split
      · exact Yields.pure own
      · exact Yields.pure own
      · split
        · refine Yields.bind (yields_find? _) fun typed typedEvery => ?_
          cases typed with
          | none => exact Yields.pure own
          | some other =>
              simp only
              split
              · refine Yields.pure fun param member => ?_
                rcases List.mem_append.mp member with ofType | ofBlock
                · exact (typedEvery other rfl).parameters param ofType
                · exact own param ofBlock
              · exact Yields.pure own
        · refine Yields.bind (Yields.pure rfl) fun typed (empty : none = typed) => ?_
          subst empty
          exact Yields.pure own

theorem yields_types (path : List Text) :
    Yields (Loaded.Every holds) (types path) (fun _ => True) := by
  refine Yields.bind (yields_find? path) fun found every => ?_
  cases found with
  | none => exact Yields.pure trivial
  | some found =>
      simp only
      split
      · exact Yields.pure trivial
      · refine Yields.bind (yields_find? _) fun parent parentEvery => ?_
        cases parent with
        | none => exact Yields.pure trivial
        | some parent =>
            apply yields_mergeAll
            intro node member
            exact (parentEvery parent rfl).children node ((List.mem_filter.mp member).1)

end Loaded

def Catalog.Every (holds : Param → Prop) (catalog : Catalog) : Prop :=
  ∀ loaded, catalog.loaded = some loaded → loaded.Every holds

namespace Inquiry

theorem yields_ask {α : Type} {default : α} {query : StateM Loaded α} {result : α → Prop}
    (byDefault : result default) (yields : Yields (Loaded.Every holds) query result) :
    Yields (Catalog.Every holds) (ask default query) result := by
  refine Yields.bind Yields.get fun catalog kept => ?_
  cases loaded : catalog.loaded with
  | none =>
      refine Yields.bind (Yields.set fun other same => ?_) fun _ _ => Yields.pure byDefault
      cases same
  | some schema =>
      obtain ⟨answered, keptAfter⟩ := yields schema (kept schema loaded)
      refine Yields.bind (Yields.set fun other same => ?_) fun _ _ => Yields.pure answered
      obtain rfl := Option.some.inj same
      exact keptAfter

theorem yields_find? (path : List Text) :
    Yields (Catalog.Every holds) (find? path) (fun _ => True) := by
  unfold find?
  split
  · exact Yields.pure trivial
  · exact yields_ask trivial ((Loaded.yields_find? path).mono fun _ _ => trivial)

theorem yields_parameters (path : List Text) (type : Option Text) :
    Yields (Catalog.Every holds) (parameters path type)
      (fun params => ∀ param ∈ params, holds param) := by
  unfold parameters
  split
  · exact Yields.pure (by simp)
  · exact yields_ask (by simp) (Loaded.yields_parameters path type)

theorem yields_types (path : List Text) :
    Yields (Catalog.Every holds) (types path) (fun _ => True) := by
  unfold types
  split
  · exact Yields.pure trivial
  · exact yields_ask trivial (Loaded.yields_types path)

theorem yields_isLoaded : Yields (Catalog.Every holds) isLoaded (fun _ => True) :=
  yields_ask trivial (Yields.pure trivial)

end Inquiry

end Schema

end InputDeck
