import InputDeck.Proofs.Line.Marks
import InputDeck.Proofs.Outline.Orderly
import InputDeck.Proofs.Route.Resolution

/-!
Reading upwards from the end of a row leads to the block that reading downwards has open there.
The segments met on the way lead from the tag of a block through all its closed sub-blocks to the
open one, and each word given to `type` comes with the segments that lead to its own block.
-/

namespace InputDeck

open Text

namespace Line.FitsTag

variable {name : Text}

theorem slash_not_mem (fits : FitsTag name) : '/' ∉ name := by
  obtain ⟨c, rest, rfl, first, continues⟩ := fits
  intro member
  rcases List.mem_cons.mp member with rfl | inside
  · simp [startsBlockName] at first
  · simpa [continuesBlockName] using continues '/' inside

theorem ne_nil (fits : FitsTag name) : name ≠ [] := by
  obtain ⟨c, rest, rfl, -⟩ := fits
  simp

theorem ne_dots (fits : FitsTag name) : name ≠ ['.'] ∧ name ≠ ['.', '.'] := by
  obtain ⟨c, rest, rfl, first, -⟩ := fits
  have undotted : c ≠ '.' := by
    rintro rfl
    simp [startsBlockName] at first
  simp [undotted]

end Line.FitsTag

open Line (FitsTag)

namespace Route

theorem leadsDown_of_fits {name : Text} (fits : FitsTag name) : LeadsDown name :=
  ⟨fits.ne_nil, fits.ne_dots.1, fits.ne_dots.2⟩

theorem foldl_advance_opening {name : Text} (fits : FitsTag name) (walked : List Text) :
    [['.'], name].foldl (advance false) walked = name :: walked := by
  rw [List.foldl_cons, advance_of_stays (.inr rfl), List.foldl_cons, List.foldl_nil,
    advance_of_leadsDown (leadsDown_of_fits fits)]

theorem foldl_advance_closing {name : Text} (fits : FitsTag name) (walked : List Text) :
    [['.', '.'], []].foldl (advance false) (name :: walked) = walked := by
  rw [List.foldl_cons, advance_back_of_leadsDown (leadsDown_of_fits fits), List.foldl_cons,
    List.foldl_nil, advance_of_stays (.inl rfl)]

theorem normalize_cons {name : Text} (fits : FitsTag name) {below : List Text}
    (unbroken : ∀ segment ∈ below, '/' ∉ segment) :
    normalize (name :: below) = (below.foldl (advance false) [name]).reverse := by
  have free : ∀ segment ∈ name :: below, '/' ∉ segment :=
    List.forall_mem_cons.mpr ⟨fits.slash_not_mem, unbroken⟩
  have starts : ∀ segment ∈ (name :: below).head?, segment ≠ [] := by
    intro segment first
    obtain rfl := Option.some.inj first
    exact fits.ne_nil
  rw [normalize_of_relative (relative_of_slash_not_mem free starts), flatMap_splitOn_of_free free,
    resolve, List.foldl_cons, advance_of_leadsDown (leadsDown_of_fits fits)]

end Route

namespace Context

variable {trail : Trail} {row : Text} {above : List Text}

section Scan

theorem scan_of_top {name : Text} (tagged : tag? row = some name) (fits : FitsTag name) :
    scan trail (row :: above) = (trail.enter [name]).context := by
  have split : splitOn '/' name = [name] := splitOn_of_not_mem fits.slash_not_mem
  have absolute : isRelative [name] = false := by simp [isRelative, fits.ne_dots]
  rw [scan, tagged]
  split
  · next same => exact absurd (Option.some.inj same) fits.ne_nil
  · next same =>
      obtain rfl := Option.some.inj same
      simp [split, absolute]
  · next same => cases same

theorem scan_of_closing (tagged : tag? row = some []) : scan trail (row :: above) = {} := by
  rw [scan, tagged]

theorem scan_of_relative {tag : Text} {segments : List Text} (tagged : tag? row = some tag)
    (pieces : splitOn '/' tag = segments) (relative : isRelative segments = true) :
    scan trail (row :: above) = scan (trail.enter segments) above := by
  rw [scan, tagged]
  split
  · next same =>
      obtain rfl := Option.some.inj same
      rw [← pieces] at relative
      cases relative
  · next same =>
      obtain rfl := Option.some.inj same
      simp [pieces, relative]
  · next same => cases same

theorem scan_of_untagged (untagged : tag? row = none) :
    scan trail (row :: above) =
      scan { trail with types := (typeWord? row).toList.map (·, []) ++ trail.types } above := by
  rw [scan, untagged]
  cases typeWord? row with
  | none => rfl
  | some type => rfl

end Scan

/-- A trail behind segments and type rows that stand above all of it. -/
def Trail.behind (trail : Trail) (segments : List Text) (types : List (Text × List Text)) :
    Trail :=
  ⟨segments ++ trail.segments,
    types ++ trail.types.map (fun entry => (entry.1, segments ++ entry.2))⟩

theorem Trail.behind_enter (segments inner : List Text) (types : List (Text × List Text)) :
    (trail.enter inner).behind segments types = trail.behind (segments ++ inner) types := by
  simp [behind, enter]

theorem Trail.behind_types (segments : List Text) (types : List (Text × List Text))
    (words : List Text) :
    ({ trail with types := words.map (·, []) ++ trail.types } : Trail).behind segments types =
      trail.behind segments (types ++ words.map (·, segments)) := by
  simp [behind]

/-- The topmost of the words whose segments lead to a block. -/
def typeAt (types : List (Text × List Text)) (path : List Text) : Option Text :=
  (types.find? (fun entry => Route.normalize entry.2 == path)).map Prod.fst

theorem typeAt_append (types : List (Text × List Text)) (word : Option Text)
    (segments path : List Text) :
    typeAt (types ++ word.toList.map (·, segments)) path =
      (typeAt types path).or (if Route.normalize segments = path then word else none) := by
  rw [typeAt, typeAt, List.find?_append]
  cases types.find? (fun entry => Route.normalize entry.2 == path) with
  | some entry => simp
  | none =>
      cases word with
      | none => simp
      | some type => by_cases here : Route.normalize segments = path <;> simp [here]

end Context

namespace Outline

def OpenTop.names (top : OpenTop) : List Text :=
  top.block.name :: (top.sub.map (·.name)).toList

def givenType? (parameters : List Parameter) : Option Text :=
  ((findParameter? parameters "type".toList).bind Parameter.valueText?).bind
    (fun value => (words value).head?)

def State.context (state : State) : Context :=
  match state.current with
  | none => {}
  | some top => ⟨top.names, givenType? top.innermost.parameters⟩

theorem givenType?_append {parameters : List Parameter} {parameter : Parameter}
    (fresh : findParameter? parameters parameter.name = none) :
    givenType? (parameters ++ [parameter]) =
      (givenType? parameters).or (Content.parameter parameter.name parameter.value).typeWord? := by
  unfold givenType? Content.typeWord?
  generalize "type".toList = key
  have split : findParameter? (parameters ++ [parameter]) key =
      (findParameter? parameters key).or
        (if parameter.name = key then some parameter else none) := by
    rw [findParameter?, List.find?_append, ← findParameter?]
    simp [beq_eq_decide]
  by_cases named : parameter.name = key
  · subst named
    cases value : parameter.value <;> simp [split, fresh, Parameter.valueText?, value]
  · cases value : parameter.value <;> simp [split, named]

end Outline

namespace Context

open Outline

/-- The segments below the tag of an open block and the type rows in it: what reading upwards
collects until it reaches that tag. -/
structure Climbs (top : OpenTop) (below : List Text) (types : List (Text × List Text)) : Prop where
  named : FitsTag top.block.name
  innerNamed : ∀ sub, top.sub = some sub → FitsTag sub.name
  unbroken : ∀ segment ∈ below, '/' ∉ segment
  walked : below.foldl (Route.advance false) [top.block.name] = top.names.reverse
  own : typeAt types [top.block.name] = givenType? top.block.parameters
  inner : ∀ sub, top.sub = some sub →
    typeAt types [top.block.name, sub.name] = givenType? sub.parameters
  fresh : ∀ name, name ∉ top.children.map (·.name) →
    (∀ sub, top.sub = some sub → sub.name ≠ name) → typeAt types [top.block.name, name] = none

namespace Climbs

variable {top : OpenTop} {below : List Text} {types : List (Text × List Text)}

theorem leads (climbs : Climbs top below types) :
    Route.normalize (top.block.name :: below) = top.names := by
  rw [Route.normalize_cons climbs.named climbs.unbroken, climbs.walked, List.reverse_reverse]

theorem typeAt_names (climbs : Climbs top below types) :
    typeAt types top.names = givenType? top.innermost.parameters := by
  cases opened : top.sub with
  | none => simpa [OpenTop.names, OpenTop.innermost, opened] using climbs.own
  | some sub => simpa [OpenTop.names, OpenTop.innermost, opened] using climbs.inner sub opened

theorem openTop {name : Text} (fits : FitsTag name) (start : Position) :
    Climbs { block := { name, start } } [] [] where
  named := fits
  innerNamed := by simp
  unbroken := by simp
  walked := rfl
  own := rfl
  inner := by simp
  fresh := fun _ _ _ => rfl

theorem openSub (climbs : Climbs top below types) (shut : top.sub = none) {name : Text}
    (fits : FitsTag name) (fresh : name ∉ top.children.map (·.name)) (start : Position) :
    Climbs { top with sub := some { name, start } } (below ++ [['.'], name]) types where
  named := climbs.named
  innerNamed := by simpa using fits
  unbroken := List.forall_mem_append.mpr ⟨climbs.unbroken, by simpa using fits.slash_not_mem⟩
  walked := by
    rw [List.foldl_append, climbs.walked, Route.foldl_advance_opening fits]
    simp [OpenTop.names, shut]
  own := climbs.own
  inner := by
    intro sub opened
    obtain rfl := Option.some.inj opened
    exact climbs.fresh name fresh (by simp [shut])
  fresh := fun other unused _ => climbs.fresh other unused (by simp [shut])

theorem closeSub (climbs : Climbs top below types) {sub : OpenBlock} (opened : top.sub = some sub)
    (stop : Position) : Climbs (top.closeSub stop) (below ++ [['.', '.'], []]) types := by
  have closed : top.closeSub stop =
      { top with children := top.children ++ [sub.close stop], sub := none } := by
    simp [OpenTop.closeSub, opened]
  rw [closed]
  constructor
  case named => exact climbs.named
  case innerNamed => simp
  case unbroken => exact List.forall_mem_append.mpr ⟨climbs.unbroken, by decide⟩
  case walked =>
    have names : top.names.reverse = [sub.name, top.block.name] := by
      simp [OpenTop.names, opened]
    rw [List.foldl_append, climbs.walked, names,
      Route.foldl_advance_closing (climbs.innerNamed sub opened)]
    rfl
  case own => exact climbs.own
  case inner => simp
  case fresh =>
    intro name unused _
    rw [List.map_append, List.mem_append, not_or] at unused
    apply climbs.fresh name unused.1
    intro other same
    obtain rfl := Option.some.inj (opened.symm.trans same)
    exact fun taken => unused.2 (by simp [OpenBlock.close, taken])

theorem addParameter (climbs : Climbs top below types) {parameter : Parameter}
    (fresh : findParameter? top.innermost.parameters parameter.name = none) :
    Climbs (top.addParameter parameter) below
      (types ++ (Content.parameter parameter.name parameter.value).typeWord?.toList.map
        (·, top.block.name :: below)) := by
  have leads := climbs.leads
  cases opened : top.sub with
  | none =>
      have added : top.addParameter parameter =
          { top with
            block := { top.block with parameters := top.block.parameters ++ [parameter] } } := by
        simp [OpenTop.addParameter, opened]
      have names : top.names = [top.block.name] := by simp [OpenTop.names, opened]
      rw [OpenTop.innermost, opened] at fresh
      rw [added]
      constructor
      case named => exact climbs.named
      case innerNamed => exact climbs.innerNamed
      case unbroken => exact climbs.unbroken
      case walked => exact climbs.walked
      case own =>
        rw [typeAt_append, leads, names, climbs.own, if_pos rfl]
        exact (givenType?_append fresh).symm
      case inner => simp [opened]
      case fresh =>
        intro name unused apart
        rw [typeAt_append, leads, names, climbs.fresh name unused apart]
        simp
  | some sub =>
      have added : top.addParameter parameter =
          { top with sub := some { sub with parameters := sub.parameters ++ [parameter] } } := by
        simp [OpenTop.addParameter, opened]
      have names : top.names = [top.block.name, sub.name] := by simp [OpenTop.names, opened]
      rw [OpenTop.innermost, opened] at fresh
      rw [added]
      constructor
      case named => exact climbs.named
      case innerNamed => simpa using climbs.innerNamed sub opened
      case unbroken => exact climbs.unbroken
      case walked => simpa [OpenTop.names, opened] using climbs.walked
      case own =>
        rw [typeAt_append, leads, names, climbs.own]
        simp
      case inner =>
        intro other same
        obtain rfl := Option.some.inj same
        rw [typeAt_append, leads, names, climbs.inner sub opened, if_pos rfl]
        exact (givenType?_append fresh).symm
      case fresh =>
        intro name unused apart
        have distinct : sub.name ≠ name :=
          apart { sub with parameters := sub.parameters ++ [parameter] } rfl
        have before := climbs.fresh name unused (by simpa [opened] using distinct)
        rw [typeAt_append, leads, names, before]
        simp [distinct]

end Climbs

/-- What reading upwards from some place gives, whatever was met below it: nothing outside every
block, and inside a block all that it climbs through. -/
def Reads (above : List Text) : Option OpenTop → Prop
  | none => ∀ trail, scan trail above = {}
  | some top => ∃ below types, Climbs top below types ∧
      ∀ trail, scan trail above = (trail.behind (top.block.name :: below) types).context

theorem fits_of_content (level : Level) {row name : Text}
    (content : (Line.read row).content = level.opening name) : FitsTag name :=
  ((Line.content_eq_opening_iff level name row).mp content).1.fits

theorem Reads.step {above : List Text} {row : Text} {current next : Option OpenTop}
    (reads : Reads above current) (advances : Advances current (Line.read row).content next)
    (plain : (Line.read row).content = .other → ¬ Line.Bracketed row) (unbroken : '\n' ∉ row) :
    Reads (Line.uncommented row :: above) next := by
  have tag := Line.tag?_uncommented plain
  have word := Line.typeWord?_uncommented unbroken
  generalize content : (Line.read row).content = reading at advances tag word
  -- An opening or closing tag of a sub-block lengthens the segments at their lower end, where the
  -- trail of what was met below is put behind them.
  cases advances with
  | openTop name start =>
      have fits : FitsTag name := fits_of_content .top content
      refine ⟨[], [], Climbs.openTop fits start, fun trail => ?_⟩
      rw [scan_of_top tag fits]
      rfl
  | closeTop shut => exact fun trail => scan_of_closing tag
  | @openSub top shut name fresh start =>
      have fits : FitsTag name := fits_of_content .sub content
      have pieces : splitOn '/' ('.' :: '/' :: name) = [['.'], name] := by
        simp [splitOn, splitOn_of_not_mem fits.slash_not_mem]
      obtain ⟨below, types, climbs, scanned⟩ := reads
      refine ⟨below ++ [['.'], name], types, climbs.openSub shut fits fresh start, fun trail => ?_⟩
      rw [scan_of_relative tag pieces rfl, scanned, Trail.behind_enter]
      rfl
  | @closeSub top sub opened stop =>
      obtain ⟨below, types, climbs, scanned⟩ := reads
      have sameName : (top.closeSub stop).block.name = top.block.name := by
        simp [OpenTop.closeSub, opened]
      refine ⟨below ++ [['.', '.'], []], types, climbs.closeSub opened stop, fun trail => ?_⟩
      rw [scan_of_relative tag rfl rfl, scanned, Trail.behind_enter, sameName]
      rfl
  | @parameter top parameter fresh =>
      obtain ⟨below, types, climbs, scanned⟩ := reads
      have sameName : (top.addParameter parameter).block.name = top.block.name := by
        cases opened : top.sub <;> simp [OpenTop.addParameter, opened]
      refine ⟨below, _, climbs.addParameter fresh, fun trail => ?_⟩
      rw [scan_of_untagged tag, scanned, Trail.behind_types, word, sameName]
  | outside name value =>
      intro trail
      rw [scan_of_untagged tag]
      exact reads _
  | idle current passed =>
      have silent : ∀ trail, scan trail (Line.uncommented row :: above) = scan trail above := by
        intro trail
        rcases passed with rfl | rfl | rfl <;> rw [scan_of_untagged tag, word] <;> rfl
      cases current with
      | none => exact fun trail => (silent trail).trans (reads trail)
      | some top =>
          obtain ⟨below, types, climbs, scanned⟩ := reads
          exact ⟨below, types, climbs, fun trail => (silent trail).trans (scanned trail)⟩

theorem reads_run {rows : List Text} (orderly : Orderly (State.run {} rows).found)
    (plain : ∀ row ∈ rows, (Line.read row).content = .other → ¬ Line.Bracketed row)
    (unbroken : ∀ row ∈ rows, '\n' ∉ row) :
    Reads (rows.reverse.map Line.uncommented) (State.run {} rows).current := by
  induction rows using List.reverseRecOn with
  | nil => exact fun _ => rfl
  | append_singleton rows row ih =>
      rw [List.forall_mem_append, List.forall_mem_singleton] at plain unbroken
      rw [State.run_append, State.run_cons, State.run_nil] at orderly ⊢
      obtain ⟨earlier, advances⟩ := State.advances_step orderly
      have reads := ih earlier plain.1 unbroken.1
      simpa using reads.step advances plain.2 unbroken.2

theorem Reads.scan_eq {above : List Text} {state : State} (reads : Reads above state.current) :
    scan {} above = state.context := by
  rw [State.context]
  cases current : state.current with
  | none =>
      rw [current] at reads
      exact reads {}
  | some top =>
      rw [current] at reads
      obtain ⟨below, types, climbs, scanned⟩ := reads
      have whole : Trail.behind {} (top.block.name :: below) types =
          ⟨top.block.name :: below, types⟩ := by
        simp [Trail.behind]
      rw [scanned, whole, Trail.context, climbs.leads]
      exact congrArg (Context.mk top.names) climbs.typeAt_names

end Context

namespace Document

theorem range_append {doc : Document} {row : Nat} {before middle after : Text}
    (here : doc.rows[row]? = some (before ++ middle ++ after)) :
    doc.range ⟨row, before.length⟩ ⟨row, (before ++ middle).length⟩ = .ok middle := by
  have inside : row < doc.rows.length := (List.getElem?_eq_some_iff.mp here).1
  have ordered : ¬ (⟨row, (before ++ middle).length⟩ : Position) < ⟨row, before.length⟩ := by
    simp only [Position.lt_def, List.length_append]
    omega
  have within : ¬ (doc.rows.length : Int) ≤ row := by omega
  have found : doc.rowAt row = .ok (before ++ middle ++ after) := by
    simp [rowAt, Slice.element, here]
  have cut : Slice.between (before ++ middle ++ after) before.length (before ++ middle).length =
      middle := by
    have first : before.length ≤ (before ++ middle ++ after).length := by simp
    have last : (before ++ middle).length ≤ (before ++ middle ++ after).length := by simp
    rw [Slice.between, Slice.boundary_ofNat, Slice.boundary_ofNat, Nat.min_eq_left first,
      Nat.min_eq_left last, List.take_left, List.drop_left]
  simp only [range, ordered, within, if_false, found]
  exact congrArg Except.ok cut

theorem range_row {doc : Document} {row : Nat} {line : Text} (here : doc.rows[row]? = some line) :
    doc.range ⟨row, 0⟩ ⟨row, line.length⟩ = .ok line := by
  rw [← List.append_nil line, ← List.nil_append line] at here
  exact range_append here

theorem context_row {doc : Document} {row : Nat} {line : Text}
    (here : doc.rows[row]? = some line) :
    doc.context ⟨row, line.length⟩ =
      .ok (Context.scan {} ((doc.rows.take (row + 1)).reverse.map Line.uncommented)) := by
  have upTo : (doc.rows.take (row + 1)).reverse = line :: (doc.rows.take row).reverse := by
    rw [List.take_add_one, here]
    simp
  rw [context, range_row here, upTo]
  rfl

/-- In a document without duplicates whose blocks open and close in turn, where brackets at the
start of a row are tags, reading upwards from the end of a row finds the blocks that reading
downwards has open there, and the type that the innermost one has been given. -/
theorem context_eq_open_block (text path : Text)
    (orderly : ∀ diagnostic ∈ (ofText text path).structuralDiagnostics,
      diagnostic.kind ≠ .duplication ∧
        (diagnostic.kind = .closure → diagnostic.problem = .unclosed))
    (plain : ∀ row ∈ (ofText text path).rows,
      (Line.read row).content = .other → ¬ Line.Bracketed row)
    (row : Nat) (line : Text) (here : (ofText text path).rows[row]? = some line) :
    (ofText text path).context ⟨row, line.length⟩ =
      .ok (Outline.State.run {} ((ofText text path).rows.take (row + 1))).context := by
  have reads := Context.reads_run (Outline.orderly_take orderly (row + 1))
    (fun other member => plain other (List.mem_of_mem_take member))
    (fun other member => not_mem_of_mem_splitOn (List.mem_of_mem_take member))
  rw [context_row here, reads.scan_eq]

def siblings : Text :=
  joinWith ['\n']
    (["[Kernels]", "  [./a]", "    type = Diffusion", "  [../]", "  type = Group",
      "  [./b]  # last", "    type = Reaction  # fast", "    [u"].map String.toList)

theorem siblings_context :
    (∀ diagnostic ∈ (ofText siblings unnamed).structuralDiagnostics,
      diagnostic.problem = .unclosed) ∧
    (ofText siblings unnamed).context ⟨7, 6⟩ =
      .ok ⟨["Kernels".toList, "b".toList], some "Reaction".toList⟩ ∧
    (ofText siblings unnamed).context ⟨4, 14⟩ = .ok ⟨["Kernels".toList], some "Group".toList⟩ := by
  have orderly : ∀ diagnostic ∈ (ofText siblings unnamed).structuralDiagnostics,
      diagnostic.kind ≠ .duplication ∧
        (diagnostic.kind = .closure → diagnostic.problem = .unclosed) := by decide +kernel
  have plain : ∀ row ∈ (ofText siblings unnamed).rows,
      (Line.read row).content = .other → ¬ Line.Bracketed row := by decide +kernel
  refine ⟨by decide +kernel, ?_, ?_⟩
  · exact (context_eq_open_block siblings unnamed orderly plain 7 "    [u".toList
      (by decide +kernel)).trans (by decide +kernel)
  · exact (context_eq_open_block siblings unnamed orderly plain 4 "  type = Group".toList
      (by decide +kernel)).trans (by decide +kernel)

end Document

end InputDeck
