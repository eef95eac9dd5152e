import InputDeck.Proofs.Analysis.Corrections

/-!
The check of blocks against the schema in two parts: first everything is asked of the schema, then
the blocks are judged by its replies.  Only the second part knows the tab width.
-/

namespace InputDeck

namespace Outline

/-! An outline without its descriptions. -/

def Parameter.undescribed (item : Parameter) : Parameter :=
  { item with description := [] }

def Block.undescribed (block : Block) : Block :=
  { block with description := [], parameters := block.parameters.map Parameter.undescribed }

def TopBlock.undescribed (top : TopBlock) : TopBlock :=
  { top.toBlock.undescribed with
    children := top.children.map Block.undescribed, inactive := top.inactive }

end Outline

namespace Analysis

open Outline Schema

/-- A block, and the path by which the schema knows it. -/
structure Subject where
  level : Level
  path : List Text
  block : Block

structure Reply where
  description : Text
  types : List Node
  known : List Param

def askTypes (path : List Text) : Option Text → Inquiry (List Node)
  | none | some [] => pure []
  | some _ => Inquiry.types path

def ask (path : List Text) (type : Option Text) : Inquiry (Option Reply) := do
  match ← Inquiry.find? path with
  | none => return none
  | some found =>
      let types ← askTypes path type
      let params ← Inquiry.parameters path type
      return some { description := found.node.description, types, known := firstOfName params }

structure Case extends Subject where
  reply : Option Reply

namespace Case

def findings (width : Int) (case : Case) : List Diagnostic :=
  match case.reply with
  | none => [{
      problem := .unknownBlock case.path, start := case.block.start,
      stop := case.block.headerEnd case.level }]
  | some reply =>
      let wrongType := unknownType case.block reply.types
      if wrongType.isEmpty then
        case.block.parameters.filterMap (unknownParameter reply.known) ++
          missingParameters width case.level case.block reply.known
      else
        wrongType

def described (case : Case) : Block :=
  match case.reply with
  | none => case.block
  | some reply =>
      { case.block with
        description := reply.description,
        parameters := case.block.parameters.map (describe reply.known) }

end Case

def Subject.ask (subject : Subject) : Inquiry Case := do
  return { subject with reply := ← Analysis.ask subject.path subject.block.type? }

def survey : List Subject → Inquiry (List Case)
  | [] => return []
  | subject :: rest => do
      let case ← subject.ask
      return case :: (← survey rest)

theorem survey_append (first second : List Subject) :
    survey (first ++ second) = do
      let cases ← survey first
      return cases ++ (← survey second) := by
  induction first with
  | nil => rfl
  | cons subject first ih =>
      rw [List.cons_append, survey, ih]
      rfl

def subjects (top : TopBlock) : List Subject :=
  if top.name.isEmpty then
    []
  else
    ⟨.top, [top.name], top.toBlock⟩ ::
      top.children.map (fun child => ⟨.sub, [top.name, child.name], child⟩)

theorem checkParameters_eq (width : Int) (level : Level) (path : List Text) (block : Block)
    (description : Text) :
    checkParameters width level path { block with description } = do
      let types ← askTypes path block.type?
      let params ← Inquiry.parameters path block.type?
      let reply : Reply := { description, types, known := firstOfName params }
      let case : Case := { level, path, block, reply := some reply }
      return (case.described, case.findings width) := by
  have judged : ∀ (types : List Node) (params : List Param),
      (if (unknownType { block with description } types).isEmpty then
        (pure ({ block with
            description, parameters := block.parameters.map (describe (firstOfName params)) },
          block.parameters.filterMap (unknownParameter (firstOfName params)) ++
            missingParameters width level { block with description } (firstOfName params)) :
            Inquiry (Block × List Diagnostic))
      else
        pure ({ block with
            description, parameters := block.parameters.map (describe (firstOfName params)) },
          unknownType { block with description } types)) =
      pure (({ level, path, block, reply := some ⟨description, types, firstOfName params⟩ } :
          Case).described,
        ({ level, path, block, reply := some ⟨description, types, firstOfName params⟩ } :
          Case).findings width) := by
    intro types params
    have same : unknownType { block with description } types = unknownType block types := rfl
    rw [same]
    simp only [Case.findings, Case.described]
    split <;> rfl
  unfold checkParameters
  dsimp only
  have type : ({ block with description } : Block).type? = block.type? := rfl
  rw [type]
  cases block.type? with
  | none => simp only [judged]; rfl
  | some type =>
      cases type with
      | nil => simp only [judged]; rfl
      | cons c rest => simp only [judged]; rfl

theorem checkBlock_eq (width : Int) (level : Level) (path : List Text) (block : Block) :
    checkBlock width level path block = do
      let case ← Subject.ask ⟨level, path, block⟩
      return (case.described, case.findings width) := by
  unfold checkBlock Subject.ask ask
  simp only [bind_assoc]
  congr 1
  funext found
  cases found with
  | none => rfl
  | some found =>
      simp only [checkParameters_eq, bind_assoc, pure_bind]

/-- A check is made by asking about some blocks.  What it describes does not depend on the tab
width, and what it finds is what is wrong with each of the blocks. -/
def Asks {α : Type} (check : Int → Inquiry (α × List Diagnostic)) (subjects : List Subject) :
    Prop :=
  ∀ catalog, ∃ described, ∀ width, (check width).run catalog =
    ((described, ((survey subjects).run catalog).1.flatMap (Case.findings width)),
      ((survey subjects).run catalog).2)

theorem Asks.pure {α : Type} (value : α) : Asks (fun _ => Pure.pure (value, [])) [] :=
  fun _ => ⟨value, fun _ => rfl⟩

theorem Asks.append {α β γ : Type} {first : Int → Inquiry (α × List Diagnostic)}
    {second : Int → Inquiry (β × List Diagnostic)} {one two : List Subject}
    (asksFirst : Asks first one) (asksSecond : Asks second two) (both : α → β → γ) :
    Asks (fun width => do
      let (value, found) ← first width
      let (other, others) ← second width
      return (both value other, found ++ others)) (one ++ two) := by
  intro catalog
  obtain ⟨value, asked⟩ := asksFirst catalog
  obtain ⟨other, askedNext⟩ := asksSecond ((survey one).run catalog).2
  refine ⟨both value other, fun width => ?_⟩
  have started := asked width
  have finished := askedNext width
  calc
    _ = ((both ((first width).run catalog).1.1
            ((second width).run ((first width).run catalog).2).1.1,
          ((first width).run catalog).1.2 ++
            ((second width).run ((first width).run catalog).2).1.2),
        ((second width).run ((first width).run catalog).2).2) := rfl
    _ = _ := by
      rw [started, finished, survey_append, ← List.flatMap_append]
      rfl

theorem checkBlock_asks (level : Level) (path : List Text) (block : Block) :
    Asks (fun width => checkBlock width level path block) [⟨level, path, block⟩] := by
  intro catalog
  refine ⟨((Subject.ask ⟨level, path, block⟩).run catalog).1.described, fun width => ?_⟩
  have found : ∀ case : Case,
      [case].flatMap (Case.findings width) = case.findings width := fun _ => List.append_nil _
  calc
    (checkBlock width level path block).run catalog =
        ((((Subject.ask ⟨level, path, block⟩).run catalog).1.described,
          ((Subject.ask ⟨level, path, block⟩).run catalog).1.findings width),
        ((Subject.ask ⟨level, path, block⟩).run catalog).2) := by
      rw [checkBlock_eq]
      rfl
    _ = _ := by
      rw [← found]
      rfl

theorem checkChildren_asks (parent : Text) (children : List Block) :
    Asks (fun width => checkChildren width parent children)
      (children.map fun child => ⟨.sub, [parent, child.name], child⟩) := by
  induction children with
  | nil => exact Asks.pure []
  | cons child rest ih => exact (checkBlock_asks .sub _ child).append ih List.cons

theorem checkTop_asks (top : TopBlock) : Asks (checkTop · top) (subjects top) := by
  unfold checkTop subjects
  cases named : top.name.isEmpty with
  | true => exact Asks.pure top
  | false =>
      exact (checkBlock_asks .top [top.name] top.toBlock).append
        (checkChildren_asks top.name top.children)
        fun block children => ({ block with children, inactive := top.inactive } : TopBlock)

theorem checkTops_asks (tops : List TopBlock) :
    Asks (checkTops · tops) (tops.flatMap subjects) := by
  induction tops with
  | nil => exact Asks.pure []
  | cons top rest ih => exact (checkTop_asks top).append ih List.cons

/-! What a check leaves of an outline: it gives descriptions and changes nothing else. -/

theorem undescribed_describe (known : List Param) (item : Parameter) :
    (describe known item).undescribed = item.undescribed := by
  unfold describe
  split
  · rfl
  · rfl

theorem undescribed_described (case : Case) :
    case.described.undescribed = case.block.undescribed := by
  unfold Case.described
  split
  · rfl
  · simp [Block.undescribed, Function.comp_def, undescribed_describe]

section Undescribed

variable (width : Int) (catalog : Catalog)

theorem undescribed_checkBlock (level : Level) (path : List Text) (block : Block) :
    ((checkBlock width level path block).run catalog).1.1.undescribed = block.undescribed := by
  rw [checkBlock_eq]
  exact undescribed_described ((Subject.ask ⟨level, path, block⟩).run catalog).1

theorem undescribed_checkChildren (parent : Text) (children : List Block) :
    ((checkChildren width parent children).run catalog).1.1.map Block.undescribed =
      children.map Block.undescribed := by
  induction children generalizing catalog with
  | nil => rfl
  | cons child rest ih =>
      have first := undescribed_checkBlock width catalog .sub [parent, child.name] child
      have others := ih ((checkBlock width .sub [parent, child.name] child).run catalog).2
      exact congrArg₂ List.cons first others

theorem undescribed_checkTop (top : TopBlock) :
    ((checkTop width top).run catalog).1.1.undescribed = top.undescribed := by
  unfold checkTop
  split
  · rfl
  · have block := undescribed_checkBlock width catalog .top [top.name] top.toBlock
    have children := undescribed_checkChildren width
      ((checkBlock width .top [top.name] top.toBlock).run catalog).2 top.name top.children
    exact congrArg₂ (fun block children => ({ block with
      children, inactive := top.inactive } : TopBlock)) block children

theorem undescribed_checkTops (tops : List TopBlock) :
    ((checkTops width tops).run catalog).1.1.map TopBlock.undescribed =
      tops.map TopBlock.undescribed := by
  induction tops generalizing catalog with
  | nil => rfl
  | cons top rest ih =>
      have others := ih ((checkTop width top).run catalog).2
      exact congrArg₂ List.cons (undescribed_checkTop width catalog top) others

end Undescribed

def inspect (doc : Document) : Inquiry (List Case) := do
  if ← Inquiry.isLoaded then survey (doc.outline.flatMap subjects) else return []

def schemaWidth (width : Option Int) : Int :=
  (width.filter (· != 0)).getD 4

/-- A check of a document describes its outline, and finds what is wrong with its structure, what
the schema says is wrong with its blocks, what its switches name in vain, and its layout. -/
theorem assess_run (doc : Document) (catalog : Catalog) :
    ∃ outline : List TopBlock,
      outline.map TopBlock.undescribed = doc.outline.map TopBlock.undescribed ∧
      (∀ width, ((assess doc width).run catalog).1.outline = outline.map markInactive) ∧
      ∀ width, ((assess doc width).run catalog).1.diagnostics = Diagnostic.sortByStart
        (doc.structuralDiagnostics ++
          ((inspect doc).run catalog).1.flatMap (Case.findings (schemaWidth width)) ++
          outline.flatMap checkSwitches ++ layoutFindings doc width) ∧
      ((assess doc width).run catalog).2 = ((inspect doc).run catalog).2 := by
  let next := (Inquiry.isLoaded.run catalog).2
  have asked {α : Type} (rest : Bool → Inquiry α) : (Inquiry.isLoaded >>= rest).run catalog =
      (rest (Inquiry.isLoaded.run catalog).1).run next := rfl
  cases loaded : (Inquiry.isLoaded.run catalog).1 with
  | true =>
      obtain ⟨outline, checked⟩ := checkTops_asks doc.outline next
      have described := undescribed_checkTops 0 next doc.outline
      rw [checked] at described
      refine ⟨outline, described, fun width => ?_, fun width => ?_⟩
      · have given : ((assess doc width).run catalog).1.outline =
            ((checkTops (schemaWidth width) doc.outline).run next).1.1.map markInactive := by
          rw [assess, asked, loaded]
          rfl
        rw [given, checked]
      · have whole : (checkTops (schemaWidth width) doc.outline).run next = _ := checked _
        have inspected : (inspect doc).run catalog =
            (survey (doc.outline.flatMap subjects)).run next := by
          rw [inspect, asked, loaded]
          rfl
        have found : ((assess doc width).run catalog).1.diagnostics = Diagnostic.sortByStart
            (doc.structuralDiagnostics ++
              ((checkTops (schemaWidth width) doc.outline).run next).1.2 ++
              ((checkTops (schemaWidth width) doc.outline).run next).1.1.flatMap checkSwitches ++
              layoutFindings doc width) := by
          rw [assess, asked, loaded]
          rfl
        have after : ((assess doc width).run catalog).2 =
            ((checkTops (schemaWidth width) doc.outline).run next).2 := by
          rw [assess, asked, loaded]
          rfl
        rw [found, after, whole, inspected]
        exact ⟨rfl, rfl⟩
  | false =>
      refine ⟨doc.outline, rfl, fun width => ?_, fun width => ?_⟩
      · rw [assess, asked, loaded]
        rfl
      · rw [assess, inspect, asked, asked, loaded]
        simp only [Bool.false_eq_true, if_false]
        exact ⟨rfl, rfl⟩

end Analysis

end InputDeck
