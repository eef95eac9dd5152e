import InputDeck.Proofs.Deck.Render
import InputDeck.Proofs.Outline.Grammar

/-!
Decks in the making.  What has been read of a document is a deck whose last block may be open, and
every row that is legal there takes it to the next one.  A supply of parameters may be put in front
of those that a block has, which is how a document reads once they have been written into it.
-/

namespace InputDeck

namespace Deck

/-- The closed blocks, the block that is open, and its sub-block if one is open. -/
structure Draft where
  tops : Deck
  top : Option Top := none
  sub : Option Sub := none
deriving DecidableEq, Repr

namespace Draft

def depth : Draft → Nat
  | { top := some _, sub := some _, .. } => 2
  | { top := some _, sub := none, .. } => 1
  | { top := none, .. } => 0

def extend (draft : Draft) (entries : List Entry) : Draft :=
  match draft with
  | { tops, top, sub := some sub } =>
      { tops, top, sub := some { sub with entries := sub.entries ++ entries } }
  | { tops, top, sub := none } =>
      { tops, top := top.map fun top => { top with entries := top.entries ++ entries } }

/-- What a row leads to, if it is legal.  A block that it opens starts with the parameters that are
supplied. -/
def accept (supplied : List Entry) (draft : Draft) (content : Content) : Option Draft :=
  match content, draft with
  | .openTop name, { tops, top := none, .. } =>
      some { tops, top := some ⟨⟨name, supplied⟩, []⟩ }
  | .closeTop, { tops, top := some top, sub := none } => some { tops := tops ++ [top] }
  | .openSub name, { tops, top := some top, sub := none } =>
      some { tops, top := some top, sub := some ⟨name, supplied⟩ }
  | .closeSub, { tops, top := some top, sub := some sub } =>
      some { tops, top := some { top with subs := top.subs ++ [sub] } }
  | .parameter name value, draft => some (draft.extend [⟨name, value.map (·.text)⟩])
  | .comment, draft | .blank, draft | .other, draft => some draft
  | _, _ => none

variable {supplied : List Entry} {before after : Draft} {content : Content}

theorem extend_nil (draft : Draft) : draft.extend [] = draft := by
  obtain ⟨tops, top, sub⟩ := draft
  cases sub <;> cases top <;> simp [extend]

theorem extend_append (draft : Draft) (first second : List Entry) :
    (draft.extend first).extend second = draft.extend (first ++ second) := by
  obtain ⟨tops, top, sub⟩ := draft
  cases sub <;> cases top <;> simp [extend]

theorem depth_extend (draft : Draft) (entries : List Entry) :
    (draft.extend entries).depth = draft.depth := by
  obtain ⟨tops, top, sub⟩ := draft
  cases sub <;> cases top <;> rfl

theorem depth_accept {tag : Tag} (tagged : content.tag? = some tag) :
    (before.accept supplied content).map depth = tag.next before.depth := by
  obtain ⟨tops, top, sub⟩ := before
  cases content <;> cases tagged <;> cases top <;> cases sub <;> rfl

theorem depth_accept_untagged (untagged : content.tag? = none) :
    (before.accept supplied content).map depth = some before.depth := by
  cases content <;> cases untagged
  case parameter name value => exact congrArg some (before.depth_extend _)
  all_goals rfl

theorem accept_eq_extend
    (opens : supplied ≠ [] → ∃ (level : Level) (name : Text), content = level.opening name) :
    before.accept supplied content = (before.accept [] content).map (·.extend supplied) := by
  cases supplied with
  | nil => simp [extend_nil]
  | cons entry rest =>
      obtain ⟨level, name, rfl⟩ := opens (List.cons_ne_nil entry rest)
      obtain ⟨tops, top, sub⟩ := before
      cases level <;> cases top <;> cases sub <;> rfl

end Draft

/-! What has been read, with supplied parameters. -/

variable {supply : Int → List Entry}

def Sub.supplied (supply : Int → List Entry) (block : Outline.Block) : Sub :=
  ⟨block.name, supply block.start.row ++ block.parameters.map Entry.ofParameter⟩

def Top.supplied (supply : Int → List Entry) (top : Outline.TopBlock) : Top :=
  { Sub.supplied supply top.toBlock with subs := top.children.map (Sub.supplied supply) }

def Sub.drafted (supply : Int → List Entry) (block : Outline.OpenBlock) : Sub :=
  ⟨block.name, supply block.start.row ++ block.parameters.map Entry.ofParameter⟩

def Top.drafted (supply : Int → List Entry) (top : Outline.OpenTop) : Top :=
  { Sub.drafted supply top.block with subs := top.children.map (Sub.supplied supply) }

/-- What has been read, the parameters of each block behind those that are supplied for its row. -/
def draft (supply : Int → List Entry) (state : Outline.State) : Draft where
  tops := state.closed.map (Top.supplied supply)
  top := state.current.map (Top.drafted supply)
  sub := (state.current.bind (·.sub)).map (Sub.drafted supply)

abbrev plain : Outline.State → Draft :=
  draft fun _ => []

section Steps

variable {state : Outline.State} {opened : Outline.OpenTop} {row : Text} {after : Draft}

theorem depth_draft (supply : Int → List Entry) (state : Outline.State) :
    (draft supply state).depth = state.depth := by
  cases current : state.current with
  | none => simp [draft, Draft.depth, Outline.State.depth, current]
  | some opened =>
      cases sub : opened.sub <;>
        simp [draft, Draft.depth, Outline.State.depth, Outline.OpenTop.depth, current, sub]

theorem draft_reportDuplicate (supply : Int → List Entry) (state : Outline.State)
    (siblings : List Text) (name : Text) (start stop : Position) :
    draft supply (state.reportDuplicate siblings name start stop) = draft supply state := by
  rw [Outline.State.reportDuplicate]
  split <;> rfl

theorem draft_current (state : Outline.State) (opened : Outline.OpenTop) :
    draft supply { state with current := some opened } =
      { tops := (draft supply state).tops, top := some (Top.drafted supply opened),
        sub := opened.sub.map (Sub.drafted supply) } := rfl

theorem draft_openTop (outside : state.current = none) (name : Text) (start stop : Position) :
    draft supply (state.openTop name start stop) =
      { tops := (draft supply state).tops, top := some ⟨⟨name, supply start.row⟩, []⟩ } := by
  simp only [Outline.State.openTop, outside, draft_current, draft_reportDuplicate]
  simp [Top.drafted, Sub.drafted]

theorem supplied_close (shut : opened.sub = none) (stop : Position) :
    Top.supplied supply (opened.close stop) = Top.drafted supply opened := by
  simp [Top.supplied, Top.drafted, Sub.supplied, Sub.drafted, Outline.OpenTop.close,
    Outline.OpenTop.closeSub, Outline.OpenBlock.close, shut]

theorem draft_closeTop (inside : state.current = some opened) (shut : opened.sub = none)
    (start stop : Position) :
    draft supply (state.closeTop start stop) =
      { tops := (draft supply state).tops ++ [Top.drafted supply opened] } := by
  simp [Outline.State.closeTop, inside, shut, draft, supplied_close shut]

theorem draft_openSub (inside : state.current = some opened) (shut : opened.sub = none)
    (name : Text) (start stop : Position) :
    draft supply (state.openSub name start stop) =
      { tops := (draft supply state).tops, top := some (Top.drafted supply opened),
        sub := some ⟨name, supply start.row⟩ } := by
  simp only [Outline.State.openSub, inside, shut, Option.isSome_none, Bool.false_eq_true,
    if_false, Outline.State.openSubOf, draft_current, draft_reportDuplicate]
  simp [Top.drafted, Sub.drafted]

theorem draft_closeSub {sub : Outline.OpenBlock} (inside : state.current = some opened)
    (here : opened.sub = some sub) (start stop : Position) :
    draft supply (state.closeSub start stop) =
      { tops := (draft supply state).tops,
        top := some { Top.drafted supply opened with
          subs := (Top.drafted supply opened).subs ++ [Sub.drafted supply sub] } } := by
  simp only [Outline.State.closeSub, inside, here, Option.isSome_some, if_true, draft_current,
    Outline.OpenTop.closeSub]
  simp [Top.drafted, Sub.drafted, Sub.supplied, Outline.OpenBlock.close]

theorem draft_addParameter (name : Text) (value : Option Placed) (start stop : Position) :
    draft supply (state.addParameter name value start stop) =
      (draft supply state).extend [⟨name, value.map (·.text)⟩] := by
  cases inside : state.current with
  | none => simp [Outline.State.addParameter, inside, draft, Draft.extend]
  | some opened =>
      have added : draft supply (state.addParameter name value start stop) =
          draft supply { state with
            current := some (opened.addParameter { name, value, start, stop }) } := by
        simp only [Outline.State.addParameter, inside]
        split <;> rfl
      rw [added, draft_current]
      cases sub : opened.sub <;>
        simp [draft, inside, sub, Draft.extend, Outline.OpenTop.addParameter, Top.drafted,
          Sub.drafted, Entry.ofParameter, Outline.Parameter.valueText?]

theorem draft_step
    (accepted : (draft supply state).accept (supply state.row) (Line.read row).content =
      some after) : draft supply (state.step row) = after := by
  have same : draft supply (state.step row) = draft supply (state.accept (Line.read row)) := rfl
  rw [same, Outline.State.accept]
  cases content : (Line.read row).content with
  | parameter name value =>
      rw [content] at accepted
      rw [draft_addParameter]
      exact Option.some.inj accepted
  | comment | blank | other =>
      rw [content] at accepted
      exact Option.some.inj accepted
  | openTop name =>
      cases inside : state.current with
      | none =>
          rw [draft_openTop inside]
          simpa [draft, inside, content, Draft.accept] using accepted
      | some opened => simp [draft, inside, content, Draft.accept] at accepted
  | closeTop =>
      cases inside : state.current with
      | none => simp [draft, inside, content, Draft.accept] at accepted
      | some opened =>
          cases sub : opened.sub with
          | none =>
              rw [draft_closeTop inside sub]
              simpa [draft, inside, sub, content, Draft.accept] using accepted
          | some block => simp [draft, inside, sub, content, Draft.accept] at accepted
  | openSub name =>
      cases inside : state.current with
      | none => simp [draft, inside, content, Draft.accept] at accepted
      | some opened =>
          cases sub : opened.sub with
          | none =>
              rw [draft_openSub inside sub]
              simpa [draft, inside, sub, content, Draft.accept] using accepted
          | some block => simp [draft, inside, sub, content, Draft.accept] at accepted
  | closeSub =>
      cases inside : state.current with
      | none => simp [draft, inside, content, Draft.accept] at accepted
      | some opened =>
          cases sub : opened.sub with
          | none => simp [draft, inside, sub, content, Draft.accept] at accepted
          | some block =>
              rw [draft_closeSub inside sub]
              simpa [draft, inside, sub, content, Draft.accept] using accepted

theorem plain_step (accepted : (plain state).accept [] (Line.read row).content = some after) :
    plain (state.step row) = after :=
  draft_step accepted

end Steps

end Deck

end InputDeck
