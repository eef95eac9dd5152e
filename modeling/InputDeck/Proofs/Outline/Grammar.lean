import InputDeck.Outline.Read
import Mathlib.Computability.RegularExpressions

/-!
The grammar of tags.  Reading finds no fault with the way blocks open and close exactly when the
tags of a document form blocks one after another, each with sub-blocks one after another.
-/

namespace InputDeck

inductive Tag where
  | openTop
  | closeTop
  | openSub
  | closeSub
deriving DecidableEq, Repr

def Content.tag? : Content → Option Tag
  | .openTop _ => some .openTop
  | .closeTop => some .closeTop
  | .openSub _ => some .openSub
  | .closeSub => some .closeSub
  | _ => none

def Line.tagOf? (row : Text) : Option Tag :=
  (read row).content.tag?

def Document.tags (doc : Document) : List Tag :=
  doc.rows.filterMap Line.tagOf?

namespace Tag

open RegularExpression

def subBlock : RegularExpression Tag :=
  char openSub * char closeSub

def topBlock : RegularExpression Tag :=
  char openTop * star subBlock * char closeTop

def grammar : RegularExpression Tag :=
  star topBlock

/-- The depth behind a tag that is legal at a depth. -/
def next : Nat → Tag → Option Nat
  | 0, openTop => some 1
  | 1, closeTop => some 0
  | 1, openSub => some 2
  | 2, closeSub => some 1
  | _, _ => none

private theorem foldlM_next_subBlocks {tags : List Tag} (member : tags ∈ (star subBlock).matches') :
    tags.foldlM next 1 = some 1 := by
  obtain ⟨words, rfl, blocks⟩ := Language.mem_kstar.mp member
  clear member
  induction words with
  | nil => rfl
  | cons word words ih =>
      obtain ⟨first, rfl, second, rfl, rfl⟩ := Language.mem_mul.mp (blocks word (by simp))
      rw [List.flatten_cons, List.foldlM_append]
      exact ih fun other inside => blocks other (List.mem_cons_of_mem _ inside)

theorem foldlM_next_of_mem_grammar {tags : List Tag} (member : tags ∈ grammar.matches') :
    tags.foldlM next 0 = some 0 := by
  obtain ⟨words, rfl, blocks⟩ := Language.mem_kstar.mp member
  clear member
  induction words with
  | nil => rfl
  | cons word words ih =>
      have rest := ih fun other inside => blocks other (List.mem_cons_of_mem _ inside)
      obtain ⟨inner, opened, closing, rfl, rfl⟩ := Language.mem_mul.mp (blocks word (by simp))
      obtain ⟨first, rfl, subs, subBlocks, rfl⟩ := Language.mem_mul.mp opened
      have through := foldlM_next_subBlocks subBlocks
      simp only [List.flatten_cons, List.foldlM_append, List.foldlM_cons, List.foldlM_nil, next,
        through, Option.pure_def, Option.bind_eq_bind, Option.bind_some]
      exact rest

/-- What brings an open block to its end: sub-blocks, the closing tag, and further blocks. -/
def Remainder (tags : List Tag) : Prop :=
  ∃ subs ∈ (star subBlock).matches', ∃ rest ∈ grammar.matches', tags = subs ++ closeTop :: rest

private theorem singleton_mem (tag : Tag) : [tag] ∈ (char tag).matches' := rfl

private theorem append_mem_kstar {language : Language Tag} {word rest : List Tag}
    (member : word ∈ language) (members : rest ∈ KStar.kstar language) :
    word ++ rest ∈ KStar.kstar language :=
  (mul_kstar_le_kstar : language * KStar.kstar language ≤ KStar.kstar language)
    (Language.append_mem_mul member members)

private theorem openTop_mem_grammar {tags : List Tag} (remainder : Remainder tags) :
    openTop :: tags ∈ grammar.matches' := by
  obtain ⟨subs, subBlocks, rest, blocks, rfl⟩ := remainder
  have opened : [openTop] ++ subs ∈ (char openTop * star subBlock).matches' :=
    Language.append_mem_mul (singleton_mem openTop) subBlocks
  have block : [openTop] ++ subs ++ [closeTop] ∈ topBlock.matches' :=
    Language.append_mem_mul opened (singleton_mem closeTop)
  have whole := append_mem_kstar block blocks
  rw [List.append_assoc] at whole
  exact whole

private theorem openSub_remainder {tags : List Tag} (remainder : Remainder tags) :
    Remainder (openSub :: closeSub :: tags) := by
  obtain ⟨subs, subBlocks, rest, blocks, rfl⟩ := remainder
  have block : [openSub] ++ [closeSub] ∈ subBlock.matches' :=
    Language.append_mem_mul (singleton_mem openSub) (singleton_mem closeSub)
  exact ⟨[openSub] ++ [closeSub] ++ subs, append_mem_kstar block subBlocks, rest, blocks, rfl⟩

-- Depths are read backwards into what is still missing: nothing, the rest of a block, or the rest
-- of a sub-block and of the block around it.
private theorem missing_of_foldlM_next (tags : List Tag) :
    (tags.foldlM next 0 = some 0 → tags ∈ grammar.matches') ∧
      (tags.foldlM next 1 = some 0 → Remainder tags) ∧
      (tags.foldlM next 2 = some 0 → ∃ rest, tags = closeSub :: rest ∧ Remainder rest) := by
  induction tags with
  | nil =>
      refine ⟨fun _ => Language.nil_mem_kstar _, ?_, ?_⟩ <;> simp
  | cons tag tags ih =>
      obtain ⟨outside, inBlock, inSub⟩ := ih
      refine ⟨?_, ?_, ?_⟩ <;> cases tag <;> intro legal <;> simp [next] at legal
      case refine_1.openTop => exact openTop_mem_grammar (inBlock legal)
      case refine_2.closeTop => exact ⟨[], Language.nil_mem_kstar _, tags, outside legal, rfl⟩
      case refine_2.openSub =>
        obtain ⟨rest, rfl, remainder⟩ := inSub legal
        exact openSub_remainder remainder
      case refine_3.closeSub => exact ⟨tags, rfl, inBlock legal⟩

theorem mem_grammar_iff (tags : List Tag) :
    tags ∈ grammar.matches' ↔ tags.foldlM next 0 = some 0 :=
  ⟨foldlM_next_of_mem_grammar, (missing_of_foldlM_next tags).1⟩

end Tag

/-- Nothing among findings is about the way blocks open and close. -/
def ClosureFree (found : List Diagnostic) : Prop :=
  ∀ diagnostic ∈ found, diagnostic.kind ≠ .closure

namespace Outline.State

theorem closureFree_report (state : State) (diagnostic : Diagnostic) :
    ClosureFree (state.report diagnostic).found ↔
      ClosureFree state.found ∧ diagnostic.kind ≠ .closure := by
  simp [ClosureFree, report, or_imp, forall_and]

theorem closureFree_reportDuplicate (state : State) (siblings : List Text) (name : Text)
    (start stop : Position) :
    ClosureFree (state.reportDuplicate siblings name start stop).found ↔
      ClosureFree state.found := by
  rw [reportDuplicate]
  split
  · simp [closureFree_report, Diagnostic.kind, Problem.kind]
  · rfl

/-- A state that follows another at a tag: a fault is found unless the tag is legal, and a legal
tag leads to its depth. -/
structure Follows (state : State) (tag : Tag) (next : State) : Prop where
  closureFree : ClosureFree next.found ↔ ClosureFree state.found ∧ (tag.next state.depth).isSome
  depth : ∀ deeper, tag.next state.depth = some deeper → next.depth = deeper

theorem follows_openTop (state : State) (name : Text) (start stop : Position) :
    state.Follows .openTop (state.openTop name start stop) := by
  cases current : state.current with
  | none =>
      have outside : state.depth = 0 := by simp [depth, current]
      constructor
      · simp [openTop, current, outside, Tag.next, closureFree_reportDuplicate]
      · intro deeper legal
        rw [outside] at legal
        exact Option.some.inj legal
  | some top =>
      have illegal : Tag.openTop.next state.depth = none := by
        cases sub : top.sub <;> simp [depth, current, OpenTop.depth, sub, Tag.next]
      constructor
      · simp [openTop, current, illegal, closureFree_reportDuplicate, closureFree_report,
          Diagnostic.kind, Problem.kind]
      · simp [illegal]

theorem follows_closeTop (state : State) (start stop : Position) :
    state.Follows .closeTop (state.closeTop start stop) := by
  cases current : state.current with
  | none =>
      constructor <;>
        simp [closeTop, current, depth, Tag.next, closureFree_report, Diagnostic.kind, Problem.kind]
  | some top =>
      cases sub : top.sub <;> constructor <;>
        simp [closeTop, current, depth, OpenTop.depth, sub, Tag.next, closureFree_report,
          Diagnostic.kind, Problem.kind]

theorem follows_openSub (state : State) (name : Text) (start stop : Position) :
    state.Follows .openSub (state.openSub name start stop) := by
  cases current : state.current with
  | none =>
      constructor <;>
        simp [openSub, openSubOf, current, depth, Tag.next, closureFree_reportDuplicate,
          closureFree_report, Diagnostic.kind, Problem.kind]
  | some top =>
      cases sub : top.sub <;> constructor <;>
        simp [openSub, openSubOf, current, depth, OpenTop.depth, sub, Tag.next,
          closureFree_reportDuplicate, closureFree_report, Diagnostic.kind, Problem.kind]

theorem follows_closeSub (state : State) (start stop : Position) :
    state.Follows .closeSub (state.closeSub start stop) := by
  cases current : state.current with
  | none =>
      constructor <;>
        simp [closeSub, current, depth, Tag.next, closureFree_report, Diagnostic.kind, Problem.kind]
  | some top =>
      cases sub : top.sub <;> constructor <;>
        simp [closeSub, current, depth, OpenTop.depth, OpenTop.closeSub, sub, Tag.next,
          closureFree_report, Diagnostic.kind, Problem.kind]

theorem closureFree_addParameter (state : State) (name : Text) (value : Option Placed)
    (start stop : Position) :
    (ClosureFree (state.addParameter name value start stop).found ↔ ClosureFree state.found) ∧
      (state.addParameter name value start stop).depth = state.depth := by
  rw [addParameter]
  cases current : state.current with
  | none => simp
  | some top =>
      have deep : ∀ parameter, (top.addParameter parameter).depth = top.depth := by
        intro parameter
        cases sub : top.sub <;> simp [OpenTop.addParameter, OpenTop.depth, sub]
      refine ⟨?_, by simp [depth, current, deep]⟩
      dsimp only
      split
      · simp [closureFree_report, Diagnostic.kind, Problem.kind]
      · rfl

theorem step_without_tag (state : State) {row : Text}
    (untagged : Line.tagOf? row = none) :
    (ClosureFree (state.step row).found ↔ ClosureFree state.found) ∧
      (state.step row).depth = state.depth := by
  cases content : (Line.read row).content with
  | parameter name value =>
      simpa only [step, accept, content, depth] using closureFree_addParameter state name value _ _
  | openTop | closeTop | openSub | closeSub => simp [Line.tagOf?, content, Content.tag?] at untagged
  | comment | blank | other => simp [step, accept, content, depth]

theorem step_with_tag {state : State} {row : Text} {tag : Tag}
    (tagged : Line.tagOf? row = some tag) : state.Follows tag (state.step row) := by
  have follows : state.Follows tag (state.accept (Line.read row)) := by
    cases content : (Line.read row).content with
    | openTop name =>
        obtain rfl : Tag.openTop = tag := by
          simpa [Line.tagOf?, content, Content.tag?] using tagged
        simpa only [accept, content] using follows_openTop state name _ _
    | closeTop =>
        obtain rfl : Tag.closeTop = tag := by
          simpa [Line.tagOf?, content, Content.tag?] using tagged
        simpa only [accept, content] using follows_closeTop state _ _
    | openSub name =>
        obtain rfl : Tag.openSub = tag := by
          simpa [Line.tagOf?, content, Content.tag?] using tagged
        simpa only [accept, content] using follows_openSub state name _ _
    | closeSub =>
        obtain rfl : Tag.closeSub = tag := by
          simpa [Line.tagOf?, content, Content.tag?] using tagged
        simpa only [accept, content] using follows_closeSub state _ _
    | parameter | comment | blank | other => simp [Line.tagOf?, content, Content.tag?] at tagged
  exact ⟨follows.closureFree, follows.depth⟩

theorem closureFree_finish (state : State) :
    ClosureFree state.finish.found ↔ ClosureFree state.found ∧ state.depth = 0 := by
  cases current : state.current with
  | none => simp [finish, current, depth]
  | some top =>
      cases sub : top.sub <;>
        simp [finish, current, depth, OpenTop.depth, sub, closureFree_report, Diagnostic.kind,
          Problem.kind]

theorem closureFree_run (state : State) (rows : List Text) :
    ClosureFree (state.run rows).finish.found ↔
      ClosureFree state.found ∧
        (rows.filterMap Line.tagOf?).foldlM Tag.next state.depth = some 0 := by
  induction rows generalizing state with
  | nil =>
      rw [run_nil, closureFree_finish]
      simp
  | cons row rows ih =>
      rw [run_cons, ih]
      cases tagged : Line.tagOf? row with
      | none =>
          obtain ⟨found, depth⟩ := step_without_tag state tagged
          rw [found, depth, List.filterMap_cons_none tagged]
      | some tag =>
          have follows : state.Follows tag (state.step row) := step_with_tag tagged
          rw [follows.closureFree, List.filterMap_cons_some tagged, List.foldlM_cons]
          cases legal : tag.next state.depth with
          | none => simp
          | some deeper => simp [follows.depth deeper legal]

end Outline.State

theorem Document.closureFree_iff_tags_mem_grammar (doc : Document) :
    (∀ diagnostic ∈ doc.structuralDiagnostics, diagnostic.kind ≠ .closure) ↔
      doc.tags ∈ Tag.grammar.matches' := by
  have run := Outline.State.closureFree_run {} doc.rows
  have clean : ClosureFree ({} : Outline.State).found := by simp [ClosureFree]
  rw [Tag.mem_grammar_iff]
  exact run.trans (and_iff_right clean)

end InputDeck
