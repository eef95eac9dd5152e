import InputDeck.Proofs.Analysis.Survey
import InputDeck.Proofs.Schema.Settled
import Mathlib.Data.List.Forall2

/-!
What the schema replies about blocks.  It replies the same about blocks that it knows by the same
path and that have the same type, when it is asked for the first time and when it is asked again.
-/

namespace InputDeck

namespace Analysis

open Outline Schema

/-! Asking again. -/

theorem settles_askTypes (path : List Text) (type : Option Text) :
    Settles (askTypes path type) := by
  unfold askTypes
  split
  · exact Settles.pure []
  · exact Settles.pure []
  · exact Inquiry.settles_types path

theorem settles_ask (path : List Text) (type : Option Text) : Settles (ask path type) := by
  refine (Inquiry.settles_find? path).bind fun found => ?_
  cases found with
  | none => exact Settles.pure none
  | some found =>
      refine (settles_askTypes path type).bind fun types => ?_
      exact (Inquiry.settles_parameters path type).bind fun params => Settles.pure _

theorem settles_survey (subjects : List Subject) : Settles (survey subjects) := by
  induction subjects with
  | nil => exact Settles.pure []
  | cons subject rest ih =>
      have asked : Settles subject.ask := (settles_ask _ _).bind fun reply => Settles.pure _
      exact asked.bind fun case => ih.bind fun cases => Settles.pure _

theorem settles_inspect (doc : Document) : Settles (inspect doc) := by
  refine Inquiry.settles_isLoaded.bind fun loaded => ?_
  cases loaded with
  | true => exact settles_survey _
  | false => exact Settles.pure []

/-! What holds of every parameter of the schema. -/

section Every

variable {holds : Param → Prop}

def Case.Every (holds : Param → Prop) (case : Case) : Prop :=
  ∀ reply, case.reply = some reply → ∀ param ∈ reply.known, holds param

theorem yields_ask (path : List Text) (type : Option Text) :
    Yields (Catalog.Every holds) (ask path type)
      (fun reply => ∀ given, reply = some given → ∀ param ∈ given.known, holds param) := by
  refine Yields.bind (Inquiry.yields_find? path) fun found _ => ?_
  cases found with
  | none => exact Yields.pure (by simp)
  | some found =>
      have types : Yields (Catalog.Every holds) (askTypes path type) (fun _ => True) := by
        unfold askTypes
        split
        · exact Yields.pure trivial
        · exact Yields.pure trivial
        · exact Inquiry.yields_types path
      refine Yields.bind types fun types _ => ?_
      refine Yields.bind (Inquiry.yields_parameters path type) fun params every => Yields.pure ?_
      rintro given ⟨rfl⟩ param member
      exact every param (mem_of_mem_firstOfName member)

theorem yields_survey (subjects : List Subject) :
    Yields (Catalog.Every holds) (survey subjects)
      (fun cases => ∀ case ∈ cases, case.Every holds) := by
  induction subjects with
  | nil => exact Yields.pure (by simp)
  | cons subject rest ih =>
      have asked : Yields (Catalog.Every holds) subject.ask (Case.Every holds) :=
        Yields.bind (yields_ask _ _) fun reply every => Yields.pure every
      refine Yields.bind asked fun case every => ?_
      refine Yields.bind ih fun cases others => Yields.pure ?_
      exact List.forall_mem_cons.mpr ⟨every, others⟩

theorem yields_inspect (doc : Document) :
    Yields (Catalog.Every holds) (inspect doc) (fun cases => ∀ case ∈ cases, case.Every holds) := by
  refine Yields.bind Inquiry.yields_isLoaded fun loaded _ => ?_
  cases loaded with
  | true => exact yields_survey _
  | false => exact Yields.pure (by simp)

end Every

/-! Asking about other blocks. -/

theorem subjects_survey (subjects : List Subject) (catalog : Catalog) :
    ((survey subjects).run catalog).1.map Case.toSubject = subjects := by
  induction subjects generalizing catalog with
  | nil => rfl
  | cons subject rest ih =>
      have tail := ih (subject.ask.run catalog).2
      exact congrArg (subject :: ·) tail

structure Subject.Alike (first second : Subject) : Prop where
  path : second.path = first.path
  type : second.block.type? = first.block.type?

variable {related : Subject → Subject → Prop}
  (alike : ∀ first second, related first second → first.Alike second)

include alike

theorem survey_related {first second : List Subject} (pairs : List.Forall₂ related first second)
    (catalog : Catalog) :
    ((survey second).run catalog).2 = ((survey first).run catalog).2 ∧
      List.Forall₂
        (fun one other => related one.toSubject other.toSubject ∧ other.reply = one.reply)
        ((survey first).run catalog).1 ((survey second).run catalog).1 := by
  induction pairs generalizing catalog with
  | nil => exact ⟨rfl, .nil⟩
  | @cons subject other first second pair pairs ih =>
      have same : (ask other.path other.block.type?).run catalog =
          (ask subject.path subject.block.type?).run catalog := by
        rw [(alike _ _ pair).path, (alike _ _ pair).type]
      obtain ⟨after, cases⟩ := ih (subject.ask.run catalog).2
      have next : (other.ask.run catalog).2 = (subject.ask.run catalog).2 := by
        have run : ∀ subject : Subject, (subject.ask.run catalog).2 =
            ((ask subject.path subject.block.type?).run catalog).2 := fun _ => rfl
        rw [run, run, same]
      have reply : (other.ask.run catalog).1.reply = (subject.ask.run catalog).1.reply := by
        have run : ∀ subject : Subject, (subject.ask.run catalog).1.reply =
            ((ask subject.path subject.block.type?).run catalog).1 := fun _ => rfl
        rw [run, run, same]
      constructor
      · change ((survey second).run (other.ask.run catalog).2).2 = _
        rw [next, after]
        rfl
      · have rest : ((survey (other :: second)).run catalog).1 =
            (other.ask.run catalog).1 :: ((survey second).run (other.ask.run catalog).2).1 := rfl
        rw [rest, next]
        exact .cons ⟨pair, reply⟩ cases

theorem inspect_related {doc other : Document}
    (pairs : List.Forall₂ related (doc.outline.flatMap subjects) (other.outline.flatMap subjects))
    {catalog later : Catalog}
    (after : later = catalog ∨ ((inspect doc).run catalog).2 ≤ later) :
    List.Forall₂ (fun one two => related one.toSubject two.toSubject ∧ two.reply = one.reply)
      ((inspect doc).run catalog).1 ((inspect other).run later).1 := by
  have now : ((inspect other).run catalog).2 = ((inspect doc).run catalog).2 ∧
      List.Forall₂ (fun one two => related one.toSubject two.toSubject ∧ two.reply = one.reply)
        ((inspect doc).run catalog).1 ((inspect other).run catalog).1 := by
    have run : ∀ doc : Document, (inspect doc).run catalog =
        (if (Inquiry.isLoaded.run catalog).1 then survey (doc.outline.flatMap subjects)
          else return []).run (Inquiry.isLoaded.run catalog).2 := fun _ => rfl
    rw [run doc, run other]
    split
    · exact survey_related alike pairs _
    · exact ⟨rfl, .nil⟩
  rcases after with rfl | above
  · exact now.2
  · rw [← now.1] at above
    rw [(settles_inspect other).answer catalog later above]
    exact now.2

end Analysis

end InputDeck
