import PegEngine.Proofs.Legibility

/-!
# Classes that carry their description

The description of a class need not be put together each time that somebody
wants to see it: it can be kept beside the class, and written anew whenever the
class changes.  Kept like this it is never out of date, whatever the steps are
(`Captioned.ofSteps_eq`).

Without a description of its own, a class can be told from the one that is
generated, so classes that look alike are the same class
(`Captioned.eq_of_caption`).
-/

namespace PegEngine

namespace CharClass.Step

/-- A step that replaces the generated description. -/
def Describes : CharClass.Step → Prop
  | .describedAs _ => True
  | _ => False

end CharClass.Step

/-- A class with its description beside it. -/
structure Captioned where
  charClass : CharClass
  caption : String

namespace Captioned

/-- Write the description anew, unless the class has one of its own. -/
def refreshed (captioned : Captioned) : Captioned :=
  if captioned.charClass.description.isSome then captioned
  else { captioned with caption := captioned.charClass.generatedDescription }

def empty : Captioned := refreshed ⟨.empty, ""⟩

/-- Perform one building step, on the class and on what is beside it. -/
def extend (captioned : Captioned) (step : CharClass.Step) : Captioned :=
  let extended := captioned.charClass.extend step
  match step with
  | .describedAs description => ⟨extended, description⟩
  | .chars _ | .range _ _ | .category _ | .inverted | .ignoreCase =>
    refreshed { captioned with charClass := extended }

def ofSteps (steps : List CharClass.Step) : Captioned :=
  steps.foldl extend empty

/-- What is kept beside the class is its description. -/
def UpToDate (captioned : Captioned) : Prop :=
  captioned.caption = captioned.charClass.descriptor

theorem upToDate_refreshed {captioned : Captioned}
    (described : captioned.charClass.description.isSome = true →
      captioned.UpToDate) :
    captioned.refreshed.UpToDate := by
  unfold refreshed
  split
  case isTrue isDescribed => exact described isDescribed
  case isFalse notDescribed =>
    have none := Option.not_isSome_iff_eq_none.mp notDescribed
    simp [UpToDate, CharClass.descriptor, none]

@[simp] theorem charClass_refreshed (captioned : Captioned) :
    captioned.refreshed.charClass = captioned.charClass := by
  unfold refreshed
  split <;> rfl

@[simp] theorem charClass_extend (captioned : Captioned)
    (step : CharClass.Step) :
    (captioned.extend step).charClass = captioned.charClass.extend step := by
  cases step <;> simp [extend]

/-- A step leaves the description up to date. -/
theorem UpToDate.extend {captioned : Captioned} (upToDate : captioned.UpToDate)
    (step : CharClass.Step) : (captioned.extend step).UpToDate := by
  cases step with
  | describedAs description => rfl
  | chars | range | category | inverted | ignoreCase =>
      refine upToDate_refreshed fun isDescribed => ?_
      -- The description of its own is that of the class before the step.
      obtain ⟨description, isOwn⟩ := Option.isSome_iff_exists.mp isDescribed
      change captioned.charClass.description = some description at isOwn
      change captioned.caption = Option.getD captioned.charClass.description _
      rw [upToDate, CharClass.descriptor, isOwn]
      rfl

/-- However a class is built, what is kept beside it is its description. -/
theorem ofSteps_eq (steps : List CharClass.Step) :
    ofSteps steps =
      ⟨CharClass.ofSteps steps, (CharClass.ofSteps steps).descriptor⟩ := by
  have run : ∀ (steps : List CharClass.Step) (captioned : Captioned),
      captioned.UpToDate →
        steps.foldl Captioned.extend captioned =
          ⟨steps.foldl CharClass.extend captioned.charClass,
            (steps.foldl CharClass.extend
              captioned.charClass).descriptor⟩ := by
    intro steps
    induction steps with
    | nil =>
        intro captioned upToDate
        obtain ⟨charClass, caption⟩ := captioned
        exact congrArg (Captioned.mk charClass) upToDate
    | cons step steps ih =>
        intro captioned upToDate
        rw [List.foldl_cons, ih _ (upToDate.extend step), charClass_extend]
        rfl
  exact run steps empty (upToDate_refreshed nofun)

end Captioned

namespace CharClass

/-- Only one kind of step gives a class a description of its own. -/
theorem description_ofSteps {steps : List Step}
    (undescribed : ∀ step ∈ steps, ¬ step.Describes) :
    (ofSteps steps).description = none := by
  have run : ∀ charClass : CharClass, charClass.description = none →
      (steps.foldl extend charClass).description = none := by
    induction steps with
    | nil => exact fun _ none => none
    | cons step steps ih =>
        intro charClass none
        obtain ⟨here, later⟩ := List.forall_mem_cons.mp undescribed
        refine ih later _ ?_
        cases step with
        | describedAs description => exact absurd trivial here
        | chars | range | category | inverted | ignoreCase => exact none
  exact run empty rfl

/-- Classes without descriptions of their own are the same if they are described
alike. -/
theorem eq_of_descriptor {first second : CharClass}
    (plain : first.description = none) (plainToo : second.description = none)
    (same : first.descriptor = second.descriptor) : first = second := by
  simp only [descriptor, plain, plainToo, Option.getD_none] at same
  have spelled : first.generatedDescription.toList ++ [] =
      second.generatedDescription.toList ++ [] := by
    rw [same]
  have unflagged : ([] : List Char).head? ≠ some 'i' := nofun
  exact (generated_cut plain plainToo unflagged unflagged spelled).1

end CharClass

/-- Classes that are built without describing them are the same if what is kept
beside them is the same, so they match the same characters. -/
theorem Captioned.eq_of_caption {steps others : List CharClass.Step}
    (undescribed : ∀ step ∈ steps, ¬ step.Describes)
    (undescribedToo : ∀ step ∈ others, ¬ step.Describes)
    (same : (ofSteps steps).caption = (ofSteps others).caption) :
    CharClass.ofSteps steps = CharClass.ofSteps others ∧
      ∀ char, (CharClass.ofSteps steps).accepts char =
        (CharClass.ofSteps others).accepts char := by
  rw [ofSteps_eq, ofSteps_eq] at same
  have sameClass := CharClass.eq_of_descriptor
    (CharClass.description_ofSteps undescribed)
    (CharClass.description_ofSteps undescribedToo) same
  exact ⟨sameClass, fun char => by rw [sameClass]⟩

/-- A dash, brackets and a backslash may be given at once or one by one. -/
theorem Captioned.eq_of_caption_of_marks :
    CharClass.ofSteps [.chars "[-]\\p", .inverted] =
        CharClass.ofSteps [.inverted, .chars "[-", .chars "]\\p"] ∧
      ∀ char,
        (CharClass.ofSteps [.chars "[-]\\p", .inverted]).accepts char =
          (CharClass.ofSteps [.inverted, .chars "[-", .chars "]\\p"]).accepts
            char :=
  Captioned.eq_of_caption (by simp [CharClass.Step.Describes])
    (by simp [CharClass.Step.Describes]) (by decide +kernel)

end PegEngine
