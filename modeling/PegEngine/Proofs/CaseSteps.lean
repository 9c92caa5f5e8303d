import PegEngine.Proofs.Captions
import PegEngine.Proofs.Lowering

/-!
# Ignoring case sooner or later

A class that ignores case lowers what it is given, and when it begins to ignore
case it lowers what it has.  Lowering twice is lowering once, so it makes no
difference when it begins to (`CharClass.extend_ignoreCase_comm`) or how often
it is told to (`CharClass.extend_ignoreCase_twice`): a class can be built as if
case mattered, and told at the end that it does not
(`CharClass.ofSteps_ignoreCase_last`).
-/

namespace PegEngine

namespace CharClass

/-- The step that makes a class ignore case. -/
def Step.ignoresCase : Step → Bool
  | .ignoreCase => true
  | _ => false

/-- The steps in which nothing is said about case. -/
def aboutMembers (steps : List Step) : List Step :=
  steps.filter fun step => !step.ignoresCase

theorem fold_fold (ignoresCase : Bool) (char : Char) :
    fold true (fold ignoresCase char) = fold true char := by
  cases ignoresCase <;> simp [fold, Unicode.toLower_toLower]

theorem foldRange_foldRange (ignoresCase : Bool) (range : Char × Char) :
    foldRange true (foldRange ignoresCase range) = foldRange true range := by
  simp only [foldRange, fold_fold]

variable (charClass : CharClass) (steps : List Step)

/-- A class need not be told twice. -/
theorem extend_ignoreCase_twice :
    (charClass.extend .ignoreCase).extend .ignoreCase =
      charClass.extend .ignoreCase := by
  simp [extend, Function.comp_def, fold_fold, foldRange_foldRange]

/-- Ignoring case may go before any other step or behind it. -/
theorem extend_ignoreCase_comm (step : Step) :
    (charClass.extend .ignoreCase).extend step =
      (charClass.extend step).extend .ignoreCase := by
  cases step with
  | chars text | range first last =>
      simp [extend, Function.comp_def, fold_fold, foldRange_foldRange]
  | category | inverted | ignoreCase | describedAs => rfl

/-- So it may go before any number of steps or behind them. -/
theorem foldl_extend_ignoreCase :
    steps.foldl extend (charClass.extend .ignoreCase) =
      (steps.foldl extend charClass).extend .ignoreCase := by
  induction steps generalizing charClass with
  | nil => rfl
  | cons step steps ih =>
      rw [List.foldl_cons, extend_ignoreCase_comm, ih, List.foldl_cons]

/-- Once case is ignored at the end, it need not be before. -/
theorem foldl_aboutMembers :
    ((aboutMembers steps).foldl extend charClass).extend .ignoreCase =
      (steps.foldl extend charClass).extend .ignoreCase := by
  induction steps generalizing charClass with
  | nil => rfl
  | cons step steps ih =>
      cases step with
      | ignoreCase =>
          calc
            _ = (steps.foldl extend charClass).extend .ignoreCase :=
              ih charClass
            _ = ((steps.foldl extend charClass).extend .ignoreCase).extend
                  .ignoreCase :=
              (extend_ignoreCase_twice _).symm
            _ = _ := by
              rw [List.foldl_cons, foldl_extend_ignoreCase]
      | chars | range | category | inverted | describedAs => exact ih _

theorem ofSteps_concat (step : Step) :
    ofSteps (steps ++ [step]) = (ofSteps steps).extend step := by
  simp [ofSteps]

variable {steps}

/-- A class that has been told to ignore case does so. -/
theorem ofSteps_extend_ignoreCase (told : .ignoreCase ∈ steps) :
    (ofSteps steps).extend .ignoreCase = ofSteps steps := by
  obtain ⟨before, later, rfl⟩ := List.append_of_mem told
  simp only [ofSteps, List.foldl_append, List.foldl_cons,
    foldl_extend_ignoreCase, extend_ignoreCase_twice]

/-- Wherever and however often a class is told to ignore case, it is the class,
with the description, that comes of telling it once at the end. -/
theorem ofSteps_ignoreCase_last (told : .ignoreCase ∈ steps) :
    ofSteps steps = ofSteps (aboutMembers steps ++ [.ignoreCase]) ∧
      Captioned.ofSteps steps =
        Captioned.ofSteps (aboutMembers steps ++ [.ignoreCase]) := by
  have same : ofSteps steps = ofSteps (aboutMembers steps ++ [.ignoreCase]) :=
    calc
      _ = (ofSteps steps).extend .ignoreCase :=
        (ofSteps_extend_ignoreCase told).symm
      _ = (ofSteps (aboutMembers steps)).extend .ignoreCase :=
        (foldl_aboutMembers empty steps).symm
      _ = _ := (ofSteps_concat _ _).symm
  exact ⟨same, by rw [Captioned.ofSteps_eq, Captioned.ofSteps_eq, ← same]⟩

/-- Members that are added before, between and behind. -/
theorem ofSteps_ignoreCase_last_twice :
    let told : List Step := [.chars "K", .ignoreCase, .range 'À' 'Ý',
      .ignoreCase, .category .uppercase, .inverted]
    let once : List Step := [.chars "K", .range 'À' 'Ý',
      .category .uppercase, .inverted, .ignoreCase]
    .ignoreCase ∈ told ∧ ofSteps told = ofSteps once ∧
      Captioned.ofSteps told = Captioned.ofSteps once :=
  have told : Step.ignoreCase ∈ [.chars "K", .ignoreCase, .range 'À' 'Ý',
      .ignoreCase, .category .uppercase, .inverted] := .tail _ (.head _)
  ⟨told, ofSteps_ignoreCase_last told⟩

end CharClass

end PegEngine
