import PegEngine.Proofs.Attempts

/-!
# What is on record of a history of attempts

What is on record is used in two ways: attempts are recorded, and the way in
which they count is switched.  Whatever is done in whatever order, what is on
record is a function of all attempts that were ever recorded
(`Expectations.after_reports`), although most of them are forgotten at once: the
farthest offset of those that matter, the position of the first of them that got
there, and what they ask for at this offset.  An attempt that is recorded for a
second time changes nothing of it.
-/

namespace PegEngine

/-- A step in the use of what is on record. -/
inductive RecordStep where
  | record (failed : Bool) (position : Position) (descriptor : String)
  | toggle
deriving DecidableEq, Repr

namespace Attempt

/-- The attempts that some steps record, if the way in which attempts count has
been switched a number of times before.  It matters whether this number is odd
only. -/
def ofSteps (toggles : Nat) : List RecordStep → List Attempt
  | [] => []
  | .record failed position descriptor :: steps =>
    ⟨position, toggles, descriptor, failed⟩ :: ofSteps toggles steps
  | .toggle :: steps => ofSteps (toggles + 1) steps

/-- The first of the attempts that matter at an offset. -/
def first? (offset : Nat) (attempts : List Attempt) : Option Attempt :=
  attempts.find? fun attempt => attempt.relevant && attempt.offset = offset

variable {attempts : List Attempt} {attempt : Attempt} {offset : Nat}

/-- Another attempt is the first one at an offset if it matters there and no
earlier one does. -/
theorem first?_snoc :
    first? offset (attempts ++ [attempt]) =
      (first? offset attempts).or
        (if attempt.relevant && attempt.offset = offset then some attempt
        else none) := by
  rw [first?, List.find?_append, List.find?_singleton]
  rfl

/-- Nothing comes first beyond the farthest offset. -/
theorem first?_eq_none (beyond : farthest attempts < offset) :
    first? offset attempts = none := by
  refine List.find?_eq_none.mpr fun attempt isAttempt matters => ?_
  obtain ⟨relevant, there⟩ : attempt.relevant = true ∧
      attempt.offset = offset := by simpa using matters
  have atMost := le_farthest isAttempt relevant
  omega

end Attempt

namespace Expectations

def step (expectations : Expectations) : RecordStep → Expectations
  | .record failed position descriptor =>
    expectations.record failed position descriptor
  | .toggle => expectations.toggle

/-- What is on record after some steps from the beginning on. -/
def after (steps : List RecordStep) : Expectations :=
  steps.foldl step empty

/-- What is on record sums up a list of attempts, and the position that is kept
is that of the first attempt that matters at the farthest offset.  At offset
zero it is the one with which everything started. -/
structure Remember (expectations : Expectations) (attempts : List Attempt)
    (toggles : Nat) : Prop
    extends expectations.Summarize attempts toggles where
  atStart : expectations.farthest.offset = 0 →
    expectations.farthest = empty.farthest
  beyond : 0 < expectations.farthest.offset →
    ∃ first, Attempt.first? expectations.farthest.offset attempts =
      some first ∧ first.position = expectations.farthest

theorem remember_empty : empty.Remember [] 0 :=
  { summarize_empty with
    atStart := fun _ => rfl
    beyond := fun passed => absurd passed (Nat.lt_irrefl 0) }

variable {expectations : Expectations} {attempts : List Attempt}
  {toggles : Nat}

theorem Remember.toggle (remember : expectations.Remember attempts toggles) :
    expectations.toggle.Remember attempts (toggles + 1) :=
  { remember.toSummarize.toggle with
    atStart := remember.atStart
    beyond := remember.beyond }

/-- An attempt that does not take the record further leaves the first one at the
farthest offset where it was. -/
theorem Remember.keep (remember : expectations.Remember attempts toggles)
    {later : Expectations} (attempt : Attempt)
    (summarize : later.Summarize (attempts ++ [attempt]) toggles)
    (same : later.farthest = expectations.farthest) :
    later.Remember (attempts ++ [attempt]) toggles := by
  refine { summarize with
    atStart := fun atStart => ?_
    beyond := fun passed => ?_ }
  · rw [same] at atStart ⊢
    exact remember.atStart atStart
  · rw [same] at passed ⊢
    obtain ⟨first, isFirst, here⟩ := remember.beyond passed
    exact ⟨first, by rw [Attempt.first?_snoc, isFirst, Option.some_or], here⟩

theorem Remember.record (attempt : Attempt)
    (remember : expectations.Remember attempts attempt.nots) :
    (expectations.record attempt.failed attempt.position
      attempt.descriptor).Remember (attempts ++ [attempt]) attempt.nots := by
  have summarize := remember.toSummarize.record attempt
  by_cases further : attempt.failed ≠ expectations.inverted ∧
      expectations.farthest.offset < attempt.position.offset
  · obtain ⟨counts, ahead⟩ := further
    have relevant : attempt.relevant = true := by
      simpa [Attempt.relevant, remember.inverted] using counts
    have nothing :
        Attempt.first? attempt.position.offset attempts = none :=
      Attempt.first?_eq_none (remember.farthest ▸ ahead)
    have moved : (expectations.record attempt.failed attempt.position
        attempt.descriptor).farthest = attempt.position := by
      simp only [Expectations.record, if_neg counts,
        if_neg (Nat.lt_asymm ahead), if_pos ahead]
    refine { summarize with
      atStart := fun atStart => ?_
      beyond := fun _ => ⟨attempt, ?_, moved.symm⟩ }
    · rw [moved] at atStart
      omega
    · rw [moved, Attempt.first?_snoc, nothing]
      simp [relevant, Attempt.offset]
  · refine remember.keep attempt summarize ?_
    unfold Expectations.record
    split
    case isTrue => rfl
    case isFalse counts =>
      rw [if_neg fun ahead => further ⟨counts, ahead⟩]
      split <;> rfl

theorem Remember.steps (remember : expectations.Remember attempts toggles)
    (steps : List RecordStep) :
    (steps.foldl step expectations).Remember
      (attempts ++ Attempt.ofSteps toggles steps)
      (toggles + steps.count .toggle) := by
  induction steps generalizing expectations attempts toggles with
  | nil => simpa [Attempt.ofSteps] using remember
  | cons step steps ih =>
      cases step with
      | record failed position descriptor =>
          have recorded :=
            Remember.record ⟨position, toggles, descriptor, failed⟩ remember
          simpa [Attempt.ofSteps, Expectations.step] using ih recorded
      | toggle =>
          have count : toggles + (RecordStep.toggle :: steps).count .toggle =
              toggles + 1 + steps.count .toggle := by
            rw [List.count_cons_self]
            omega
          rw [count]
          exact ih remember.toggle

/-- An attempt that is on record already leaves what is reported as it is. -/
theorem Summarize.again (summarize : expectations.Summarize attempts toggles)
    {attempt : Attempt} (isAttempt : attempt ∈ attempts)
    (sameWay : Attempt.inverted attempt.nots = expectations.inverted) :
    let again := expectations.record attempt.failed attempt.position
      attempt.descriptor
    again.farthest = expectations.farthest ∧
      again.expected = expectations.expected := by
  dsimp only
  unfold Expectations.record
  split
  case isTrue => exact ⟨rfl, rfl⟩
  case isFalse counts =>
    have relevant : attempt.relevant = true := by
      simpa [Attempt.relevant, sameWay] using counts
    have atMost : attempt.position.offset ≤ expectations.farthest.offset :=
      summarize.farthest ▸ Attempt.le_farthest isAttempt relevant
    split
    case isTrue => exact ⟨rfl, rfl⟩
    case isFalse notBehind =>
      rw [if_neg (Nat.not_lt.mpr atMost)]
      have asked : expectations.wish attempt.descriptor ∈
          expectations.wanted := by
        refine (summarize.wanted _).mpr (Attempt.mem_wishesAt.mpr
          ⟨attempt, isAttempt, relevant, ?_, ?_⟩)
        · exact Nat.le_antisymm atMost (Nat.not_lt.mp notBehind)
        · rw [Attempt.wish, wish, sameWay]
      refine ⟨rfl, expected_eq_of_same fun item => ?_⟩
      simpa using fun same : item = _ => same ▸ asked

/-- What is on record after any steps is told by the attempts that they have
recorded: the farthest offset of those that matter, or zero; the position of the
first of these at that offset, if this is not zero; and what they ask for there.
Attempts count the other way round after an odd number of switches.  To record
one of them again, with attempts counting the same way as then, changes nothing
of what is reported. -/
theorem after_reports (steps : List RecordStep) :
    let attempts := Attempt.ofSteps 0 steps
    let farthest := (after steps).farthest
    (after steps).inverted = Attempt.inverted (steps.count .toggle) ∧
      Attempt.Reports attempts farthest.offset (after steps).expected ∧
      (farthest.offset = 0 → farthest = ⟨1, 1, 0⟩) ∧
      (0 < farthest.offset → ∃ first,
        Attempt.first? farthest.offset attempts = some first ∧
          first.position = farthest) ∧
      ∀ attempt ∈ attempts,
        Attempt.inverted attempt.nots = (after steps).inverted →
          let again := after (steps ++
            [.record attempt.failed attempt.position attempt.descriptor])
          again.farthest = farthest ∧
            again.expected = (after steps).expected := by
  have remember := remember_empty.steps steps
  rw [List.nil_append, Nat.zero_add] at remember
  refine ⟨remember.inverted, remember.toSummarize.reports, remember.atStart,
    remember.beyond, fun attempt isAttempt sameWay => ?_⟩
  have repeated := remember.toSummarize.again isAttempt sameWay
  simpa [after, List.foldl_append, step] using repeated

end Expectations

end PegEngine
