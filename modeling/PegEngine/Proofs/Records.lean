import Mathlib.Data.List.Sort
import PegEngine.Proofs.Matchers

/-!
# What a parse has on record

Part of the state of a parse only grows: the farthest failures, the
diagnostics, the last malformed byte that was reported, the number of
expressions, and the kept results.  This part is the record
(`ParseState.record`), and evaluation adds to it by a few events
(`Record.apply`).

Adding an event for a second time changes nothing that the reader of a report
can see (`Record.Alike.apply_of_precedes`), since reports that read the same
are one, a malformed byte is reported once, and what was wanted is a set
(`Expectations.expected_eq_of_same`).  This is why replaying a result, which
adds nothing to the record, is as good as coming to it again.
-/

namespace PegEngine

namespace Expectations

theorem mem_insertSorted {item other : String} {items : List String} :
    other ∈ insertSorted item items ↔ other = item ∨ other ∈ items := by
  induction items with
  | nil => simp [insertSorted]
  | cons first later ih =>
      unfold insertSorted
      split
      · simp
      · split
        · simp_all
        · rw [List.mem_cons, ih, List.mem_cons]
          exact or_left_comm

theorem pairwise_insertSorted (item : String) {items : List String}
    (sorted : items.Pairwise (· < ·)) :
    (insertSorted item items).Pairwise (· < ·) := by
  induction sorted with
  | nil => simp [insertSorted]
  | @cons first later least sorted ih =>
      unfold insertSorted
      split
      case isTrue less =>
        refine .cons (fun other isOther => ?_) (.cons least sorted)
        rcases List.mem_cons.mp isOther with rfl | isOther
        · exact less
        · exact String.lt_trans less (least other isOther)
      case isFalse notLess =>
        split
        case isTrue => exact .cons least sorted
        case isFalse differs =>
          refine .cons (fun other isOther => ?_) ih
          rcases mem_insertSorted.mp isOther with rfl | isOther
          · exact Std.lt_of_le_of_ne (String.not_lt.mp notLess)
              (fun same => differs same.symm)
          · exact least other isOther

theorem mem_sorted {item : String} {items : List String} :
    item ∈ items.foldr insertSorted [] ↔ item ∈ items := by
  induction items with
  | nil => rfl
  | cons first later ih =>
      rw [List.foldr_cons, mem_insertSorted, ih, List.mem_cons]

theorem pairwise_sorted (items : List String) :
    (items.foldr insertSorted []).Pairwise (· < ·) := by
  induction items with
  | nil => exact .nil
  | cons first later ih => exact pairwise_insertSorted first ih

/-- What is reported as wanted depends on the set of what was wanted only. -/
theorem expected_eq_of_same {first second : Expectations}
    (same : ∀ item, item ∈ first.wanted ↔ item ∈ second.wanted) :
    first.expected = second.expected := by
  have sorted : first.wanted.foldr insertSorted [] =
      second.wanted.foldr insertSorted [] :=
    (pairwise_sorted _).eq_of_mem_iff (pairwise_sorted _) fun item => by
      rw [mem_sorted, mem_sorted, same]
  unfold expected
  rw [sorted]

end Expectations

/-- The part of the state of a parse that only grows. -/
structure Record (α σ : Type) where
  farthest : Position
  wanted : List String
  diagnostics : Diagnostics
  reportedByte : Option Nat
  expressions : Nat
  memo : MemoTable α

/-- What adds to the record: an attempt of a matcher, a report, coming upon a
malformed byte with the report of it, and counting an expression. -/
inductive RecordEvent where
  | attempted (failed inverted : Bool) (position : Position)
    (descriptor : String)
  | reported (diagnostic : Diagnostic)
  | malformed (offset : Nat) (diagnostic : Diagnostic)
  | counted
deriving DecidableEq

/-- A diagnostic that reads the same has been reported. -/
def Diagnostics.Shows (diagnostics : Diagnostics) (diagnostic : Diagnostic) :
    Prop :=
  ∃ earlier ∈ diagnostics.toList, earlier.render = diagnostic.render

namespace Diagnostics

variable {diagnostics : Diagnostics} {added diagnostic : Diagnostic}

theorem push_eq_of_shows (shows : diagnostics.Shows diagnostic) :
    diagnostics.push diagnostic = diagnostics := by
  obtain ⟨earlier, reported, same⟩ := shows
  unfold push
  exact if_pos (List.any_eq_true.mpr ⟨earlier, reported, by simp [same]⟩)

theorem shows_push_self : (diagnostics.push diagnostic).Shows diagnostic := by
  unfold push
  dsimp only
  split
  case isTrue shown =>
    obtain ⟨earlier, reported, same⟩ := List.any_eq_true.mp shown
    exact ⟨earlier, reported, by simpa using same⟩
  case isFalse => exact ⟨diagnostic, by simp, rfl⟩

theorem ne_nil_push : (diagnostics.push added).toList ≠ [] := by
  obtain ⟨earlier, reported, -⟩ : (diagnostics.push added).Shows added :=
    shows_push_self
  exact List.ne_nil_of_mem reported

theorem Shows.push (shows : diagnostics.Shows diagnostic) :
    (diagnostics.push added).Shows diagnostic := by
  obtain ⟨earlier, reported, same⟩ := shows
  refine ⟨earlier, ?_, same⟩
  unfold Diagnostics.push
  dsimp only
  split
  · exact reported
  · exact List.mem_append_left _ reported

end Diagnostics

namespace Record

variable {α σ : Type}

def apply (record : Record α σ) : RecordEvent → Record α σ
  | .attempted failed inverted position descriptor =>
    let expectations := (Expectations.mk record.farthest record.wanted
      inverted).record failed position descriptor
    { record with
      farthest := expectations.farthest
      wanted := expectations.wanted }
  | .reported diagnostic =>
    { record with diagnostics := record.diagnostics.push diagnostic }
  | .malformed offset diagnostic =>
    if record.reportedByte.all (· < offset) then
      { record with
        reportedByte := some offset
        diagnostics := record.diagnostics.push diagnostic }
    else record
  | .counted => { record with expressions := record.expressions + 1 }

theorem memo_apply (record : Record α σ) (event : RecordEvent) :
    (record.apply event).memo = record.memo := by
  cases event with
  | malformed offset diagnostic =>
      rw [apply]
      split <;> rfl
  | attempted | reported | counted => rfl

theorem expressions_apply (record : Record α σ) (event : RecordEvent) :
    (record.apply event).expressions =
      record.expressions + (if event = .counted then 1 else 0) := by
  cases event with
  | malformed offset diagnostic =>
      rw [apply]
      split <;> rfl
  | attempted | reported | counted => rfl

/-- Whatever the first record shows, the second one shows as well, or something
that was wanted farther on. -/
structure Precedes (first second : Record α σ) : Prop where
  farthest : first.farthest.offset ≤ second.farthest.offset
  wanted : first.farthest.offset = second.farthest.offset →
    first.wanted ⊆ second.wanted
  diagnostics : ∀ diagnostic, first.diagnostics.Shows diagnostic →
    second.diagnostics.Shows diagnostic
  reportedByte : ∀ offset, second.reportedByte.all (· < offset) = true →
    first.reportedByte.all (· < offset) = true

/-- Two records look the same to the reader of a report. -/
structure Alike (first second : Record α σ) : Prop where
  farthest : first.farthest = second.farthest
  wanted : ∀ item, item ∈ first.wanted ↔ item ∈ second.wanted
  diagnostics : first.diagnostics = second.diagnostics
  reportedByte : first.reportedByte = second.reportedByte

variable {first second third : Record α σ}

theorem Precedes.refl (record : Record α σ) : record.Precedes record :=
  ⟨Nat.le_refl _, fun _ _ isWanted => isWanted, fun _ shows => shows,
    fun _ before => before⟩

theorem Precedes.trans (left : first.Precedes second)
    (right : second.Precedes third) : first.Precedes third where
  farthest := Nat.le_trans left.farthest right.farthest
  wanted same := by
    have forward := left.farthest
    have onward := right.farthest
    exact fun item isWanted =>
      right.wanted (by omega) (left.wanted (by omega) isWanted)
  diagnostics diagnostic shows :=
    right.diagnostics diagnostic (left.diagnostics diagnostic shows)
  reportedByte offset before :=
    left.reportedByte offset (right.reportedByte offset before)

theorem Alike.refl (record : Record α σ) : record.Alike record :=
  ⟨rfl, fun _ => Iff.rfl, rfl, rfl⟩

theorem Alike.symm (alike : first.Alike second) : second.Alike first :=
  ⟨alike.farthest.symm, fun item => (alike.wanted item).symm,
    alike.diagnostics.symm, alike.reportedByte.symm⟩

theorem Alike.trans (left : first.Alike second) (right : second.Alike third) :
    first.Alike third :=
  ⟨left.farthest.trans right.farthest,
    fun item => (left.wanted item).trans (right.wanted item),
    left.diagnostics.trans right.diagnostics,
    left.reportedByte.trans right.reportedByte⟩

theorem Alike.precedes (alike : first.Alike second) :
    first.Precedes second where
  farthest := Nat.le_of_eq (congrArg Position.offset alike.farthest)
  wanted _ item isWanted := (alike.wanted item).mp isWanted
  diagnostics _ shows := alike.diagnostics ▸ shows
  reportedByte _ before := alike.reportedByte ▸ before

/-- Events add to the record, and take nothing away. -/
theorem precedes_apply (record : Record α σ) (event : RecordEvent) :
    record.Precedes (record.apply event) := by
  cases event with
  | attempted failed inverted position descriptor =>
      refine ⟨?_, ?_, fun _ shows => shows, fun _ before => before⟩
      · simp only [apply, Expectations.record]
        split
        · exact Nat.le_refl _
        · split
          · exact Nat.le_refl _
          · split
            · exact Nat.le_of_lt ‹_›
            · exact Nat.le_refl _
      · simp only [apply, Expectations.record]
        split
        · exact fun _ => List.Subset.refl _
        · split
          · exact fun _ => List.Subset.refl _
          · split
            · intro same
              dsimp only at same
              omega
            · exact fun _ => List.subset_cons_self _ _
  | reported diagnostic =>
      exact ⟨Nat.le_refl _, fun _ _ isWanted => isWanted,
        fun _ shows => shows.push, fun _ before => before⟩
  | malformed offset diagnostic =>
      rw [apply]
      split
      case isFalse => exact .refl _
      case isTrue isNew =>
        refine ⟨Nat.le_refl _, fun _ _ isWanted => isWanted,
          fun _ shows => shows.push, fun other before => ?_⟩
        have later : offset < other := by simpa using before
        cases reported : record.reportedByte with
        | none => rfl
        | some last =>
            rw [reported] at isNew
            have earlier : last < offset := by simpa using isNew
            simpa using Nat.lt_trans earlier later
  | counted => exact ⟨Nat.le_refl _, fun _ _ isWanted => isWanted,
      fun _ shows => shows, fun _ before => before⟩

/-- Records that look the same still do so after the same event. -/
theorem Alike.apply (alike : first.Alike second) (event : RecordEvent) :
    (first.apply event).Alike (second.apply event) := by
  cases event with
  | attempted failed inverted position descriptor =>
      obtain ⟨farthest, wanted, diagnostics, reportedByte⟩ := alike
      simp only [Record.apply, Expectations.record, farthest]
      split
      · exact ⟨rfl, wanted, diagnostics, reportedByte⟩
      · split
        · exact ⟨rfl, wanted, diagnostics, reportedByte⟩
        · split
          · exact ⟨rfl, fun _ => Iff.rfl, diagnostics, reportedByte⟩
          · refine ⟨rfl, fun item => ?_, diagnostics, reportedByte⟩
            simp only [List.mem_cons, wanted item]
            rfl
  | reported diagnostic =>
      exact { alike with
        diagnostics := congrArg (Diagnostics.push · _) alike.diagnostics }
  | malformed offset diagnostic =>
      rw [Record.apply, Record.apply, alike.reportedByte]
      split
      · exact { alike with
          diagnostics := congrArg (Diagnostics.push · _) alike.diagnostics
          reportedByte := rfl }
      · exact alike
  | counted => exact { alike with }

/-- After an attempt that counts, what it asks for is on record, unless
something else was wanted farther on. -/
theorem attempted_covered (record : Record α σ) {failed inverted : Bool}
    (counts : failed ≠ inverted) (position : Position) (descriptor : String) :
    let after := record.apply (.attempted failed inverted position descriptor)
    position.offset ≤ after.farthest.offset ∧
      (position.offset = after.farthest.offset →
        (if inverted then "!" ++ descriptor else descriptor) ∈
          after.wanted) := by
  simp only [apply, Expectations.record, if_neg counts]
  split
  case isTrue behind =>
    exact ⟨Nat.le_of_lt behind, fun same => absurd same (Nat.ne_of_lt behind)⟩
  case isFalse notBehind =>
    split
    case isTrue => exact ⟨Nat.le_refl _, fun _ => List.mem_singleton.mpr rfl⟩
    case isFalse notAhead =>
      exact ⟨Nat.le_of_not_lt notAhead, fun _ => List.mem_cons_self⟩

/-- An event that is already covered adds nothing that a reader can see. -/
theorem Alike.apply_of_precedes {event : RecordEvent}
    (alike : second.Alike third)
    (covered : (first.apply event).Precedes third) :
    (second.apply event).Alike third := by
  cases event with
  | attempted failed inverted position descriptor =>
      by_cases counts : failed = inverted
      · simpa only [Record.apply, Expectations.record, if_pos counts]
          using alike
      · obtain ⟨reached, asked⟩ :=
          first.attempted_covered counts position descriptor
        have atMost := covered.farthest
        simp only [Record.apply, Expectations.record, if_neg counts,
          alike.farthest]
        split
        case isTrue => exact { alike with farthest := rfl }
        case isFalse notBehind =>
          have same : position.offset = third.farthest.offset := by omega
          have isWanted := covered.wanted (by omega) (asked (by omega))
          rw [if_neg (by omega)]
          refine { alike with farthest := rfl, wanted := fun item => ?_ }
          simp only [List.mem_cons, alike.wanted item]
          exact ⟨fun either => either.elim (fun same => same ▸ isWanted) id,
            .inr⟩
  | reported diagnostic =>
      have shown := covered.diagnostics diagnostic Diagnostics.shows_push_self
      rw [← alike.diagnostics] at shown
      exact { alike with
        diagnostics :=
          (Diagnostics.push_eq_of_shows shown).trans alike.diagnostics }
  | malformed offset diagnostic =>
      have notNew : third.reportedByte.all (· < offset) ≠ true := by
        intro before
        have isNew := covered.reportedByte offset before
        rw [Record.apply] at isNew
        split at isNew
        · simp at isNew
        · contradiction
      rw [Record.apply, alike.reportedByte, if_neg notNew]
      exact alike
  | counted => exact { alike with }

end Record

namespace ParseState

variable {α σ : Type} {session : Session α σ} {state : ParseState α σ}

def record (state : ParseState α σ) : Record α σ :=
  ⟨state.expectations.farthest, state.expectations.wanted, state.diagnostics,
    state.reportedByte, state.expressions, state.memo⟩

theorem record_attempt (failed : Bool) (start : Cursor) (descriptor : String) :
    (state.attempt failed start descriptor).record =
      state.record.apply (.attempted failed state.expectations.inverted
        start.position descriptor) :=
  rfl

theorem record_report (error : ParseError) (position : Position) :
    (state.report session error position).record =
      state.record.apply
        (.reported ⟨position, state.location session position, error⟩) :=
  rfl

theorem isNewByte_eq (offset : Nat) :
    state.isNewByte offset = state.reportedByte.all (· < offset) := by
  unfold isNewByte
  cases state.reportedByte <;> rfl

/-- Reading adds to the record when it comes upon a malformed byte. -/
theorem record_read :
    (state.read session).record =
      if (state.cursor.upcoming session.input).valid then state.record
      else state.record.apply
        (.malformed state.cursor.nextOffset
          (state.malformedReport session)) := by
  rw [read_eq]
  cases valid : (state.cursor.upcoming session.input).valid with
  | true => simp [record, meetsMalformed, valid]
  | false =>
      simp only [record, meetsMalformed, valid, isNewByte_eq, Record.apply]
      split <;> simp_all

end ParseState

end PegEngine
