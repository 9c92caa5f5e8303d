import PegEngine.Proofs.ByteOrder
import PegEngine.Proofs.Records

/-!
# Attempts and the report of them

A matcher that is evaluated makes an attempt.  Failures matter under an even
number of negative lookaheads, successes under an odd number.  What a parse
keeps of its attempts is told by the list of them: the farthest offset of those
that matter, what those at this offset ask for, and the number of lookaheads
around the next one up to a multiple of two (`Expectations.Summarize`).  Every
attempt preserves this (`Expectations.Summarize.record`), and so does entering
and leaving a negative lookahead, so that the farthest failure is reported as
the attempts have it (`Expectations.Summarize.reports`).
-/

namespace PegEngine

/-- The evaluation of a matcher: where it started, how many negative lookaheads
were around it, what describes the matcher, and whether it failed. -/
structure Attempt where
  position : Position
  nots : Nat
  descriptor : String
  failed : Bool
deriving DecidableEq, Repr

namespace Attempt

/-- Under an odd number of negative lookaheads attempts count the other way
round. -/
def inverted (nots : Nat) : Bool := nots % 2 = 1

/-- Test whether an attempt matters: it fails where failures count, or succeeds
where successes do. -/
def relevant (attempt : Attempt) : Bool :=
  attempt.failed != inverted attempt.nots

/-- What an attempt asks for. -/
def wish (attempt : Attempt) : String :=
  if inverted attempt.nots then "!" ++ attempt.descriptor
  else attempt.descriptor

def offset (attempt : Attempt) : Nat := attempt.position.offset

/-- The largest offset of the attempts that matter, or else zero. -/
def farthest (attempts : List Attempt) : Nat :=
  ((attempts.filter relevant).map offset).max?.getD 0

/-- What those of the attempts at an offset that matter ask for. -/
def wishesAt (offset : Nat) (attempts : List Attempt) : List String :=
  (attempts.filter fun attempt =>
    attempt.relevant && attempt.offset = offset).map wish

/-- The report that a list of attempts calls for: the farthest offset, and what
is asked for there, in the order of bytes and without repetitions.  Asking for
no character at all is asking for the end of the input, which comes last. -/
structure Reports (attempts : List Attempt) (offset : Nat)
    (expected : List String) : Prop where
  reached : offset = farthest attempts
  listed : ∃ items,
    expected = items ++
      (if Expectations.endDescriptor ∈ wishesAt offset attempts then
        [Expectations.endName] else []) ∧
    items.Pairwise
      (fun first second => ByteOrder.bytes first < ByteOrder.bytes second) ∧
    ∀ item, item ∈ items ↔
      item ∈ wishesAt offset attempts ∧ item ≠ Expectations.endDescriptor

theorem inverted_succ (nots : Nat) : inverted (nots + 1) = !inverted nots := by
  unfold inverted
  rcases Nat.mod_two_eq_zero_or_one nots with even | odd
  · simp [even, Nat.add_mod]
  · simp [odd, Nat.add_mod]

variable {attempts : List Attempt} {attempt : Attempt} {item : String}

theorem mem_wishesAt {offset : Nat} :
    item ∈ wishesAt offset attempts ↔
      ∃ attempt ∈ attempts, attempt.relevant = true ∧
        attempt.offset = offset ∧ attempt.wish = item := by
  simp [wishesAt, and_assoc]

theorem le_farthest (isAttempt : attempt ∈ attempts)
    (relevant : attempt.relevant = true) :
    attempt.offset ≤ farthest attempts :=
  List.le_max?_getD_of_mem
    (List.mem_map_of_mem (List.mem_filter.mpr ⟨isAttempt, relevant⟩))

/-- Nothing is asked for beyond the farthest offset. -/
theorem not_mem_wishesAt {offset : Nat} (beyond : farthest attempts < offset) :
    item ∉ wishesAt offset attempts := by
  intro asked
  obtain ⟨attempt, isAttempt, relevant, there, -⟩ := mem_wishesAt.mp asked
  have atMost := le_farthest isAttempt relevant
  omega

theorem mem_wishesAt_snoc {offset : Nat} :
    item ∈ wishesAt offset (attempts ++ [attempt]) ↔
      item ∈ wishesAt offset attempts ∨
        (attempt.relevant = true ∧ attempt.offset = offset ∧
          attempt.wish = item) := by
  simp only [mem_wishesAt, List.mem_append, List.mem_singleton, or_and_right,
    exists_or, exists_eq_left]

theorem farthest_snoc_of_relevant (relevant : attempt.relevant = true) :
    farthest (attempts ++ [attempt]) =
      max (farthest attempts) attempt.offset := by
  unfold farthest
  rw [List.filter_append, List.filter_singleton, relevant, List.map_append]
  cases (attempts.filter Attempt.relevant).map offset with
  | nil => simp
  | cons first later =>
      simp [List.max?_cons', List.foldl_append, -List.max?_cons]

theorem farthest_snoc_of_irrelevant (irrelevant : attempt.relevant = false) :
    farthest (attempts ++ [attempt]) = farthest attempts := by
  simp [farthest, irrelevant]

/-- There is only one report that a list of attempts calls for. -/
theorem Reports.unique {offset other : Nat} {expected others : List String}
    (reports : Reports attempts offset expected)
    (reportsToo : Reports attempts other others) :
    offset = other ∧ expected = others := by
  obtain ⟨reached, items, isExpected, sorted, isItem⟩ := reports
  obtain ⟨reachedToo, itemsToo, areExpected, sortedToo, isItemToo⟩ := reportsToo
  obtain rfl : offset = other := reached.trans reachedToo.symm
  have irreflexive : Std.Irrefl fun first second =>
      ByteOrder.bytes first < ByteOrder.bytes second :=
    ⟨fun item => List.lt_irrefl (ByteOrder.bytes item)⟩
  have same : items = itemsToo := sorted.eq_of_mem_iff sortedToo fun item =>
    (isItem item).trans (isItemToo item).symm
  exact ⟨rfl, by rw [isExpected, areExpected, same]⟩

end Attempt

namespace Expectations

/-- What is on record sums up a list of attempts, and the next attempt counts as
it does under a number of negative lookaheads. -/
structure Summarize (expectations : Expectations) (attempts : List Attempt)
    (nots : Nat) : Prop where
  farthest : expectations.farthest.offset = Attempt.farthest attempts
  wanted : ∀ item, item ∈ expectations.wanted ↔
    item ∈ Attempt.wishesAt expectations.farthest.offset attempts
  inverted : expectations.inverted = Attempt.inverted nots

theorem summarize_empty : empty.Summarize [] 0 :=
  ⟨rfl, fun _ => Iff.rfl, rfl⟩

variable {expectations : Expectations} {attempts : List Attempt} {nots : Nat}

theorem Summarize.toggle (summarize : expectations.Summarize attempts nots) :
    expectations.toggle.Summarize attempts (nots + 1) where
  farthest := summarize.farthest
  wanted := summarize.wanted
  inverted := by
    rw [Attempt.inverted_succ, ← summarize.inverted]
    rfl

theorem Summarize.untoggle
    (summarize : expectations.Summarize attempts (nots + 1)) :
    expectations.toggle.Summarize attempts nots where
  farthest := summarize.farthest
  wanted := summarize.wanted
  inverted := by
    simp only [Expectations.toggle, summarize.inverted, Attempt.inverted_succ,
      Bool.not_not]

/-- One attempt more is on record after it was recorded. -/
theorem Summarize.record (attempt : Attempt)
    (summarize : expectations.Summarize attempts attempt.nots) :
    (expectations.record attempt.failed attempt.position
      attempt.descriptor).Summarize (attempts ++ [attempt]) attempt.nots := by
  obtain ⟨farthest, wanted, inverted⟩ := summarize
  have wish : expectations.wish attempt.descriptor = attempt.wish := by
    rw [Expectations.wish, inverted, Attempt.wish]
  unfold Expectations.record
  split
  case isTrue same =>
    have irrelevant : attempt.relevant = false := by
      simp [Attempt.relevant, same, inverted]
    refine ⟨?_, fun item => ?_, inverted⟩
    · rw [Attempt.farthest_snoc_of_irrelevant irrelevant, farthest]
    · simp [Attempt.mem_wishesAt_snoc, wanted, irrelevant]
  case isFalse differs =>
    have relevant : attempt.relevant = true := by
      simpa [Attempt.relevant, inverted] using differs
    have reaches : Attempt.farthest (attempts ++ [attempt]) =
        max (Attempt.farthest attempts) attempt.offset :=
      Attempt.farthest_snoc_of_relevant relevant
    have place : attempt.offset = attempt.position.offset := rfl
    split
    case isTrue behind =>
      refine ⟨by omega, fun item => ?_, inverted⟩
      have elsewhere : attempt.offset ≠ expectations.farthest.offset := by
        omega
      simp [Attempt.mem_wishesAt_snoc, wanted, elsewhere]
    case isFalse notBehind =>
      split
      case isTrue ahead =>
        refine ⟨by dsimp only; omega, fun item => ?_, inverted⟩
        have nothing : item ∉ Attempt.wishesAt attempt.position.offset
            attempts := Attempt.not_mem_wishesAt (by omega)
        simp [Attempt.mem_wishesAt_snoc, nothing, relevant, place, wish,
          eq_comm]
      case isFalse notAhead =>
        refine ⟨by dsimp only; omega, fun item => ?_, inverted⟩
        have there : attempt.offset = expectations.farthest.offset := by
          omega
        simp [Attempt.mem_wishesAt_snoc, wanted, relevant, there, wish,
          eq_comm, or_comm]

/-- What is on record is reported as the attempts have it. -/
theorem Summarize.reports (summarize : expectations.Summarize attempts nots) :
    Attempt.Reports attempts expectations.farthest.offset
      expectations.expected := by
  have sorted := pairwise_sorted expectations.wanted
  have isWish : ∀ item, item ∈ expectations.wanted.foldr insertSorted [] ↔
      item ∈ Attempt.wishesAt expectations.farthest.offset attempts :=
    fun item => mem_sorted.trans (summarize.wanted item)
  refine ⟨summarize.farthest,
    (expectations.wanted.foldr insertSorted []).filter (· ≠ endDescriptor),
    ?_, ?_, fun item => ?_⟩
  · unfold expected
    simp only [← isWish]
    split
    · rfl
    case isFalse absent =>
      rw [List.append_nil, List.filter_eq_self.mpr]
      intro item isItem
      simpa using fun same : item = endDescriptor => absent (same ▸ isItem)
  · exact (sorted.imp ByteOrder.bytes_lt_bytes).filter _
  · simp [isWish]

end Expectations

end PegEngine
