import PegEngine.Proofs.Ceiling
import PegEngine.Proofs.Cursors
import PegEngine.Proofs.Faults
import Std.Data.String.ToNat

/-!
# Accounting for where the cursor has been

A malformed byte is reported when the cursor first comes to it.  Of what was
reported before, the state keeps the last offset only, so that this tells old
bytes from new ones rests on an invariant (`ParseState.Sighted`): the malformed
bytes up to where the cursor has been, and no others, have been reported in
order.  Each step of a matcher and each replay preserves it, and what the code of
a grammar complains of does not touch it, since a complaint at a malformed byte
cannot come before the first reading of that byte.
-/

namespace PegEngine

open ParseState Relation

namespace Position

/-- What a position in writing begins with tells its offset. -/
theorem offset_eq_of_parenthesized {first second : Position}
    {left right : String}
    (same : first.parenthesized ++ left = second.parenthesized ++ right) :
    first.offset = second.offset := by
  rw [parenthesized_cancel same, String.append_left_inj] at same
  have digits : ∀ number : Nat, '(' ∉ Nat.toDigits 10 number := by
    intro number isDigit
    have digit := Nat.isDigit_of_mem_toDigits (by decide) (by decide) isDigit
    cases digit
  -- The offset stands between the opening and the closing parenthesis.
  have behind : ∀ position : Position,
      position.parenthesized.toList.dropWhile (· ≠ '(') =
        '(' :: (position.offset.repr.toList ++ [')']) := by
    intro position
    have split : position.parenthesized.toList =
        (toString position.line ++ ":" ++ toString position.column ++
          " ").toList ++ '(' :: (position.offset.repr.toList ++ [')']) := by
      simp [parenthesized]
    rw [split, List.dropWhile_append_of_pos]
    · simp
    · intro char isChar
      simpa using fun isParenthesis : char = '(' => by
        subst isParenthesis
        simp [digits] at isChar
  have offsets := behind first
  rw [same, behind second] at offsets
  simp only [List.cons.injEq, true_and, List.append_left_inj] at offsets
  exact (Nat.repr_injective (String.toList_inj.mp offsets)).symm

end Position

/-- Of two diagnostics that read the same and name their positions first, the
positions have the same offset. -/
theorem Diagnostic.offset_eq_of_render_eq {α σ : Type} {session : Session α σ}
    {first second : Diagnostic} {text other : String}
    (isFirst : first.location = session.placeText first.position ++ text)
    (isSecond : second.location = session.placeText second.position ++ other)
    (same : first.render = second.render) :
    first.position.offset = second.position.offset := by
  simp only [render, isFirst, isSecond, Session.placeText, String.append_assoc,
    String.append_right_inj] at same
  exact Position.offset_eq_of_parenthesized same

namespace Decoded

/-- A boundary at which decoding meets a malformed sequence. -/
def Malformed (bytes : ByteArray) (offset : Nat) : Prop :=
  Boundary bytes offset ∧ (ofBytesAt bytes offset).valid = false

/-- No boundary lies between two of them that follow each other. -/
theorem Boundary.le_or_le {bytes : ByteArray} {offset next other : Nat}
    (boundary : Boundary bytes offset) (follows : Follows bytes offset next)
    (another : Boundary bytes other) : other ≤ offset ∨ next ≤ other := by
  have unique : Relator.RightUnique (Follows bytes) := by
    rintro start first second ⟨-, rfl⟩ ⟨-, rfl⟩
    rfl
  rcases ReflTransGen.total_of_right_unique unique boundary another with
    later | earlier
  · rcases later.cases_head with rfl | ⟨middle, step, rest⟩
    · exact .inl (Nat.le_refl _)
    · obtain rfl := unique follows step
      exact .inr (le_of_follows rest)
  · exact .inl (le_of_follows earlier)

end Decoded

namespace Diagnostics

/-- The offsets of the malformed bytes that were reported, in the order of the
reports. -/
def malformedOffsets (diagnostics : Diagnostics) : List Nat :=
  (diagnostics.toList.filter fun diagnostic =>
    diagnostic.error = .invalidEncoding).map fun diagnostic =>
      diagnostic.position.offset

variable {diagnostics : Diagnostics} {added : Diagnostic}

/-- Reports of anything else do not matter. -/
theorem malformedOffsets_push_of_ne (differs : added.error ≠ .invalidEncoding) :
    (diagnostics.push added).malformedOffsets =
      diagnostics.malformedOffsets := by
  by_cases shows : diagnostics.Shows added
  · rw [push_eq_of_shows shows]
  · simp [malformedOffsets, push_of_not_shows shows, differs]

theorem malformedOffsets_push_of_new (new : ¬ diagnostics.Shows added)
    (malformed : added.error = .invalidEncoding) :
    (diagnostics.push added).malformedOffsets =
      diagnostics.malformedOffsets ++ [added.position.offset] := by
  simp [malformedOffsets, push_of_not_shows new, malformed]

end Diagnostics

namespace ParseState

variable {α σ : Type} {session : Session α σ} {passed : List Cursor}
  {state : ParseState α σ}

/-- Where a diagnostic was reported: at one of some cursors, and its place in
writing begins with the position of it. -/
def Placed (session : Session α σ) (passed : List Cursor)
    (diagnostic : Diagnostic) : Prop :=
  ∃ cursor ∈ passed, diagnostic.position = cursor.position ∧
    ∃ text, diagnostic.location =
      session.placeText diagnostic.position ++ text

/-- A state accounts for the cursors at which the parse has been.  The results
that are kept end at such cursors, the diagnostics were reported there, and among
them are reports of the malformed bytes up to there: of each of them once, in the
order of the input, and of no others. -/
structure Accounts (session : Session α σ) (passed : List Cursor)
    (state : ParseState α σ) : Prop where
  stands : ∀ cursor ∈ passed, cursor.Stands session.input
  memo : ∀ (key : MemoKey) (entry : MemoEntry α),
    state.memo.lookup key = some entry → entry.finish ∈ passed
  placed : ∀ diagnostic ∈ state.diagnostics.toList,
    Placed session passed diagnostic
  increasing : state.diagnostics.malformedOffsets.Pairwise (· < ·)
  reported : ∀ offset, offset ∈ state.diagnostics.malformedOffsets ↔
    Decoded.Malformed session.input offset ∧
      ∃ cursor ∈ passed, offset ≤ cursor.offset
  newest : ∀ offset, state.isNewByte offset = true ↔
    ∀ reported ∈ state.diagnostics.malformedOffsets, reported < offset

/-- The cursor is at one of the cursors for which a state accounts. -/
structure Sighted (session : Session α σ) (passed : List Cursor)
    (state : ParseState α σ) : Prop extends Accounts session passed state where
  cursor : state.cursor ∈ passed

/-- What matters of a state to where the cursor has been. -/
def sight (state : ParseState α σ) :
    Cursor × MemoTable α × Diagnostics × Option Nat :=
  (state.cursor, state.memo, state.diagnostics, state.reportedByte)

theorem Sighted.of_sight_eq {after : ParseState α σ}
    (sighted : state.Sighted session passed)
    (same : after.sight = state.sight) :
    after.Sighted session passed := by
  simp only [sight, Prod.mk.injEq] at same
  obtain ⟨cursor, memo, diagnostics, reportedByte⟩ := same
  have newByte : ∀ offset, after.isNewByte offset = state.isNewByte offset := by
    simp [isNewByte, reportedByte]
  refine ⟨⟨sighted.stands, ?_, ?_, ?_, ?_, ?_⟩, cursor ▸ sighted.cursor⟩
  · exact memo ▸ sighted.memo
  · exact diagnostics ▸ sighted.placed
  · exact diagnostics ▸ sighted.increasing
  · exact diagnostics ▸ sighted.reported
  · intro offset
    rw [newByte, diagnostics]
    exact sighted.newest offset

section Sights

variable (session) (state)

@[simp]
theorem sight_countExpression : state.countExpression.sight = state.sight :=
  rfl

@[simp]
theorem sight_enterRule (rule : Rule α σ) :
    (state.enterRule rule).sight = state.sight :=
  rfl

@[simp]
theorem sight_leaveRule : state.leaveRule.sight = state.sight :=
  rfl

@[simp]
theorem sight_enterNode (subject : Subject) :
    (state.enterNode session subject).sight = state.sight := by
  rw [enterNode_eq]
  rfl

@[simp]
theorem sight_leaveNode (subject : Subject) :
    (state.leaveNode session subject).sight = state.sight := by
  rw [leaveNode_eq]
  rfl

@[simp]
theorem sight_traceMatch (start : Cursor) :
    (state.traceMatch session start).sight = state.sight := by
  rw [traceMatch_eq]
  rfl

@[simp]
theorem sight_bind (label : String) (value : Value α) :
    (state.bind label value).sight = state.sight := by
  unfold ParseState.bind
  split <;> rfl

end Sights

/-- No boundary lies between a cursor and others behind which it comes. -/
structure Adjoins (session : Session α σ) (passed : List Cursor)
    (next : Cursor) : Prop where
  stands : next.Stands session.input
  closes : ∀ offset, Decoded.Boundary session.input offset →
    offset ≤ next.offset →
      (∃ cursor ∈ passed, offset ≤ cursor.offset) ∨ offset = next.offset

theorem Adjoins.reached_iff {next : Cursor}
    (adjoins : Adjoins session passed next) {offset : Nat}
    (boundary : Decoded.Boundary session.input offset) :
    (∃ cursor ∈ passed ++ [next], offset ≤ cursor.offset) ↔
      (∃ cursor ∈ passed, offset ≤ cursor.offset) ∨ offset = next.offset := by
  simp only [List.mem_append, List.mem_singleton, or_and_right, exists_or,
    exists_eq_left]
  constructor
  · rintro (reached | atMost)
    · exact .inl reached
    · exact adjoins.closes offset boundary atMost
  · rintro (reached | same)
    · exact .inl reached
    · exact .inr (Nat.le_of_eq same)

namespace Accounts

variable {next : Cursor}

theorem stands_append (accounts : state.Accounts session passed)
    (stands : next.Stands session.input) :
    ∀ cursor ∈ passed ++ [next], cursor.Stands session.input := by
  simpa [or_imp, forall_and, stands] using accounts.stands

theorem memo_append (accounts : state.Accounts session passed)
    {key : MemoKey} {entry : MemoEntry α}
    (kept : state.memo.lookup key = some entry) :
    entry.finish ∈ passed ++ [next] :=
  List.mem_append_left _ (accounts.memo key entry kept)

theorem placed_append (accounts : state.Accounts session passed)
    {diagnostic : Diagnostic}
    (reported : diagnostic ∈ state.diagnostics.toList) :
    Placed session (passed ++ [next]) diagnostic := by
  obtain ⟨cursor, isPassed, placed⟩ := accounts.placed diagnostic reported
  exact ⟨cursor, List.mem_append_left _ isPassed, placed⟩

/-- Whatever was reported lies before an offset that has not been reached. -/
theorem lt_of_reported (accounts : state.Accounts session passed)
    (notReached : ¬ ∃ cursor ∈ passed, next.offset ≤ cursor.offset) :
    ∀ reported ∈ state.diagnostics.malformedOffsets,
      reported < next.offset := by
  intro reported isReported
  obtain ⟨-, cursor, isPassed, atMost⟩ :=
    (accounts.reported reported).mp isReported
  have before : ¬ next.offset ≤ cursor.offset :=
    fun reaches => notReached ⟨cursor, isPassed, reaches⟩
  omega

/-- Moving on to a cursor where there is nothing to report. -/
theorem move (accounts : state.Accounts session passed)
    (adjoins : Adjoins session passed next)
    (known : Decoded.Malformed session.input next.offset →
      ∃ cursor ∈ passed, next.offset ≤ cursor.offset) :
    Sighted session (passed ++ [next]) { state with cursor := next } := by
  refine ⟨⟨accounts.stands_append adjoins.stands,
    fun _ _ => accounts.memo_append, fun _ => accounts.placed_append,
    accounts.increasing, ?_, accounts.newest⟩, by simp⟩
  intro offset
  rw [accounts.reported]
  refine and_congr_right fun malformed => ?_
  rw [adjoins.reached_iff malformed.1]
  constructor
  · exact .inl
  · rintro (reached | rfl)
    · exact reached
    · exact known malformed

/-- A report from where the cursor has not been reads like none of the earlier
ones. -/
theorem not_shows (accounts : state.Accounts session passed)
    (notReached : ¬ ∃ cursor ∈ passed, next.offset ≤ cursor.offset)
    (text : String) (error : ParseError) :
    ¬ state.diagnostics.Shows
      ⟨next.position, session.placeText next.position ++ text, error⟩ := by
  rintro ⟨earlier, isReported, same⟩
  obtain ⟨cursor, isPassed, atCursor, other, isPlace⟩ :=
    accounts.placed earlier isReported
  have offsets := Diagnostic.offset_eq_of_render_eq isPlace rfl same
  rw [atCursor] at offsets
  exact notReached ⟨cursor, isPassed, Nat.le_of_eq offsets.symm⟩

/-- Moving on to a malformed byte at which the cursor has not been, and reporting
it. -/
theorem report (accounts : state.Accounts session passed)
    (adjoins : Adjoins session passed next)
    (malformed : Decoded.Malformed session.input next.offset)
    (notReached : ¬ ∃ cursor ∈ passed, next.offset ≤ cursor.offset)
    (text : String) :
    Sighted session (passed ++ [next])
      { state with
        cursor := next
        diagnostics := state.diagnostics.push
          ⟨next.position, session.placeText next.position ++ text,
            .invalidEncoding⟩
        reportedByte := some next.offset } := by
  have pushed := Diagnostics.malformedOffsets_push_of_new
    (accounts.not_shows notReached text .invalidEncoding) rfl
  have before := accounts.lt_of_reported notReached
  refine ⟨⟨accounts.stands_append adjoins.stands,
    fun _ _ => accounts.memo_append, ?_, ?_, ?_, ?_⟩, by simp⟩
  · intro diagnostic reported
    rcases mem_push reported with earlier | rfl
    · exact accounts.placed_append earlier
    · exact ⟨next, by simp, rfl, text, rfl⟩
  · rw [pushed, List.pairwise_append]
    refine ⟨accounts.increasing, List.pairwise_singleton _ _, ?_⟩
    intro reported isReported other isOther
    rw [List.mem_singleton.mp isOther]
    exact before reported isReported
  · intro offset
    rw [pushed, List.mem_append, List.mem_singleton, accounts.reported]
    constructor
    · rintro (⟨isMalformed, reached⟩ | rfl)
      · exact ⟨isMalformed, (adjoins.reached_iff isMalformed.1).mpr
          (.inl reached)⟩
      · exact ⟨malformed, (adjoins.reached_iff malformed.1).mpr (.inr rfl)⟩
    · rintro ⟨isMalformed, reached⟩
      exact ((adjoins.reached_iff isMalformed.1).mp reached).imp
        (⟨isMalformed, ·⟩) id
  · intro offset
    rw [pushed]
    simp only [isNewByte, decide_eq_true_eq, List.mem_append,
      List.mem_singleton]
    constructor
    · rintro behind reported (earlier | rfl)
      · exact Nat.lt_trans (before reported earlier) behind
      · exact behind
    · exact fun all => all _ (.inr rfl)

/-- Reading comes upon a malformed byte that has not been reported exactly if
there is one and the cursor has not been there before. -/
theorem meetsMalformed_iff (accounts : state.Accounts session passed)
    (isNext : state.cursor.advance session.input = next)
    (stands : next.Stands session.input) :
    state.meetsMalformed session = true ↔
      Decoded.Malformed session.input next.offset ∧
        ¬ ∃ cursor ∈ passed, next.offset ≤ cursor.offset := by
  have arrives : state.cursor.nextOffset = next.offset := by
    rw [← isNext, Cursor.offset_advance]
  have meets : state.meetsMalformed session = true ↔
      (Decoded.ofBytesAt session.input next.offset).valid = false ∧
        state.isNewByte next.offset = true := by
    simp [meetsMalformed, Cursor.upcoming, arrives]
  rw [meets, accounts.newest]
  constructor
  · rintro ⟨invalid, beyond⟩
    have malformed : Decoded.Malformed session.input next.offset :=
      ⟨stands.boundary, invalid⟩
    refine ⟨malformed, fun reached => ?_⟩
    exact Nat.lt_irrefl _
      (beyond _ ((accounts.reported _).mpr ⟨malformed, reached⟩))
  · rintro ⟨⟨-, invalid⟩, notReached⟩
    exact ⟨invalid, accounts.lt_of_reported notReached⟩

/-- Reading accounts for the cursor to which it moves on. -/
theorem read (accounts : state.Accounts session passed)
    (adjoins : Adjoins session passed (state.cursor.advance session.input)) :
    (state.read session).Sighted session
      (passed ++ [state.cursor.advance session.input]) := by
  have isNew := accounts.meetsMalformed_iff rfl adjoins.stands
  rw [read_eq]
  by_cases meets : state.meetsMalformed session = true
  · obtain ⟨malformed, notReached⟩ := isNew.mp meets
    rw [if_pos meets, if_pos meets, ← Cursor.offset_advance]
    exact accounts.report adjoins malformed notReached _
  · rw [if_neg meets, if_neg meets]
    exact accounts.move adjoins fun malformed =>
      Decidable.byContradiction fun notReached =>
        meets (isNew.mpr ⟨malformed, notReached⟩)

end Accounts

namespace Sighted

/-- Being where the cursor has been before adds nothing. -/
theorem again (sighted : state.Sighted session passed) {cursor : Cursor}
    (isPassed : cursor ∈ passed) :
    state.Sighted session (passed ++ [cursor]) := by
  have same : ∀ other, other ∈ passed ++ [cursor] ↔ other ∈ passed := by
    simp [isPassed]
  refine ⟨⟨?_, ?_, ?_, sighted.increasing, ?_, sighted.newest⟩, ?_⟩
  · simpa only [same] using sighted.stands
  · simpa only [same] using sighted.memo
  · simpa only [Placed, same] using sighted.placed
  · simpa only [same] using sighted.reported
  · simpa only [same] using sighted.cursor

theorem restore (sighted : state.Sighted session passed) {cursor : Cursor}
    (isPassed : cursor ∈ passed) :
    (state.restore session cursor).Sighted session passed := by
  rw [restore_eq]
  exact { sighted with cursor := isPassed }

theorem remember (sighted : state.Sighted session passed) (key : MemoKey)
    (value : Option (Value α)) :
    (state.remember key value).Sighted session passed := by
  refine { sighted with memo := ?_ }
  intro other entry kept
  rw [ParseState.remember, MemoTable.lookup_store] at kept
  split at kept
  · cases kept
    exact sighted.cursor
  · exact sighted.memo other entry kept

theorem rememberVerdict (sighted : state.Sighted session passed)
    (key : MemoKey) (verdict : Verdict α) :
    (state.rememberVerdict key verdict).Sighted session passed := by
  cases verdict with
  | matched value => exact sighted.remember key (some value)
  | unmatched => exact sighted.remember key none
  | aborted error => exact sighted

/-- Reporting anything but a malformed byte, where the cursor has been, leaves
the reports of malformed bytes as they are. -/
theorem report (sighted : state.Sighted session passed) {error : ParseError}
    (differs : error ≠ .invalidEncoding) {cursor : Cursor}
    (isPassed : cursor ∈ passed) :
    (state.report session error cursor.position).Sighted session passed := by
  have same : (state.report session error
      cursor.position).diagnostics.malformedOffsets =
        state.diagnostics.malformedOffsets :=
    Diagnostics.malformedOffsets_push_of_ne differs
  refine ⟨⟨sighted.stands, sighted.memo, ?_, ?_, ?_, ?_⟩, sighted.cursor⟩
  · intro diagnostic reported
    rcases mem_push reported with earlier | rfl
    · exact sighted.placed diagnostic earlier
    · exact ⟨cursor, isPassed, rfl, _, rfl⟩
  · rw [same]
    exact sighted.increasing
  · rw [same]
    exact sighted.reported
  · rw [same]
    exact sighted.newest

/-- A cursor on a code point is followed by the next one. -/
theorem adjoins (sighted : state.Sighted session passed)
    (present : state.cursor.current.isSome) :
    Adjoins session passed (state.cursor.advance session.input) := by
  have stands := sighted.stands _ sighted.cursor
  refine ⟨stands.advance present, fun offset boundary atMost => ?_⟩
  rw [Cursor.offset_advance] at atMost ⊢
  rcases stands.boundary.le_or_le (stands.follows present) boundary with
    behind | beyond
  · exact .inl ⟨state.cursor, sighted.cursor, behind⟩
  · exact .inr (Nat.le_antisymm atMost beyond)

/-- The report of a malformed byte that the cursor comes to reads like none of
the earlier ones. -/
theorem not_shows_malformedReport (sighted : state.Sighted session passed)
    (present : state.cursor.current.isSome)
    (meets : state.meetsMalformed session = true) :
    ¬ state.diagnostics.Shows (state.malformedReport session) := by
  have isNew := sighted.toAccounts.meetsMalformed_iff rfl
    (sighted.adjoins present).stands
  exact sighted.toAccounts.not_shows (isNew.mp meets).2 _ _

theorem read (sighted : state.Sighted session passed)
    (present : state.cursor.current.isSome) :
    (state.read session).Sighted session
      (passed ++ [state.cursor.advance session.input]) :=
  sighted.toAccounts.read (sighted.adjoins present)

theorem consume (sighted : state.Sighted session passed) (ignoresCase : Bool)
    (chars : List Char) :
    (state.consume session ignoresCase chars).2.Sighted session
      (passed ++ state.cursor.compared session.input ignoresCase chars) := by
  induction chars generalizing passed state with
  | nil => simpa [ParseState.consume, Cursor.compared] using sighted
  | cons char chars ih =>
      by_cases agrees : state.cursor.current.map (CharClass.fold ignoresCase) =
          some char
      · have present : state.cursor.current.isSome := by
          obtain ⟨found, current, -⟩ := Option.map_eq_some_iff.mp agrees
          simp [current]
        have later := ih (sighted.read present)
        rw [cursor_read, List.append_assoc] at later
        simpa [ParseState.consume, Cursor.compared, agrees] using later
      · simpa [ParseState.consume, Cursor.compared, agrees] using sighted

theorem matchLiteral (sighted : state.Sighted session passed) (text : String)
    (ignoresCase : Bool) :
    (state.matchLiteral session text ignoresCase).2.Sighted session
      (passed ++ state.cursor.compared session.input ignoresCase
        text.toList) := by
  have compared := sighted.consume ignoresCase text.toList
  unfold ParseState.matchLiteral
  rcases consumed : state.consume session ignoresCase text.toList
    with ⟨agreed, after⟩
  rw [consumed] at compared
  cases agreed with
  | true => exact compared.of_sight_eq rfl
  | false =>
      have attempted : (after.attempt true state.cursor
          (Expr.literalDescriptor text ignoresCase)).Sighted session _ :=
        compared.of_sight_eq rfl
      exact attempted.restore (List.mem_append_left _ sighted.cursor)

theorem matchChar (sighted : state.Sighted session passed)
    (accepts : Char → Bool) (descriptor : String) :
    (state.matchChar session accepts descriptor).2.Sighted session
      (passed ++ state.cursor.accepted session.input accepts) := by
  unfold ParseState.matchChar Cursor.accepted
  cases current : state.cursor.current with
  | none =>
      rw [Option.any_none, if_neg Bool.false_ne_true, List.append_nil]
      exact sighted.of_sight_eq rfl
  | some char =>
      rw [Option.any_some]
      dsimp only
      split
      · have moved := sighted.read (by simp [current])
        exact moved.of_sight_eq rfl
      · rw [List.append_nil]
        exact sighted.of_sight_eq rfl

end Sighted

end ParseState

end PegEngine
