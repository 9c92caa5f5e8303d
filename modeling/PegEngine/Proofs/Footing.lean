import PegEngine.Proofs.Moments

/-!
# The footing of the cursor

Results are kept by offset and replayed with whole cursors, which is sound only
if an offset determines the cursor that stands there.  This file shows that at
every moment of a parse the cursor stands on a boundary and tells what is there
(`Cursor.Tells`), that the cursors of the results that were kept do so too, and
that no slice reaches out of the input (`Session.moments_orderly`).

The proof carries one invariant from program to program (`ParseState.Upright`,
`Watch.Keeps`).  It says of a state that its cursors stand, and that none of
them lies behind the offset from which the current node is evaluated, which is
what makes the slices come out the right way round.
-/

namespace PegEngine

open ParseState

namespace Cursor

/-- A cursor tells where it is, and nothing else: its offset, which is a
boundary of the bytes, decides what it stands on, in which line, and in which
column.  The end of the bytes counts as a code point without a character or a
width. -/
structure Tells (bytes : ByteArray) (cursor : Cursor) : Prop where
  determined : cursor = ofOffset bytes cursor.offset
  boundary : Decoded.Boundary bytes cursor.offset
  within : cursor.offset ≤ bytes.size
  current : cursor.current = (Decoded.ofBytesAt bytes cursor.offset).codePoint
  width : cursor.width = (Decoded.ofBytesAt bytes cursor.offset).width
  current_eq_none : cursor.current = none ↔ cursor.offset = bytes.size
  width_eq_zero : cursor.width = 0 ↔ cursor.offset = bytes.size
  line : cursor.position.line =
    1 + (Decoded.upTo bytes cursor.offset 0).count (some '\n')
  column : cursor.position.column =
    ((Decoded.upTo bytes cursor.offset 0).reverse.takeWhile
      fun codePoint => codePoint ≠ some '\n').length

variable {bytes : ByteArray} {cursor : Cursor}

theorem Stands.current_eq_none (stands : cursor.Stands bytes) :
    cursor.current = none ↔ cursor.offset = bytes.size := by
  have present :
      (Decoded.ofBytesAt bytes cursor.offset).codePoint.isSome ↔
        cursor.offset < bytes.size := Decoded.codePoint_isSome_iff
  have atMost := stands.boundary.le_size
  rw [← Option.not_isSome_iff_eq_none, stands.current_eq, present]
  omega

theorem Stands.width_eq (stands : cursor.Stands bytes) :
    cursor.width = (Decoded.ofBytesAt bytes cursor.offset).width :=
  congrArg Cursor.width stands.eq_ofOffset

theorem Stands.width_eq_zero (stands : cursor.Stands bytes) :
    cursor.width = 0 ↔ cursor.offset = bytes.size := by
  rw [stands.width_eq]
  constructor
  · intro nothing
    have atMost := stands.boundary.le_size
    refine Decidable.byContradiction fun elsewhere => ?_
    have spans := Decoded.width_ofBytesAt_pos
      (Nat.lt_of_le_of_ne atMost elsewhere)
    omega
  · intro atEnd
    rw [Decoded.ofBytesAt_of_size_le (Nat.le_of_eq atEnd.symm)]
    rfl

theorem Stands.tells (stands : cursor.Stands bytes) : cursor.Tells bytes where
  determined := stands.eq_ofOffset
  boundary := stands.boundary
  within := stands.boundary.le_size
  current := stands.current_eq
  width := stands.width_eq
  current_eq_none := stands.current_eq_none
  width_eq_zero := stands.width_eq_zero
  line := congrArg Position.line stands.position_eq
  column := congrArg Position.column stands.position_eq

/-- What stands behind the current code point is still part of the bytes. -/
theorem Stands.nextOffset_le (stands : cursor.Stands bytes) :
    cursor.nextOffset ≤ bytes.size := by
  rw [stands.nextOffset_eq]
  rcases Nat.lt_or_eq_of_le stands.boundary.le_size with before | atEnd
  · exact Decoded.add_width_le before
  · rw [Decoded.ofBytesAt_of_size_le (Nat.le_of_eq atEnd.symm)]
    exact Nat.le_of_eq atEnd

theorem offset_le_nextOffset (cursor : Cursor) :
    cursor.offset ≤ cursor.nextOffset :=
  Nat.le_add_right _ _

end Cursor

/-- A moment is in order if the cursor tells where it is, as those of the kept
results do, and if a slice ends no earlier than it starts and within the
input. -/
def Moment.Orderly {α σ : Type} (session : Session α σ) : Moment α σ → Prop
  | .passes state => state.cursor.Tells session.input ∧
      ∀ key entry, state.memo.lookup key = some entry →
        entry.finish.Tells session.input
  | .slices first last => first ≤ last ∧ last ≤ session.input.size

namespace ParseState

variable {α σ : Type}

/-- The cursor stands at a floor or beyond it, every kept result ends where a
cursor stands, no earlier than it starts, and so does the farthest failure,
unless it is the one with which a parse starts. -/
structure Upright (session : Session α σ) (floor : Nat)
    (state : ParseState α σ) : Prop where
  stands : state.cursor.Stands session.input
  reaches : floor ≤ state.cursor.offset
  kept : ∀ key entry, state.memo.lookup key = some entry →
    entry.finish.Stands session.input ∧ key.offset ≤ entry.finish.offset
  farthest : state.expectations.farthest = Expectations.empty.farthest ∨
    (0 < state.expectations.farthest.offset ∧
      ∃ cursor : Cursor, cursor.Stands session.input ∧
        cursor.position = state.expectations.farthest)

variable {session : Session α σ} {floor : Nat} {state : ParseState α σ}

/-- The state itself has the cursor as its floor. -/
theorem Upright.atCursor (upright : state.Upright session floor) :
    state.Upright session state.cursor.offset :=
  { upright with reaches := Nat.le_refl _ }

theorem Upright.lower (upright : state.Upright session floor) {lower : Nat}
    (below : lower ≤ floor) : state.Upright session lower :=
  { upright with reaches := Nat.le_trans below upright.reaches }

theorem Upright.orderly (upright : state.Upright session floor) :
    (Moment.passes state).Orderly session :=
  ⟨upright.stands.tells, fun key entry kept =>
    (upright.kept key entry kept).1.tells⟩

/-- A slice from the floor up to the cursor is in order. -/
theorem Upright.orderly_slice (upright : state.Upright session floor) :
    (Moment.slices floor state.cursor.offset).Orderly session :=
  ⟨upright.reaches, upright.stands.boundary.le_size⟩

/-- So is what stands behind the cursor. -/
theorem Upright.orderly_upcoming (upright : state.Upright session floor) :
    (Moment.slices state.cursor.nextOffset session.input.size).Orderly
      session :=
  ⟨upright.stands.nextOffset_le, Nat.le_refl _⟩

/-- Nothing has changed of what the footing depends on. -/
structure Unmoved (before after : ParseState α σ) : Prop where
  cursor : after.cursor = before.cursor
  memo : after.memo = before.memo
  farthest : after.expectations.farthest = before.expectations.farthest

theorem Upright.unmoved {after : ParseState α σ}
    (upright : state.Upright session floor) (unmoved : Unmoved state after) :
    after.Upright session floor where
  stands := unmoved.cursor ▸ upright.stands
  reaches := unmoved.cursor ▸ upright.reaches
  kept := unmoved.memo ▸ upright.kept
  farthest := unmoved.farthest ▸ upright.farthest

theorem unmoved_enterNode (subject : Subject) (state : ParseState α σ) :
    Unmoved state (state.enterNode session subject) := by
  rw [enterNode_eq]
  exact ⟨rfl, rfl, rfl⟩

theorem unmoved_leaveNode (subject : Subject) (state : ParseState α σ) :
    Unmoved state (state.leaveNode session subject) := by
  rw [leaveNode_eq]
  exact ⟨rfl, rfl, rfl⟩

theorem unmoved_traceMatch (start : Cursor) (state : ParseState α σ) :
    Unmoved state (state.traceMatch session start) := by
  rw [traceMatch_eq]
  exact ⟨rfl, rfl, rfl⟩

theorem unmoved_bind (label : String) (value : Value α)
    (state : ParseState α σ) : Unmoved state (state.bind label value) := by
  unfold ParseState.bind
  split <;> exact ⟨rfl, rfl, rfl⟩

/-- Going to where a cursor stands, at the floor or beyond it. -/
theorem Upright.restore (upright : state.Upright session floor)
    {cursor : Cursor} (stands : cursor.Stands session.input)
    (reaches : floor ≤ cursor.offset) :
    (state.restore session cursor).Upright session floor := by
  rw [restore_eq]
  exact { upright with stands := stands, reaches := reaches }

/-- Reading moves on unless there is nothing left to read. -/
theorem Upright.read (upright : state.Upright session floor)
    (present : state.cursor.current.isSome) :
    (state.read session).Upright session floor := by
  rw [read_eq]
  refine { upright with
    stands := upright.stands.advance present
    reaches := ?_ }
  dsimp only
  rw [Cursor.offset_advance]
  exact Nat.le_trans upright.reaches (Cursor.offset_le_nextOffset _)

/-- Keeping a result that has started at the floor. -/
theorem Upright.remember {key : MemoKey}
    (upright : state.Upright session key.offset)
    (value : Option (Value α)) :
    (state.remember key value).Upright session key.offset := by
  refine { upright with kept := fun other entry kept => ?_ }
  simp only [ParseState.remember, MemoTable.lookup_store] at kept
  split at kept
  case isTrue same =>
    cases kept
    exact same ▸ ⟨upright.stands, upright.reaches⟩
  case isFalse => exact upright.kept other entry kept

/-- An attempt that starts where a cursor stands may become the farthest one,
but not before the first code point has been passed. -/
theorem Upright.attempt (upright : state.Upright session floor)
    {start : Cursor} (stands : start.Stands session.input) (failed : Bool)
    (descriptor : String) :
    (state.attempt failed start descriptor).Upright session floor := by
  refine { upright with farthest := ?_ }
  unfold ParseState.attempt Expectations.record
  dsimp only
  split
  · exact upright.farthest
  · split
    · exact upright.farthest
    · split
      case isTrue farther =>
        exact .inr ⟨Nat.zero_lt_of_lt farther, start, stands, rfl⟩
      case isFalse => exact upright.farthest

end ParseState

namespace Watch

variable {α σ β γ : Type} {session : Session α σ}

/-- A program keeps to the footing above a floor: it is in order at every
moment, and where it ends, the cursor has not gone below the floor. -/
def Keeps (floor : Nat) {program : Eval α σ β}
    (watch : Watch session program) : Prop :=
  ∀ state : ParseState α σ, state.Upright session floor →
    watch.Holds (Moment.Orderly session)
      (fun _ after => after.Upright session floor) state

section Programs

variable {floor : Nat} {program : Eval α σ β} {watch : Watch session program}

theorem keeps_pure (result : β) :
    (Watch.pure result : Watch session _).Keeps floor :=
  fun _ upright => holds_pure.mpr upright

theorem keeps_throw (interrupt : Interrupt) :
    (Watch.throw interrupt :
      Watch session (throw interrupt : Eval α σ β)).Keeps floor :=
  fun _ _ => holds_throw

theorem Keeps.bind {next : β → Eval α σ γ}
    {later : ∀ result, Watch session (next result)}
    (keeps : watch.Keeps floor)
    (laterKeeps : ∀ result, (later result).Keeps floor) :
    (watch.bind later).Keeps floor := by
  intro state upright
  exact holds_bind.mpr ((keeps state upright).mono fun result after =>
    laterKeeps result after)

/-- A program that looks at the cursor goes on from where the cursor stands. -/
theorem keeps_cursor {next : Cursor → Eval α σ β}
    {later : ∀ cursor, Watch session (next cursor)}
    (keeps : ∀ cursor : Cursor, cursor.Stands session.input →
      floor ≤ cursor.offset → (later cursor).Keeps floor) :
    (Watch.cursor.bind later).Keeps floor := by
  intro state upright
  exact holds_bind.mpr (holds_cursor.mpr
    (keeps _ upright.stands upright.reaches state upright))

theorem keeps_ite {test : Prop} [Decidable test] {other : Eval α σ β}
    {otherwise : Watch session other} (keeps : watch.Keeps floor)
    (keepsToo : otherwise.Keeps floor) :
    (watch.ite otherwise :
      Watch session (if test then program else other)).Keeps floor := by
  intro state upright
  rw [holds_ite]
  split
  · exact keeps state upright
  · exact keepsToo state upright

theorem keeps_change {update : ParseState α σ → ParseState α σ}
    {changes : ∀ state, Change session state (update state)}
    (keeps : ∀ state : ParseState α σ, state.Upright session floor →
      (update state).Upright session floor) :
    (change changes).Keeps floor := fun state upright =>
  have after := keeps state upright
  holds_change.mpr ⟨after.orderly, after⟩

theorem keeps_unmoved {update : ParseState α σ → ParseState α σ}
    {changes : ∀ state, Change session state (update state)}
    (unmoved : ∀ state : ParseState α σ, Unmoved state (update state)) :
    (change changes).Keeps floor :=
  keeps_change fun state upright => upright.unmoved (unmoved state)

theorem keeps_restore {cursor : Cursor} (stands : cursor.Stands session.input)
    (reaches : floor ≤ cursor.offset) :
    (change (.restore cursor) : Watch session _).Keeps floor :=
  keeps_change fun _ upright => upright.restore stands reaches

theorem keeps_attempt {start : Cursor} (stands : start.Stands session.input)
    (failed : Bool) (descriptor : String) :
    (change (.attempt failed start descriptor) : Watch session _).Keeps
      floor :=
  keeps_change fun _ upright => upright.attempt stands failed descriptor

theorem Keeps.between {enter leave : ParseState α σ → ParseState α σ}
    {enters : ∀ state, Change session state (enter state)}
    {leaves : ∀ state, Change session state (leave state)}
    (keeps : watch.Keeps floor) (unmoved : ∀ state, Unmoved state (enter state))
    (unmovedToo : ∀ state, Unmoved state (leave state)) :
    (watch.between enters leaves).Keeps floor :=
  (keeps_unmoved unmoved).bind fun _ => keeps.bind fun _ =>
    (keeps_unmoved unmovedToo).bind fun _ => keeps_pure _

theorem Keeps.inScope (keeps : watch.Keeps floor) :
    watch.inScope.Keeps floor :=
  keeps.between (fun _ => ⟨rfl, rfl, rfl⟩) fun _ => ⟨rfl, rfl, rfl⟩

theorem Keeps.underNot (keeps : watch.Keeps floor) :
    watch.underNot.Keeps floor :=
  keeps.between (fun _ => ⟨rfl, rfl, rfl⟩) fun _ => ⟨rfl, rfl, rfl⟩

theorem Keeps.inRule (keeps : watch.Keeps floor) (rule : Rule α σ) :
    (watch.inRule rule).Keeps floor :=
  keeps.between (fun _ => ⟨rfl, rfl, rfl⟩) fun _ => ⟨rfl, rfl, rfl⟩

theorem Keeps.traced (keeps : watch.Keeps floor) (subject : Subject) :
    (watch.traced subject).Keeps floor :=
  keeps.between (unmoved_enterNode subject) (unmoved_leaveNode subject)

/-- A lookahead ends where it has started. -/
theorem Keeps.lookahead {program : Eval α σ (Verdict α)}
    {watch : Watch session program} (keeps : watch.Keeps floor) :
    watch.lookahead.Keeps floor :=
  keeps_cursor fun _ stands reaches => keeps.inScope.bind fun _ =>
    (keeps_restore stands reaches).bind fun _ => keeps_pure _

/-- Code that runs on a match from the floor on sees a slice in order. -/
theorem keeps_runCode (code : Code α σ β) (start : Cursor) (value : Value α) :
    (runCode code start value : Watch session _).Keeps start.offset := by
  intro state upright
  have after : ∀ store, ParseState.Upright session start.offset
      { state with store := store } := fun _ =>
    upright.unmoved ⟨rfl, rfl, rfl⟩
  refine ⟨?_, ?_⟩
  · simp only [runCode, List.forall_mem_cons]
    exact ⟨upright.orderly_slice, (after _).orderly, List.forall_mem_nil _⟩
  · rw [Eval.ends_runCode]
    rcases code (state.context session start value) with ⟨reply, store⟩
    cases reply with
    | answer | complaint => exact after store
    | failure => trivial

theorem keeps_traceMatch (start : Cursor) :
    (traceMatch start : Watch session _).Keeps start.offset := by
  intro state upright
  have after : (state.traceMatch session start).Upright session start.offset :=
    upright.unmoved (unmoved_traceMatch start state)
  refine ⟨List.forall_mem_append.mpr ⟨?_, ?_⟩, after⟩
  · intro moment isMoment
    split at isMoment
    · exact List.mem_singleton.mp isMoment ▸ upright.orderly_slice
    · cases isMoment
  · exact fun moment isMoment =>
      List.mem_singleton.mp isMoment ▸ after.orderly

end Programs

section Matchers

variable {floor : Nat}

/-- Where there is something to read, reading keeps to the footing, and so does
what goes on from there. -/
theorem holds_reading {next : PUnit → Eval α σ β}
    {later : ∀ result, Watch session (next result)} {state : ParseState α σ}
    (upright : state.Upright session floor)
    (present : state.cursor.current.isSome)
    (keeps : (later .unit).Keeps floor) :
    (read.bind later).Holds (Moment.Orderly session)
      (fun _ after => after.Upright session floor) state :=
  have after := upright.read present
  holds_bind.mpr (holds_read.mpr
    ⟨upright.orderly_upcoming, after.orderly, keeps _ after⟩)

theorem keeps_consume (ignoresCase : Bool) (chars : List Char) :
    (consume ignoresCase chars : Watch session _).Keeps floor := by
  induction chars with
  | nil => exact keeps_pure true
  | cons char chars ih =>
      intro state upright
      refine holds_ofEq.mpr (holds_bind.mpr (holds_cursor.mpr
        (holds_ite.mpr ?_)))
      split
      case isTrue agrees =>
        obtain ⟨found, current, -⟩ := Option.map_eq_some_iff.mp agrees
        exact holds_reading upright (by simp [current]) ih
      case isFalse => exact keeps_pure false state upright

/-- What has been consumed since the floor is a slice in order. -/
theorem keeps_succeed {start : Cursor} (stands : start.Stands session.input)
    (descriptor : String) :
    (succeed start descriptor : Watch session _).Keeps start.offset := by
  intro state upright
  exact holds_ofEq.mpr (holds_bind.mpr (holds_textFrom.mpr
    ⟨upright.orderly_slice,
      (keeps_attempt stands false descriptor).bind (fun _ => keeps_pure _)
        state upright⟩))

theorem keeps_fail (descriptor : String) :
    (fail descriptor : Watch session _).Keeps floor := by
  intro state upright
  refine holds_ofEq.mpr (keeps_cursor (fun start stands _ => ?_) state upright)
  exact (keeps_attempt stands true descriptor).bind fun _ => keeps_pure _

/-- What keeps to the footing above the offset at which it starts keeps to it
above every floor. -/
theorem keeps_of_start {program : Eval α σ β} {watch : Watch session program}
    (keeps : ∀ state : ParseState α σ,
      state.Upright session state.cursor.offset →
      watch.Holds (Moment.Orderly session)
        (fun _ after => after.Upright session state.cursor.offset) state) :
    watch.Keeps floor := fun state upright =>
  (keeps state upright.atCursor).mono fun _ _ after =>
    after.lower upright.reaches

theorem keeps_literal (text : String) (ignoresCase : Bool) :
    (literal text ignoresCase : Watch session _).Keeps floor := by
  refine keeps_of_start fun state upright => holds_ofEq.mpr
    (holds_bind.mpr (holds_cursor.mpr ?_))
  refine (keeps_consume ignoresCase text.toList).bind (fun agreed => ?_)
    state upright
  cases agreed with
  | true => exact keeps_succeed upright.stands _
  | false =>
      exact (keeps_attempt upright.stands true _).bind fun _ =>
        (keeps_restore upright.stands (Nat.le_refl _)).bind fun _ =>
          keeps_pure _

theorem keeps_character (accepts : Char → Bool) (descriptor : String) :
    (character accepts descriptor : Watch session _).Keeps floor := by
  refine keeps_of_start fun state upright => holds_ofEq.mpr
    (holds_bind.mpr (holds_cursor.mpr ?_))
  cases current : state.cursor.current with
  | none => exact keeps_fail descriptor state upright
  | some char =>
      rw [holds_ite]
      split
      · exact holds_reading upright (by simp [current])
          (keeps_succeed upright.stands descriptor)
      · exact keeps_fail descriptor state upright

end Matchers

section Nodes

variable {floor : Nat}

/-- A result that is replayed ends no earlier than it starts, and a new one is
kept with the cursor at which it ends. -/
theorem keeps_memoized (enabled : Bool) (node : NodeKey)
    {program : Eval α σ (Verdict α)} {watch : Watch session program}
    (keeps : ∀ floor, watch.Keeps floor) :
    (watch.memoized enabled node).Keeps floor := by
  refine keeps_ite ?_ (keeps floor)
  refine keeps_of_start fun state upright => holds_bind.mpr
    (holds_get.mpr (holds_bind.mpr (holds_get.mpr ?_)))
  dsimp only
  cases kept : state.memo.lookup (state.memoKey node) with
  | some entry =>
      obtain ⟨stands, reaches⟩ := upright.kept _ _ kept
      exact (keeps_restore stands reaches).bind (fun _ => keeps_pure _)
        state upright
  | none =>
      refine (keeps _).bind (fun verdict => ?_) state upright
      have keepsResult : ∀ value,
          (change (.remember (state.memoKey node) value) :
            Watch session _).Keeps state.cursor.offset :=
        fun value => keeps_change fun (before : ParseState α σ)
            (upright : before.Upright session (state.memoKey node).offset) =>
          upright.remember value
      cases verdict with
      | matched value => exact (keepsResult _).bind fun _ => keeps_pure _
      | unmatched => exact (keepsResult _).bind fun _ => keeps_pure _
      | aborted error => exact keeps_pure _

theorem keeps_counted (expr : Expr α σ) {program : Eval α σ (Verdict α)}
    {watch : Watch session program} (keeps : watch.Keeps floor) :
    (watch.counted expr).Keeps floor := by
  refine Keeps.bind ?_ fun _ => ?_
  · exact keeps_unmoved fun _ => ⟨rfl, rfl, rfl⟩
  · intro state upright
    exact holds_bind.mpr (holds_get.mpr
      (keeps_ite (keeps_pure _) (keeps.traced _) state upright))

theorem keeps_rounds {body : Eval α σ (Verdict α)} {watch : Watch session body}
    (keeps : watch.Keeps floor) (rounds : Nat) (values : List (Value α)) :
    (watch.rounds rounds values).Keeps floor := by
  induction rounds generalizing values with
  | zero => exact keeps_throw _
  | succ rounds ih =>
      refine keeps_cursor fun _ _ _ => keeps.inScope.bind fun verdict => ?_
      cases verdict with
      | matched value =>
          exact keeps_cursor fun _ _ _ => keeps_ite (keeps_pure _) (ih _)
      | unmatched => exact keeps_pure _
      | aborted error => exact keeps_pure _

theorem keeps_repetition (required : Nat) {body : Eval α σ (Verdict α)}
    {watch : Watch session body} (keeps : watch.Keeps floor) :
    (watch.repetition required).Keeps floor := by
  refine keeps_cursor fun _ _ _ => (keeps_rounds keeps _ _).bind
    fun result => ?_
  cases result with
  | ok values => exact keeps_ite (keeps_pure _) (keeps_pure _)
  | error error => exact keeps_pure _

/-- The code of an action sees the match from its start on, which is as far as
the match can go back. -/
theorem keeps_action (run : Action α σ) {body : Eval α σ (Verdict α)}
    {watch : Watch session body} (keeps : ∀ floor, watch.Keeps floor) :
    (watch.action run).Keeps floor := by
  refine keeps_of_start fun state upright => holds_bind.mpr
    (holds_cursor.mpr ?_)
  refine (keeps _).bind (fun verdict => ?_) state upright
  cases verdict with
  | matched value =>
      refine (keeps_runCode run _ value).bind fun reply =>
        (keeps_traceMatch _).bind fun _ => ?_
      cases reply with
      | ok result => exact keeps_pure _
      | error message =>
          refine Keeps.bind ?_ fun _ => keeps_pure _
          exact keeps_unmoved fun _ => ⟨rfl, rfl, rfl⟩
  | unmatched => exact keeps_pure _
  | aborted error => exact keeps_pure _

theorem keeps_predicate (test : Predicate α σ) (expected : Bool) :
    (predicate test expected : Watch session _).Keeps floor := by
  refine keeps_of_start fun state upright => holds_bind.mpr
    (holds_cursor.mpr ?_)
  refine (keeps_runCode test _ .nil).bind (fun reply => ?_) state upright
  cases reply with
  | ok holds => exact keeps_ite (keeps_pure _) (keeps_pure _)
  | error message =>
      refine Keeps.bind ?_ fun _ => keeps_pure _
      exact keeps_unmoved fun _ => ⟨rfl, rfl, rfl⟩

theorem keeps_runRule (rule : Rule α σ) {body : Eval α σ (Verdict α)}
    {watch : Watch session body} (keeps : ∀ floor, watch.Keeps floor) :
    (watch.runRule rule).Keeps floor := by
  refine keeps_of_start fun state upright => holds_bind.mpr
    (holds_cursor.mpr ?_)
  refine (((keeps _).inRule rule).traced _).bind (fun verdict => ?_)
    state upright
  cases verdict with
  | matched value => exact (keeps_traceMatch _).bind fun _ => keeps_pure _
  | unmatched => exact keeps_pure _
  | aborted error => exact keeps_pure _

variable {evaluate : ExprPlace → Expr α σ → Eval α σ (Verdict α)}
  {members : ∀ place expr, Watch session (evaluate place expr)}
  (keeps : ∀ place expr floor, (members place expr).Keeps floor)
include keeps

/-- A sequence that fails goes back to where it has started, at the floor or
beyond it. -/
theorem keeps_sequence (place : ExprPlace) {start : Cursor}
    (stands : start.Stands session.input) (reaches : floor ≤ start.offset)
    (index : Nat) (values : List (Value α)) (exprs : List (Expr α σ)) :
    (sequence members place start index values exprs).Keeps floor := by
  induction exprs generalizing index values with
  | nil => exact keeps_pure _
  | cons expr exprs ih =>
      refine (keeps _ _ _).bind fun verdict => ?_
      cases verdict with
      | matched value => exact ih _ _
      | unmatched =>
          exact (keeps_restore stands reaches).bind fun _ => keeps_pure _
      | aborted error => exact keeps_pure _

theorem keeps_choice (place : ExprPlace) (index : Nat)
    (exprs : List (Expr α σ)) :
    (choice members place index exprs).Keeps floor := by
  induction exprs generalizing index with
  | nil => exact keeps_pure _
  | cons expr exprs ih =>
      refine (keeps _ _ _).inScope.bind fun verdict => ?_
      cases verdict with
      | matched value => exact keeps_pure _
      | unmatched => exact ih _
      | aborted error => exact keeps_pure _

theorem keeps_rule (rule : Rule α σ) (index : Nat) :
    (Watch.rule members rule index).Keeps floor :=
  keeps_memoized _ _ fun _ => keeps_runRule rule (keeps _ _)

theorem keeps_reference (name : String) :
    (reference members name).Keeps floor := by
  refine keeps_ite (keeps_pure _) ?_
  cases target : session.grammar.target? name with
  | none => exact keeps_pure _
  | some found => exact keeps_rule keeps found.1 found.2

theorem keeps_node (place : ExprPlace) (expr : Expr α σ) :
    (node members place expr).Keeps floor := by
  cases expr with
  | literal text ignoresCase => exact keeps_literal text ignoresCase
  | oneOf charClass => exact keeps_character _ _
  | any => exact keeps_character _ _
  | sequence exprs =>
      exact keeps_cursor fun start stands reaches =>
        keeps_sequence keeps place stands reaches 0 [] exprs
  | choice exprs => exact keeps_choice keeps place 0 exprs
  | zeroOrMore body => exact keeps_repetition 0 (keeps _ _ _)
  | oneOrMore body => exact keeps_repetition 1 (keeps _ _ _)
  | optional body =>
      refine (keeps _ _ _).inScope.bind fun verdict => ?_
      cases verdict <;> exact keeps_pure _
  | followedBy body =>
      refine (keeps _ _ _).lookahead.bind fun verdict => ?_
      cases verdict <;> exact keeps_pure _
  | notFollowedBy body =>
      refine (keeps _ _ _).underNot.lookahead.bind fun verdict => ?_
      cases verdict <;> exact keeps_pure _
  | labeled label body =>
      refine (keeps _ _ _).inScope.bind fun verdict => ?_
      cases verdict with
      | matched value =>
          exact (keeps_unmoved (unmoved_bind label value)).bind fun _ =>
            keeps_pure _
      | unmatched | aborted => exact keeps_pure _
  | reference name => exact keeps_reference keeps name
  | action body run => exact keeps_action run (keeps _ _)
  | require test => exact keeps_predicate test true
  | forbid test => exact keeps_predicate test false

end Nodes

/-- Every expression keeps to the footing. -/
theorem keeps_expr (session : Session α σ) (depth : Nat) (place : ExprPlace)
    (expr : Expr α σ) (floor : Nat) :
    (Watch.expr session depth place expr).Keeps floor := by
  induction depth generalizing place expr floor with
  | zero => exact keeps_throw _
  | succ depth ih =>
      exact keeps_memoized _ _ fun _ =>
        keeps_counted expr (keeps_node ih place expr)

end Watch

namespace Session

variable {α σ : Type}

theorem upright_opening (session : Session α σ) :
    session.opening.Upright session 0 := by
  unfold opening
  rw [read_eq]
  refine ⟨Cursor.stands_advance_start session.input, Nat.zero_le _, ?_,
    .inl rfl⟩
  intro key entry kept
  cases (MemoTable.lookup_empty key).symm.trans kept

/-- What happens in a parse up to the end of the entry rule, with nodes nested
no deeper than the given depth. -/
def moments (session : Session α σ) (depth : Nat) (entry : Rule α σ) :
    List (Moment α σ) :=
  (Watch.entry session depth entry).moments (ParseState.initial session)

/-- A parse keeps to the footing from the first reading on. -/
theorem entry_holds (session : Session α σ) (depth : Nat) (entry : Rule α σ) :
    (Watch.entry session depth entry).Holds (Moment.Orderly session)
      (fun _ after => after.Upright session 0)
      (ParseState.initial session) :=
  have opening := session.upright_opening
  Watch.holds_bind.mpr (Watch.holds_read.mpr
    ⟨⟨Nat.zero_le _, Nat.le_refl _⟩, opening.orderly,
      Watch.keeps_rule (Watch.keeps_expr session depth) entry 0 _ opening⟩)

/-- The moments of a parse lead from its initial state to where the entry rule
ends, and all of them are in order: in every state the cursor tells where it is,
and so do the cursors of the results that were kept, and every slice of the
input that is taken is within the input. -/
theorem moments_orderly (session : Session α σ) (depth : Nat)
    (entry : Rule α σ) :
    Leads session (ParseState.initial session) (session.moments depth entry)
        (Eval.endState (session.entering depth entry)) ∧
      ∀ moment ∈ session.moments depth entry, moment.Orderly session :=
  ⟨(Watch.entry session depth entry).leads (ParseState.initial session),
    (session.entry_holds depth entry).1⟩

end Session

end PegEngine
