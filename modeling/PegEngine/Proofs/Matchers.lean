import PegEngine.Evaluation.Matching
import PegEngine.Proofs.Spans

/-!
# What matchers do

Matchers move the cursor, record their attempts and report malformed bytes, and
leave the rest of the state alone (`ParseState.Steady`).  A literal matches
exactly when the code points at the cursor spell it
(`ParseState.matchLiteral_spec`), a matcher for one character when there is a
code point that it accepts (`ParseState.matchChar_spec`).
-/

namespace PegEngine

namespace ParseState

variable {α σ : Type}

variable (session : Session α σ)

/-- Whatever was reported between two states was reported from the rule that was
the innermost one at first. -/
def ReportsHere (before after : ParseState α σ) : Prop :=
  ∀ diagnostic ∈ after.diagnostics.toList,
    diagnostic ∈ before.diagnostics.toList ∨
      diagnostic.location = before.location session diagnostic.position

/-- Nothing has changed but the cursor, what was recorded and reported, and the
log. -/
structure Steady (before after : ParseState α σ) : Prop where
  scopes : after.scopes = before.scopes
  activeRules : after.activeRules = before.activeRules
  memo : after.memo = before.memo
  inverted : after.expectations.inverted = before.expectations.inverted
  expressions : after.expressions = before.expressions
  openNodes : after.openNodes = before.openNodes
  store : after.store = before.store
  reports : ReportsHere session before after

variable {session}

theorem ReportsHere.of_eq {before after : ParseState α σ}
    (same : after.diagnostics = before.diagnostics) :
    ReportsHere session before after :=
  fun _ reported => .inl (same ▸ reported)

theorem location_eq {before after : ParseState α σ}
    (same : after.activeRules = before.activeRules) (position : Position) :
    after.location session position = before.location session position := by
  simp only [location, same]

theorem Steady.refl (state : ParseState α σ) : Steady session state state :=
  ⟨rfl, rfl, rfl, rfl, rfl, rfl, rfl, .of_eq rfl⟩

theorem Steady.trans {before middle after : ParseState α σ}
    (first : Steady session before middle)
    (second : Steady session middle after) : Steady session before after where
  scopes := second.scopes.trans first.scopes
  activeRules := second.activeRules.trans first.activeRules
  memo := second.memo.trans first.memo
  inverted := second.inverted.trans first.inverted
  expressions := second.expressions.trans first.expressions
  openNodes := second.openNodes.trans first.openNodes
  store := second.store.trans first.store
  reports diagnostic reported := by
    rcases second.reports diagnostic reported with earlier | here
    · exact first.reports diagnostic earlier
    · rw [location_eq first.activeRules] at here
      exact .inr here

theorem mem_push {diagnostics : Diagnostics} {added diagnostic : Diagnostic}
    (reported : diagnostic ∈ (diagnostics.push added).toList) :
    diagnostic ∈ diagnostics.toList ∨ diagnostic = added := by
  unfold Diagnostics.push at reported
  dsimp only at reported
  split at reported
  · exact .inl reported
  · simpa using reported

variable (session)

/-- Reading comes upon a malformed byte that has not been reported. -/
def meetsMalformed (state : ParseState α σ) : Bool :=
  !(state.cursor.upcoming session.input).valid &&
    state.isNewByte state.cursor.nextOffset

/-- The report of a malformed byte that reading comes upon. -/
def malformedReport (state : ParseState α σ) : Diagnostic :=
  let position := (state.cursor.advance session.input).position
  ⟨position, state.location session position, .invalidEncoding⟩

/-- Reading moves the cursor, and reports a malformed byte once. -/
theorem read_eq (state : ParseState α σ) :
    state.read session =
      { state with
        cursor := state.cursor.advance session.input
        diagnostics :=
          if state.meetsMalformed session then
            state.diagnostics.push (state.malformedReport session)
          else state.diagnostics
        reportedByte :=
          if state.meetsMalformed session then some state.cursor.nextOffset
          else state.reportedByte } := by
  have arrives := Cursor.offset_advance session.input state.cursor
  have sameTest : ∀ cursor : Cursor,
      isNewByte state.cursor.nextOffset { state with cursor := cursor } =
        state.isNewByte state.cursor.nextOffset := fun _ => rfl
  unfold read meetsMalformed
  cases (state.cursor.upcoming session.input).valid with
  | true => rfl
  | false =>
      simp only [reportMalformed, arrives, sameTest]
      cases state.isNewByte state.cursor.nextOffset <;> rfl

theorem restore_eq (cursor : Cursor) (state : ParseState α σ) :
    state.restore session cursor =
      { state with
        cursor := cursor
        log := (state.restore session cursor).log } := by
  unfold restore trace
  split
  · rfl
  · split <;> rfl

@[simp]
theorem cursor_read (state : ParseState α σ) :
    (state.read session).cursor = state.cursor.advance session.input := by
  rw [read_eq]

@[simp]
theorem cursor_restore (cursor : Cursor) (state : ParseState α σ) :
    (state.restore session cursor).cursor = cursor := by
  rw [restore_eq]

theorem steady_read (state : ParseState α σ) :
    Steady session state (state.read session) := by
  rw [read_eq]
  refine ⟨rfl, rfl, rfl, rfl, rfl, rfl, rfl, fun diagnostic reported => ?_⟩
  dsimp only at reported
  split at reported
  · rcases mem_push reported with earlier | rfl
    · exact .inl earlier
    · exact .inr rfl
  · exact .inl reported

theorem steady_restore (cursor : Cursor) (state : ParseState α σ) :
    Steady session state (state.restore session cursor) := by
  rw [restore_eq]
  exact ⟨rfl, rfl, rfl, rfl, rfl, rfl, rfl, .of_eq rfl⟩

theorem inverted_record (expectations : Expectations) (failed : Bool)
    (position : Position) (descriptor : String) :
    (expectations.record failed position descriptor).inverted =
      expectations.inverted := by
  unfold Expectations.record
  split
  · rfl
  · split
    · rfl
    · split <;> rfl

theorem steady_attempt (failed : Bool) (start : Cursor) (descriptor : String)
    (state : ParseState α σ) :
    Steady session state (state.attempt failed start descriptor) where
  scopes := rfl
  activeRules := rfl
  memo := rfl
  inverted := inverted_record _ _ _ _
  expressions := rfl
  openNodes := rfl
  store := rfl
  reports := .of_eq rfl

theorem steady_report (error : ParseError) (position : Position)
    (state : ParseState α σ) :
    Steady session state (state.report session error position) := by
  refine ⟨rfl, rfl, rfl, rfl, rfl, rfl, rfl, fun diagnostic reported => ?_⟩
  rcases mem_push reported with earlier | rfl
  · exact .inl earlier
  · exact .inr rfl

theorem traceMatch_eq (start : Cursor) (state : ParseState α σ) :
    state.traceMatch session start =
      { state with log := (state.traceMatch session start).log } := by
  unfold traceMatch
  split <;> rfl

theorem steady_traceMatch (start : Cursor) (state : ParseState α σ) :
    Steady session state (state.traceMatch session start) := by
  unfold traceMatch
  split
  · exact ⟨rfl, rfl, rfl, rfl, rfl, rfl, rfl, .of_eq rfl⟩
  · exact .refl _

@[simp]
theorem cursor_traceMatch (start : Cursor) (state : ParseState α σ) :
    (state.traceMatch session start).cursor = state.cursor := by
  unfold traceMatch
  split <;> rfl

@[simp]
theorem store_traceMatch (start : Cursor) (state : ParseState α σ) :
    (state.traceMatch session start).store = state.store :=
  (steady_traceMatch session start state).store

theorem steady_consume (ignoresCase : Bool) (chars : List Char)
    (state : ParseState α σ) :
    Steady session state (state.consume session ignoresCase chars).2 := by
  induction chars generalizing state with
  | nil => exact .refl _
  | cons char chars ih =>
      rw [consume]
      split
      · exact (steady_read session state).trans (ih (state.read session))
      · exact .refl _

theorem steady_matchLiteral (text : String) (ignoresCase : Bool)
    (state : ParseState α σ) :
    Steady session state (state.matchLiteral session text ignoresCase).2 := by
  have compared := steady_consume session ignoresCase text.toList state
  unfold matchLiteral
  rcases consumed : state.consume session ignoresCase text.toList
    with ⟨agreed, after⟩
  rw [consumed] at compared
  have attempted := compared.trans (steady_attempt session (!agreed)
    state.cursor (Expr.literalDescriptor text ignoresCase) after)
  cases agreed with
  | true => exact attempted
  | false => exact attempted.trans (steady_restore session _ _)

theorem steady_matchChar (accepts : Char → Bool) (descriptor : String)
    (state : ParseState α σ) :
    Steady session state
      (state.matchChar session accepts descriptor).2 := by
  unfold matchChar
  cases state.cursor.current with
  | none => exact steady_attempt session _ _ _ _
  | some char =>
      dsimp only
      split
      · exact (steady_read session state).trans
          (steady_attempt session _ _ _ _)
      · exact steady_attempt session _ _ _ _

/-- The characters that are compared with the input agree with it exactly when
the code points at the cursor spell them. -/
theorem consume_spec (ignoresCase : Bool) (chars : List Char)
    (state : ParseState α σ) (stands : state.cursor.Stands session.input) :
    (state.consume session ignoresCase chars).2.cursor.Stands session.input ∧
      ((state.consume session ignoresCase chars).1 = true →
        Decoded.Spelled session.input ignoresCase chars state.cursor.offset
          (state.consume session ignoresCase chars).2.cursor.offset) ∧
      ((state.consume session ignoresCase chars).1 = false →
        ∀ finish, ¬ Decoded.Spelled session.input ignoresCase chars
          state.cursor.offset finish) := by
  induction chars generalizing state with
  | nil =>
      exact ⟨stands, fun _ => .nil _, fun differs => nomatch differs⟩
  | cons char chars ih =>
      rw [consume]
      by_cases agrees : state.cursor.current.map (CharClass.fold ignoresCase) =
          some char
      · rw [if_pos agrees]
        obtain ⟨found, current, folds⟩ := Option.map_eq_some_iff.mp agrees
        have read : (Decoded.ofBytesAt session.input
            state.cursor.offset).codePoint = some found :=
          stands.current_eq ▸ current
        have present : state.cursor.current.isSome := by simp [current]
        have arrives : (state.read session).cursor.offset =
            state.cursor.offset + (Decoded.ofBytesAt session.input
              state.cursor.offset).width := by
          rw [cursor_read, Cursor.offset_advance, stands.nextOffset_eq]
        obtain ⟨later, spelled, differs⟩ :=
          ih (state.read session) (by simpa using stands.advance present)
        refine ⟨later, ?_, ?_⟩
        · intro all
          exact .cons read folds (arrives ▸ spelled all)
        · intro notAll finish whole
          cases whole with
          | cons _ _ rest => exact differs notAll finish (arrives ▸ rest)
      · rw [if_neg agrees]
        refine ⟨stands, by simp, ?_⟩
        intro _ finish whole
        cases whole with
        | cons read folds _ =>
            apply agrees
            rw [stands.current_eq, read, Option.map_some, folds]

/-- What a matcher does that starts on a boundary: it matches the text up to an
offset that qualifies, or fails when no offset does. -/
def MatchesTo (qualifies : Nat → Prop) (before : ParseState α σ)
    (result : Verdict α × ParseState α σ) : Prop :=
  Steady session before result.2 ∧ result.2.cursor.Stands session.input ∧
    ((result.1 = .matched (.text (session.input.extract before.cursor.offset
        result.2.cursor.offset)) ∧ qualifies result.2.cursor.offset) ∨
      (result.1 = .unmatched ∧ result.2.cursor = before.cursor ∧
        ∀ finish, ¬ qualifies finish))

theorem matchLiteral_spec (text : String) (ignoresCase : Bool)
    (state : ParseState α σ) (stands : state.cursor.Stands session.input) :
    MatchesTo session
      (Decoded.Spelled session.input ignoresCase text.toList
        state.cursor.offset)
      state (state.matchLiteral session text ignoresCase) := by
  refine ⟨steady_matchLiteral session text ignoresCase state, ?_⟩
  obtain ⟨later, spelled, differs⟩ :=
    consume_spec session ignoresCase text.toList state stands
  unfold matchLiteral
  rcases consumed : state.consume session ignoresCase text.toList
    with ⟨agreed, after⟩
  rw [consumed] at later spelled differs
  cases agreed with
  | true => exact ⟨later, .inl ⟨rfl, spelled rfl⟩⟩
  | false =>
      refine ⟨?_, .inr ⟨rfl, ?_, differs rfl⟩⟩
      · simpa using stands
      · simp

/-- A code point at an offset that a test accepts, up to the next offset. -/
def Accepted (accepts : Char → Bool) (start finish : Nat) : Prop :=
  ∃ char, (Decoded.ofBytesAt session.input start).codePoint = some char ∧
    accepts char = true ∧
    finish = start + (Decoded.ofBytesAt session.input start).width

theorem matchChar_spec (accepts : Char → Bool) (descriptor : String)
    (state : ParseState α σ) (stands : state.cursor.Stands session.input) :
    MatchesTo session (Accepted session accepts state.cursor.offset)
      state (state.matchChar session accepts descriptor) := by
  refine ⟨steady_matchChar session accepts descriptor state, ?_⟩
  unfold matchChar
  cases current : state.cursor.current with
  | none =>
      refine ⟨stands, .inr ⟨rfl, rfl, ?_⟩⟩
      rintro finish ⟨char, read, -, -⟩
      rw [stands.current_eq, read] at current
      cases current
  | some char =>
      have read := stands.current_eq ▸ current
      have present : state.cursor.current.isSome := by simp [current]
      have arrives : (state.read session).cursor.offset =
          state.cursor.offset + (Decoded.ofBytesAt session.input
            state.cursor.offset).width := by
        rw [cursor_read, Cursor.offset_advance, stands.nextOffset_eq]
      dsimp only
      by_cases accepted : accepts char = true
      · rw [if_pos accepted]
        refine ⟨?_, .inl ⟨rfl, char, read, accepted, arrives⟩⟩
        change (state.read session).cursor.Stands session.input
        rw [cursor_read]
        exact stands.advance present
      · rw [if_neg accepted]
        refine ⟨stands, .inr ⟨rfl, rfl, ?_⟩⟩
        rintro finish ⟨other, readOther, acceptsOther, -⟩
        rw [read] at readOther
        cases readOther
        exact accepted acceptsOther

end ParseState

end PegEngine
