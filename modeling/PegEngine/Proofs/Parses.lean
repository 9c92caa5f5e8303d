import PegEngine.Evaluation.Depth
import PegEngine.Proofs.Combinators

/-!
# Whole parses

A parse gives a report if some depth suffices for one (`Session.Gives`), and
then there is no other (`Session.Gives.unique`).  The parse of a valid grammar
reads the first code point and evaluates the entry rule, and the report depends
on nothing but what that comes to (`Session.parseWithin_eq`).
-/

namespace PegEngine

open ParseState

namespace Grammar

variable {α σ : Type} {grammar : Grammar α σ}

theorem entry_of_start? {entry : Rule α σ}
    (starts : grammar.start? = some entry) :
    grammar.rules[0]? = some entry := by
  rw [← List.head?_eq_getElem?]
  exact starts

theorem start?_of_valid (valid : grammar.error? = none) :
    ∃ entry, grammar.start? = some entry := by
  unfold error? at valid
  split at valid
  case isTrue => cases valid
  case isFalse nonempty =>
    cases rules : grammar.rules with
    | nil => simp [rules] at nonempty
    | cons entry others => exact ⟨entry, by simp [start?, rules]⟩

end Grammar

/-- What a parse that completes has parsed. -/
def ParseReport.parsed? {α : Type} (report : ParseReport α) :
    Option (Parsed α) :=
  match report.outcome with
  | .parsed parsed => some parsed
  | .escaped _ => none

namespace Session

variable {α σ : Type} {session : Session α σ}

/-- The parse ends with a report. -/
def Gives (session : Session α σ) (report : ParseReport α) : Prop :=
  ∃ depth, session.parseWithin depth = some report

theorem gives_of_parsed? {depth : Nat} {parsed : Parsed α}
    (ends : (session.parseWithin depth).bind ParseReport.parsed? =
      some parsed) :
    ∃ log, session.Gives ⟨.parsed parsed, log⟩ := by
  obtain ⟨⟨outcome, log⟩, reported, isParsed⟩ :=
    Option.bind_eq_some_iff.mp ends
  cases outcome with
  | escaped fault => cases isParsed
  | parsed found =>
      cases isParsed
      exact ⟨log, depth, reported⟩

/-- A parse has one report at most. -/
theorem Gives.unique {report other : ParseReport α}
    (gives : session.Gives report) (again : session.Gives other) :
    report = other := by
  obtain ⟨depth, reported⟩ := gives
  obtain ⟨greater, reportedAgain⟩ := again
  have first := session.parseWithin_eq_of_le (Nat.le_max_left depth greater)
    reported
  have second := session.parseWithin_eq_of_le (Nat.le_max_right depth greater)
    reportedAgain
  exact Option.some.inj (first.symm.trans second)

/-- A parse that contains faults does not let them escape. -/
theorem Gives.exists_parsed {report : ParseReport α}
    (gives : session.Gives report)
    (recovers : session.options.recover = true) :
    ∃ parsed log, report = ⟨.parsed parsed, log⟩ := by
  obtain ⟨depth, reported⟩ := gives
  unfold parseWithin at reported
  split at reported
  case h_1 =>
    cases reported
    exact ⟨_, _, rfl⟩
  case h_2 entry =>
    split at reported
    case h_1 =>
      cases reported
      exact ⟨_, _, rfl⟩
    case h_2 =>
      simp only [runEntry, recovers, if_true] at reported
      split at reported
      case h_1 | h_2 =>
        cases reported
        exact ⟨_, _, rfl⟩
      case h_3 => cases reported

/-- The state in which the entry rule is evaluated: the first code point has
been read. -/
def opening (session : Session α σ) : ParseState α σ :=
  (ParseState.initial session).read session

def entering (session : Session α σ) (depth : Nat) (entry : Rule α σ) :
    EStateM.Result Interrupt (ParseState α σ) (Verdict α) :=
  Eval.evalRule session (Eval.evalExpr session depth) entry 0 session.opening

/-- The report on what the evaluation of the entry rule has come to. -/
def reportOn (session : Session α σ) :
    EStateM.Result Interrupt (ParseState α σ) (Verdict α) →
      Option (ParseReport α)
  | .ok (.matched value) after => some (close (some value) after)
  | .ok .unmatched after => some (close none (after.reportNoMatch session))
  | .ok (.aborted error) after =>
    some (close none (after.reportAbort session error))
  | .error (.fault fault) after =>
    if session.options.recover then
      some (close none (after.reportFault session fault))
    else some ⟨.escaped fault, after.log⟩
  | .error .exhausted _ => none

theorem parseWithin_eq {entry : Rule α σ}
    (starts : session.grammar.start? = some entry)
    (valid : session.grammar.error? = none) (depth : Nat) :
    session.parseWithin depth =
      session.reportOn (session.entering depth entry) := by
  have run : (session.evalEntry depth entry).run
      (ParseState.initial session) =
        match session.entering depth entry with
        | .ok (.matched value) after => .ok (some value) after
        | .ok .unmatched after => .ok none (after.reportNoMatch session)
        | .ok (.aborted error) after =>
          .ok none (after.reportAbort session error)
        | .error interrupt after => .error interrupt after := by
    change EStateM.bind (Eval.evalRule session (Eval.evalExpr session depth)
      entry 0) _ session.opening = _
    have entering : Eval.evalRule session (Eval.evalExpr session depth) entry 0
        session.opening = session.entering depth entry := rfl
    rw [EStateM.bind, entering]
    rcases session.entering depth entry with
      ⟨verdict, after⟩ | ⟨interrupt, after⟩
    · cases verdict <;> rfl
    · rfl
  simp only [parseWithin, starts, valid, runEntry, run]
  rcases session.entering depth entry with ⟨verdict, after⟩ | ⟨interrupt, after⟩
  · cases verdict <;> rfl
  · cases interrupt <;> rfl

theorem gives_iff {entry : Rule α σ}
    (starts : session.grammar.start? = some entry)
    (valid : session.grammar.error? = none) {report : ParseReport α} :
    session.Gives report ↔
      ∃ depth, session.reportOn (session.entering depth entry) =
        some report := by
  simp only [Gives, parseWithin_eq starts valid]

theorem gives_of_matched {entry : Rule α σ} {depth : Nat} {value : Value α}
    {after : ParseState α σ} (starts : session.grammar.start? = some entry)
    (valid : session.grammar.error? = none)
    (run : session.entering depth entry = .ok (.matched value) after) :
    session.Gives (close (some value) after) :=
  (gives_iff starts valid).mpr ⟨depth, by rw [run]; rfl⟩

/-- The evaluation of the entry rule comes to one result at most. -/
theorem entering_unique {entry : Rule α σ} {depth other : Nat}
    (halts : ∀ after, session.entering depth entry ≠ .error .exhausted after)
    (haltsToo : ∀ after,
      session.entering other entry ≠ .error .exhausted after) :
    session.entering depth entry = session.entering other entry := by
  have same : ∀ {depth greater : Nat}, depth ≤ greater →
      (∀ after, session.entering depth entry ≠ .error .exhausted after) →
        session.entering depth entry = session.entering greater entry := by
    intro depth greater atMost halts
    rcases Eval.evalRule_refines session
        (Eval.evalExpr_refines_of_le session atMost) entry 0 session.opening
      with ⟨after, exhausted⟩ | same
    · exact absurd exhausted (halts after)
    · exact same
  rcases Nat.le_total depth other with atMost | atMost
  · exact same atMost halts
  · exact (same atMost haltsToo).symm

/-- The evaluation of the entry rule is given up. -/
def Aborts (session : Session α σ) : Prop :=
  ∃ entry depth error after, session.grammar.start? = some entry ∧
    session.grammar.error? = none ∧
    session.entering depth entry = .ok (.aborted error) after

theorem aborts_iff {entry : Rule α σ} {depth : Nat}
    (starts : session.grammar.start? = some entry)
    (valid : session.grammar.error? = none)
    (halts : ∀ after, session.entering depth entry ≠ .error .exhausted after) :
    session.Aborts ↔
      ∃ error after, session.entering depth entry =
        .ok (.aborted error) after := by
  constructor
  · rintro ⟨other, greater, error, after, isEntry, _, run⟩
    obtain rfl := Option.some.inj (starts.symm.trans isEntry)
    refine ⟨error, after, (entering_unique halts ?_).trans run⟩
    rw [run]
    exact nofun
  · rintro ⟨error, after, run⟩
    exact ⟨entry, depth, error, after, starts, valid, run⟩

/-- A grammar that is not valid is rejected at once. -/
theorem gives_of_invalid {error : ParseError}
    (invalid : session.grammar.error? = some error) :
    ∃ log : LogEntry, session.Gives (session.reject log error) := by
  cases starts : session.grammar.start? with
  | some entry =>
      exact ⟨_, 0, by simp only [parseWithin, starts, invalid]; rfl⟩
  | none =>
      have ruleless : session.grammar.rules = [] :=
        List.head?_eq_none_iff.mp starts
      have same : ParseError.noRule = error := by
        simpa [Grammar.error?, ruleless] using invalid
      exact ⟨_, 0, by simp only [parseWithin, starts, ← same]; rfl⟩

/-- The first code point has been read, and nothing else has happened. -/
theorem opening_ready (session : Session α σ) :
    session.opening.Ready session := by
  have steady := steady_read session (ParseState.initial session)
  refine ⟨⟨?_, ?_, ?_, ?_⟩, ?_⟩
  · rw [opening, cursor_read]
    exact Cursor.stands_advance_start session.input
  · intro frame isSpare
    rw [opening, steady.scopes] at isSpare
    cases isSpare
  · intro key entry kept
    rw [opening, steady.memo] at kept
    exact nomatch (MemoTable.lookup_empty key).symm.trans kept
  · intro diagnostic reported
    rw [opening, read_eq] at reported
    dsimp only at reported
    split at reported
    · rcases mem_push reported with earlier | rfl
      · cases earlier
      · exact .inr ⟨String.append_empty, rfl⟩
    · cases reported
  · intro limit _
    rw [opening, steady.expressions]
    exact Nat.zero_le limit

theorem activeRules_opening (session : Session α σ) :
    session.opening.activeRules = [] :=
  (steady_read session (ParseState.initial session)).activeRules

/-- The evaluation of the entry rule keeps to the discipline. -/
theorem entering_settles {entry : Rule α σ}
    (starts : session.grammar.start? = some entry)
    (valid : session.grammar.error? = none) (depth : Nat) :
    Eval.Settles session True false
      (session.grammar.Spans session.input entry.body
        session.opening.cursor.offset)
      session.opening.cursor
      (Eval.evalRule session (Eval.evalExpr session depth) entry 0)
      session.opening := by
  have isRule := Grammar.entry_of_start? starts
  exact Eval.evalRule_settles isRule session.opening_ready
    fun inner _ ready runs _ => Eval.evalExpr_settles valid depth
      (Grammar.exprAt?_body isRule) ready runs

theorem offset_opening (session : Session α σ) :
    session.opening.cursor.offset = 0 := by
  rw [opening, cursor_read, Cursor.offset_advance]
  rfl

/-- A parse with a value has matched its entry rule with that value. -/
theorem exists_matched_of_gives {parsed : Parsed α} {log : Array LogEntry}
    {value : Value α} (gives : session.Gives ⟨.parsed parsed, log⟩)
    (isValue : parsed.value = some value) :
    ∃ entry depth after, session.grammar.start? = some entry ∧
      session.grammar.error? = none ∧
      session.entering depth entry = .ok (.matched value) after := by
  cases valid : session.grammar.error? with
  | some error =>
      obtain ⟨entry, rejected⟩ := gives_of_invalid valid
      cases gives.unique rejected
      cases isValue
  | none =>
      obtain ⟨entry, starts⟩ := Grammar.start?_of_valid valid
      obtain ⟨depth, reported⟩ := (gives_iff starts valid).mp gives
      rcases run : session.entering depth entry with
        ⟨verdict, after⟩ | ⟨interrupt, after⟩
      all_goals rw [run] at reported
      · cases verdict with
        | matched result =>
            cases reported
            have kept : (some result).filter (fun value => !value.isNil) =
                some value := isValue
            obtain ⟨⟨rfl⟩, -⟩ := Option.filter_eq_some_iff.mp kept
            exact ⟨entry, depth, after, starts, rfl, run⟩
        | unmatched =>
            cases reported
            cases isValue
        | aborted error =>
            cases reported
            cases isValue
      · cases interrupt with
        | exhausted => cases reported
        | fault fault =>
            simp only [reportOn] at reported
            split at reported
            · cases reported
              cases isValue
            · cases reported

end Session

end PegEngine
