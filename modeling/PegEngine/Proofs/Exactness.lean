import PegEngine.Proofs.Adequacy
import PegEngine.Proofs.Alignment
import PegEngine.Proofs.Integrity

/-!
# Parses in which nothing is reported

Under the exacting stance complaints count as failures, so what can be derived
under it can be derived without any complaint.  Such derivations are what parses
without reports come to: if one matches the entry rule and nothing in the input
is malformed, the parse comes to its value and reports nothing
(`Session.entering_exactly`), and if a parse reports nothing, there is one
(`Session.Gives.exactly`).
-/

namespace PegEngine

open ParseState

namespace ParseState

variable {α σ : Type} {session : Session α σ} {state : ParseState α σ}

/-- Where nothing is malformed, no byte is reported to be. -/
theorem Sighted.unreported {passed : List Cursor}
    (sighted : state.Sighted session passed)
    (wellFormed : ∀ offset, ¬ Decoded.Malformed session.input offset)
    (kinds : ∀ diagnostic ∈ state.diagnostics.toList,
      diagnostic.kind = .encoding) : state.diagnostics = .empty := by
  refine congrArg Diagnostics.mk (List.eq_nil_iff_forall_not_mem.mpr ?_)
  intro diagnostic reported
  have isEncoding : diagnostic.error = .invalidEncoding := by
    have kind : diagnostic.error.kind = .encoding := kinds diagnostic reported
    cases error : diagnostic.error <;> simp_all [ParseError.kind]
  have isOffset :
      diagnostic.position.offset ∈ state.diagnostics.malformedOffsets :=
    List.mem_map_of_mem (List.mem_filter.mpr ⟨reported, by simp [isEncoding]⟩)
  exact wellFormed _ ((sighted.reported _).mp isOffset).1

theorem toList_report_of_unreported (error : ParseError) (position : Position)
    (unreported : state.diagnostics = .empty) :
    (state.report session error position).diagnostics.toList =
      [⟨position, state.location session position, error⟩] := by
  rw [ParseState.report, unreported]
  rfl

end ParseState

namespace Eval

variable {α σ : Type} {session : Session α σ} {place : ExprPlace} {start : Nat}
  {labels : Frame α} {store : Store σ} {state : ParseState α σ}

/-- A state from which an expression of a rule can be evaluated, while nothing
has been kept and nothing has been reported. -/
structure Pristine (session : Session α σ) (rule start : Nat) (labels : Frame α)
    (store : Store σ) (state : ParseState α σ) : Prop
    extends Poised session rule start labels store state where
  sighted : ∃ passed, state.Sighted session passed
  unkept : state.memo = MemoTable.empty
  unreported : state.diagnostics = .empty

namespace Pristine

variable {rule : Nat}

theorem aligned (pristine : Pristine session rule start labels store state) :
    Aligned session .exacting [] state (state.taken .exacting .empty) := by
  obtain ⟨passed, sighted⟩ := pristine.sighted
  refine ⟨⟨passed, List.nil_subset _, sighted⟩, ?_, fun _ => ?_⟩
  · rw [pristine.unreported]
    rfl
  · rw [pristine.unreported]
    exact nofun

/-- So the same expression of the exacting session can be evaluated. -/
theorem taken (pristine : Pristine session rule start labels store state)
    (stance : Stance) :
    Poised (session.taking stance) rule start labels store
      (state.taken stance .empty) := by
  obtain ⟨isRule, found, innermost⟩ := pristine.runs
  refine ⟨⟨⟨pristine.stands, pristine.spare, ?_, nofun⟩, pristine.within⟩,
    ⟨isRule.taken stance, ?_, ?_⟩, pristine.offset, pristine.labels,
    pristine.store⟩
  · intro key entry kept
    have none : state.memo.lookup key = none := by
      rw [pristine.unkept, MemoTable.lookup_empty]
    cases none.symm.trans kept
  · simp [Session.taking, Grammar.taken, found]
  · simp [ParseState.taken, innermost]

/-- Visiting an expression changes nothing that matters to this. -/
theorem visiting (pristine : Pristine session rule start labels store state)
    (unlimited : session.options.maxExpressions = none) (subject : Subject) :
    Pristine session rule start labels store
      (state.countExpression.enterNode session subject) := by
  obtain ⟨passed, sighted⟩ := pristine.sighted
  refine { pristine.toPoised.visiting unlimited subject with
    sighted := ⟨passed, sighted.of_sight_eq (by simp)⟩
    unkept := ?_
    unreported := ?_ }
  · rw [enterNode_eq]
    exact pristine.unkept
  · rw [enterNode_eq]
    exact pristine.unreported

end Pristine

/-- Where nothing is malformed, what can be derived without complaints is found,
and nothing is reported. -/
theorem exists_evalExpr_exactly {expr : Expr α σ} {reading : Reading α σ}
    (valid : session.grammar.error? = none)
    (unmemoized : session.options.memoize = false)
    (unlimited : session.options.maxExpressions = none)
    (wellFormed : ∀ offset, ¬ Decoded.Malformed session.input offset)
    (found : session.grammar.exprAt? place = some expr)
    (derives : (session.grammar.taken .exacting).Derives session.input
      (expr.taken .exacting) start labels store reading) :
    ∃ depth, ∀ state, Pristine session place.rule start labels store state →
      Ends (evalExpr session depth place expr)
        (fun verdict after => verdict.reading? after = some reading ∧
          after.diagnostics = .empty)
        (fun _ => False) False state := by
  have validToo : (session.taking .exacting).grammar.error? = none :=
    (session.grammar.error?_taken .exacting).trans valid
  have foundToo : (session.taking .exacting).grammar.exprAt? place =
      some (expr.taken .exacting) :=
    (session.grammar.exprAt?_taken .exacting place).trans (by rw [found]; rfl)
  obtain ⟨depth, isFound⟩ :
      Found (session.taking .exacting) (expr.taken .exacting) start labels
        store reading :=
    evalExpr_complete validToo unmemoized unlimited derives
  refine ⟨depth, fun state pristine => ?_⟩
  have comes := isFound place _ foundToo (pristine.taken .exacting)
  obtain ⟨verdict, later, runToo, reached, isReading, rfl⟩ :=
    comes.exists_result
  have aligns := evalExpr_aligns session .exacting depth [] place expr
  cases aligns.beside [] _ _ (List.nil_subset _) pristine.aligned with
  | apart parted stopped => exact absurd runToo (stopped verdict later)
  | together value after afterToo isRun isRunToo aligned =>
      cases runToo.symm.trans isRunToo
      unfold Ends
      rw [isRun]
      constructor
      · rw [← isReading, aligned.same]
        rfl
      · obtain ⟨passed, -, sighted⟩ := aligned.sighted
        refine sighted.unreported wellFormed fun diagnostic reported => ?_
        have evolved := (aligns.evolves state).result isRun
        rcases evolved.extends.kinds diagnostic reported with
          earlier | kind | kind
        · rw [pristine.unreported] at earlier
          cases earlier
        · exact kind
        · exact absurd kind (aligned.blameless rfl diagnostic reported)

/-- An action that complains of a match that nothing else was reported of. -/
theorem ends_evalAction_complains {run : Action α σ}
    {body : Eval α σ (Verdict α)} {value : Value α} {finish : Nat}
    {bound : Frame α} {next last : Store σ} {message : String}
    (ends : Ends body
      (fun verdict after => verdict.reading? after =
          some (.succeeds value finish bound next) ∧
        after.diagnostics = .empty)
      (fun _ => False) False state)
    (stands : state.cursor.Stands session.input)
    (offset : state.cursor.offset = start)
    (complains : run (Grammar.contextOf session.input start finish value bound
      next) = (.complaint message, last)) :
    Ends (evalAction session run body)
      (fun verdict after => verdict = .matched .nil ∧
        after.cursor.offset = finish ∧
        ∃ diagnostic, after.diagnostics.toList = [diagnostic] ∧
          diagnostic.error = .semantic message)
      (fun _ => False) False state := by
  refine ends_bind.mpr (ends_cursor.mpr (ends_bind.mpr
    (ends.mono_result ?_)))
  rintro verdict after ⟨isReading, none⟩
  cases verdict with
  | unmatched | aborted => cases isReading
  | matched result =>
      cases isReading
      refine ends_bind.mpr
        ((ends_runCode session run state.cursor value).mpr ?_)
      rw [context_eq stands, offset, complains]
      exact ⟨rfl, congrArg Cursor.offset (cursor_traceMatch _ _ _), _,
        toList_report_of_unreported _ _
          ((quiet_traceMatch _ _).diagnostics.trans none), rfl⟩

end Eval

namespace Session

variable {α σ : Type} {session : Session α σ} {entry : Rule α σ}

/-- The state in which the body of the entry rule is evaluated. -/
def entered (session : Session α σ) (entry : Rule α σ) : ParseState α σ :=
  (session.opening.enterNode session (.rule entry.name)).enterRule entry

theorem poised_entered (starts : session.grammar.start? = some entry) :
    Eval.Poised session 0 0 Frame.empty session.options.store
      (session.entered entry) where
  toReady := (session.opening_ready.enterNode _).enterRule entry
  runs := runs_enterRule (Grammar.entry_of_start? starts)
  offset := (congrArg Cursor.offset (cursor_enterNode _)).trans
    session.offset_opening
  labels := ScopeStack.top_push (session.opening_ready.enterNode _).spare
  store := (store_enterNode _).trans
    (steady_read session (ParseState.initial session)).store

/-- Around the body of the entry rule there is nothing that would matter to
where the cursor has been. -/
theorem ends_entering {depth : Nat}
    (onResult : Verdict α → Cursor × MemoTable α × Diagnostics × Option Nat →
      Prop)
    {onFault : ParseState α σ → Prop} {onExhausted : Prop}
    (unmemoized : session.options.memoize = false)
    (body : Eval.Ends (Eval.evalExpr session depth (.body 0) entry.body)
      (fun verdict after => onResult verdict after.sight) onFault onExhausted
      (session.entered entry)) :
    Eval.Ends (Eval.evalRule session (Eval.evalExpr session depth) entry 0)
      (fun verdict after => onResult verdict after.sight) onFault onExhausted
      session.opening := by
  simp only [Eval.evalRule, unmemoized, Eval.ends_memoized, Eval.ends_runRule,
    Eval.ends_traced, Eval.ends_inRule, Bool.false_eq_true, if_false]
  refine body.mono_result fun verdict after holds => ?_
  cases verdict <;> simpa using holds

/-- A match of the entry rule can be derived. -/
theorem derives_of_entering {depth : Nat} {value : Value α}
    {after : ParseState α σ} (starts : session.grammar.start? = some entry)
    (valid : session.grammar.error? = none)
    (unmemoized : session.options.memoize = false)
    (unlimited : session.options.maxExpressions = none)
    (run : session.entering depth entry = .ok (.matched value) after) :
    ∃ labels last, session.grammar.Derives session.input entry.body 0
      Frame.empty session.options.store
      (.succeeds value after.cursor.offset labels last) := by
  have sound := Eval.evalExpr_sound valid unmemoized unlimited depth _ _ _ _ _ _
    (Grammar.exprAt?_body (Grammar.entry_of_start? starts))
    (poised_entered starts)
  have body : Eval.Ends (Eval.evalExpr session depth (.body 0) entry.body)
      (fun verdict middle => ∀ value, verdict = .matched value →
        ∃ labels last, session.grammar.Derives session.input entry.body 0
          Frame.empty session.options.store
          (.succeeds value middle.cursor.offset labels last))
      (fun _ => True) True (session.entered entry) := by
    refine sound.mono_result ?_
    rintro _ middle ⟨reading, isReading, derives⟩ value rfl
    cases isReading
    exact ⟨_, _, derives⟩
  have entering := ends_entering (fun verdict sight => ∀ value,
    verdict = .matched value → ∃ labels last,
      session.grammar.Derives session.input entry.body 0 Frame.empty
        session.options.store (.succeeds value sight.1.offset labels last))
    unmemoized body
  exact entering.result run value rfl

section Exactly

variable (starts : session.grammar.start? = some entry)
  (wellFormed : ∀ offset, ¬ Decoded.Malformed session.input offset)
include starts wellFormed

theorem pristine_entered :
    Eval.Pristine session 0 0 Frame.empty session.options.store
      (session.entered entry) := by
  have sighted : (session.entered entry).Sighted session
      [session.opening.cursor] :=
    session.sighted_opening.of_sight_eq (by simp [entered])
  have steady := steady_read session (ParseState.initial session)
  refine { poised_entered starts with
    sighted := ⟨_, sighted⟩
    unkept := ?_
    unreported := sighted.unreported wellFormed ?_ }
  · rw [entered, enterNode_eq]
    exact steady.memo
  · intro diagnostic reported
    rw [entered, enterNode_eq] at reported
    have evolved : Evolved session session.opening session.opening := .refl
    rcases kind_of_evolved evolved reported with kind | kind
    · exact kind
    · exact absurd kind ((session.aligned_opening .exacting).blameless rfl
        diagnostic reported)

variable (valid : session.grammar.error? = none)
  (unmemoized : session.options.memoize = false)
  (unlimited : session.options.maxExpressions = none)
include valid unmemoized unlimited

/-- If the entry rule can be matched without complaints and nothing is
malformed, the parse comes to that match and reports nothing. -/
theorem entering_exactly {value : Value α} {finish : Nat} {labels : Frame α}
    {last : Store σ}
    (derives : (session.grammar.taken .exacting).Derives session.input
      (entry.body.taken .exacting) 0 Frame.empty session.options.store
      (.succeeds value finish labels last)) :
    ∃ depth after, session.entering depth entry = .ok (.matched value) after ∧
      after.diagnostics = .empty ∧ after.cursor.offset = finish := by
  have found := Grammar.exprAt?_body (Grammar.entry_of_start? starts)
  obtain ⟨depth, ends⟩ := Eval.exists_evalExpr_exactly valid unmemoized
    unlimited wellFormed found derives
  have matched : Eval.Ends
      (Eval.evalExpr session depth (.body 0) entry.body)
      (fun verdict after => verdict = .matched value ∧
        after.diagnostics = .empty ∧ after.cursor.offset = finish)
      (fun _ => False) False (session.entered entry) := by
    refine (ends _ (pristine_entered starts wellFormed)).mono_result ?_
    rintro verdict after ⟨isReading, none⟩
    cases verdict with
    | matched result =>
        cases isReading
        exact ⟨rfl, none, rfl⟩
    | unmatched | aborted => cases isReading
  have entering := ends_entering
    (fun verdict sight => verdict = .matched value ∧ sight.2.2.1 = .empty ∧
      sight.1.offset = finish) unmemoized matched
  obtain ⟨_, after, run, rfl, none, atFinish⟩ := entering.exists_result
  exact ⟨depth, after, run, none, atFinish⟩

/-- If the entry rule is an action on something that can be matched without
complaints, and the action complains, its complaint is the only report. -/
theorem entering_complains {body : Expr α σ} {run : Action α σ}
    {value : Value α} {finish : Nat} {bound : Frame α} {next last : Store σ}
    {message : String} (isAction : entry.body = .action body run)
    (derives : (session.grammar.taken .exacting).Derives session.input
      (body.taken .exacting) 0 Frame.empty session.options.store
      (.succeeds value finish bound next))
    (complains : run (Grammar.contextOf session.input 0 finish value bound
      next) = (.complaint message, last)) :
    ∃ depth after diagnostic,
      session.entering depth entry = .ok (.matched .nil) after ∧
        after.cursor.offset = finish ∧
        after.diagnostics.toList = [diagnostic] ∧
        diagnostic.error = .semantic message := by
  have found := Grammar.exprAt?_body (Grammar.entry_of_start? starts)
  rw [isAction] at found
  have foundBody := Grammar.exprAt?_onlyMember found rfl
  obtain ⟨depth, ends⟩ := Eval.exists_evalExpr_exactly valid unmemoized
    unlimited wellFormed foundBody derives
  have pristine := (pristine_entered starts wellFormed).visiting unlimited
    (.expression entry.body.kindName)
  have action := Eval.ends_evalAction_complains (ends _ pristine)
    pristine.stands pristine.offset complains
  have goesOn :
      (session.entered entry).countExpression.overLimit session = false := by
    simp [overLimit, unlimited]
  have visited : Eval.Ends
      (Eval.evalExpr session (depth + 1) (.body 0) entry.body)
      (fun verdict after => verdict = .matched .nil ∧
        after.cursor.offset = finish ∧
        ∃ diagnostic, after.diagnostics.toList = [diagnostic] ∧
          diagnostic.error = .semantic message)
      (fun _ => False) False (session.entered entry) := by
    rw [isAction] at action ⊢
    simp only [Eval.evalExpr, Eval.visit, unmemoized, Bool.false_and,
      Eval.ends_memoized, Eval.ends_counted, goesOn, Eval.ends_traced,
      Bool.false_eq_true, if_false, (quiet_leaveNode _ _).diagnostics,
      cursor_leaveNode]
    exact action
  have entering := ends_entering
    (fun verdict sight => verdict = .matched .nil ∧ sight.1.offset = finish ∧
      ∃ diagnostic, sight.2.2.1.toList = [diagnostic] ∧
        diagnostic.error = .semantic message) unmemoized visited
  obtain ⟨_, after, run, rfl, atFinish, diagnostic, reported, error⟩ :=
    entering.exists_result
  exact ⟨depth + 1, after, diagnostic, run, atFinish, reported, error⟩

end Exactly

/-- If a parse reports nothing, its entry rule can be matched without
complaints, up to an offset as far as which nothing is malformed, so that all
bytes before it are valid UTF-8, and the value is that of the match. -/
theorem Gives.exactly {parsed : Parsed α} {log : Array LogEntry}
    (gives : session.Gives ⟨.parsed parsed, log⟩)
    (unmemoized : session.options.memoize = false)
    (unlimited : session.options.maxExpressions = none)
    (clean : parsed.diagnostics.isEmpty = true) :
    ∃ entry value finish labels last, session.grammar.start? = some entry ∧
      (session.grammar.taken .exacting).Derives session.input
        (entry.body.taken .exacting) 0 Frame.empty session.options.store
        (.succeeds value finish labels last) ∧
      (∀ offset ≤ finish, ¬ Decoded.Malformed session.input offset) ∧
      (session.input.extract 0 finish).IsValidUTF8 ∧
      parsed.value = (some value).filter (fun value => !value.isNil) := by
  rcases gives.cases with
    ⟨entry, depth, value, after, valid, starts, run, isValue, reports⟩ |
      ⟨-, notNil, -⟩
  · have unreported : after.diagnostics.toList = [] :=
      reports ▸ List.isEmpty_iff.mp clean
    cases session.entering_beside .exacting depth entry with
    | apart parted stopped =>
        exact absurd unreported (parted _ _ run).reported
    | together _ _ later isRun runToo aligned =>
        cases run.symm.trans isRun
        have startsToo : (session.taking .exacting).grammar.start? =
            some (entry.taken .exacting) :=
          (session.grammar.start?_taken .exacting).trans (by rw [starts]; rfl)
        have validToo : (session.taking .exacting).grammar.error? = none :=
          (session.grammar.error?_taken .exacting).trans valid
        obtain ⟨labels, last, derives⟩ :=
          derives_of_entering startsToo validToo unmemoized unlimited runToo
        have sighted := (session.entering_sights depth entry).result run
        rw [aligned.cursor] at derives
        have reached : after.cursor.offset ≤ session.highest depth entry :=
          le_highest_iff.mpr ⟨after.cursor, sighted.cursor, Nat.le_refl _⟩
        refine ⟨entry, value, _, labels, last, starts, derives, ?_,
          (valid_of_unreported run unreported reached
            (sighted.stands _ sighted.cursor).boundary).2, isValue⟩
        rintro offset atMost ⟨boundary, invalid⟩
        have wellFormed := (valid_of_unreported run unreported
          (Nat.le_trans atMost reached) boundary).1
        exact Bool.noConfusion (invalid.symm.trans wellFormed)
  · exact absurd (List.isEmpty_iff.mp clean) notNil

end Session

end PegEngine
