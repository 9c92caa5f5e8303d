import PegEngine.Proofs.Echoes

/-!
# Parses that come to the same

If the entry rule of one grammar keeps up with that of another one, the parses
come to the same value, diagnostics or fault, and call the same code with the
same to see (`Session.parseWithin_agrees`).  Parses that look alike closely have
also counted the same expressions, and have logged the same apart from traces
(`ParseReport.Agrees`).
-/

namespace PegEngine

open ParseState

/-- What a parse has come to: its value and its diagnostics, or the fault that
has escaped. -/
def Outcome.found {α : Type} :
    Outcome α → Except Fault (Option (Value α) × Diagnostics)
  | .parsed result => .ok (result.value, result.diagnostics)
  | .escaped fault => .error fault

namespace ParseReport

variable {α σ : Type}

/-- A report without what is logged by parses that are traced only. -/
def untraced (report : ParseReport α) : ParseReport α :=
  { report with log := report.log.filter fun entry => !entry.isTrace }

/-- Two parses have come to the same, and closely if they have also counted the
same expressions and logged the same apart from traces. -/
structure Agrees (closely : Bool) (report other : ParseReport α) : Prop where
  found : other.outcome.found = report.outcome.found
  untraced : closely = true → other.untraced = report.untraced

end ParseReport

namespace Session

variable {α σ : Type} {session other : Session α σ} {closely : Bool}
  {left right : ParseState α σ}

theorem untraced_eq (left : ParseState α σ) :
    left.log.filter (fun entry => !entry.isTrace) = left.untraced.toArray := by
  rw [untraced, ← List.filter_toArray, Array.toArray_toList]

theorem close_agrees (value : Option (Value α))
    (sameDiagnostics : right.diagnostics = left.diagnostics)
    (sameCount : closely = true → right.expressions = left.expressions)
    (sameLog : closely = true → right.untraced = left.untraced) :
    (close value left).Agrees closely (close value right) where
  found := by simp only [close, Outcome.found, sameDiagnostics]
  untraced isClose := by
    simp only [close, ParseReport.untraced, untraced_eq, sameDiagnostics,
      sameCount isClose, sameLog isClose]

theorem close_agrees_of_similar (value : Option (Value α))
    (similar : Similar closely left right) :
    (close value left).Agrees closely (close value right) :=
  close_agrees value similar.diagnostics similar.counted
    fun _ => similar.untraced

variable (same : session.Akin other)
include same

theorem reportNoMatch_similar (similar : Similar closely left right) :
    Similar closely (left.reportNoMatch session)
      (right.reportNoMatch other) := by
  unfold ParseState.reportNoMatch
  rw [similar.diagnostics, similar.expectations]
  split
  · exact similar.report same _ _
  · exact similar

/-- The log tells how many expressions were counted before a parse was given
up. -/
theorem reportAbort_agrees (similar : Similar closely left right)
    (error : ParseError) :
    (close none (left.reportAbort session error)).Agrees closely
      (close none (right.reportAbort other error)) := by
  refine close_agrees none (similar.reportHere same error).diagnostics
    similar.counted fun isClose => ?_
  have noted := similar.note (.aborted session.fileName left.expressions error)
  unfold ParseState.reportAbort
  rw [same.fileName, similar.counted isClose]
  exact (noted.reportHere same error).untraced

theorem reportFault_similar (similar : Similar closely left right)
    (fault : Fault) :
    Similar closely (left.reportFault session fault)
      (right.reportFault other fault) := by
  have noted := similar.note (.recovered session.fileName fault.report)
  unfold ParseState.reportFault
  rw [same.fileName]
  exact noted.reportHere same _

theorem similar_initial :
    Similar closely (ParseState.initial session) (ParseState.initial other) :=
  ⟨rfl, rfl, rfl, rfl, rfl, same.store, rfl, fun _ => rfl, fun _ => rfl⟩

/-- Of a grammar that is rejected both parses report the same. -/
theorem reject_agrees (entry : LogEntry) (error : ParseError) :
    (session.reject entry error).Agrees closely (other.reject entry error) :=
  close_agrees_of_similar none
    (((similar_initial same).note entry).reportHere same error)

theorem akin_opening :
    ParseState.Akin closely [] [] session.opening other.opening := by
  have scopes := (steady_read session (ParseState.initial session)).scopes
  have scopesToo := (steady_read other (ParseState.initial other)).scopes
  have initial : ParseState.Akin closely [] [] (ParseState.initial session)
      (ParseState.initial other) :=
    { similar_initial same with
      top := rfl
      below := rfl
      belowToo := rfl
      spare := nofun
      spareToo := nofun }
  exact initial.of_similar (initial.toSimilar.read same) scopes scopesToo

/-- What is reported on evaluations that come to the same in states that look
alike. -/
theorem reportOn_agrees {program programToo : Eval α σ (Verdict α)}
    (paired : Eval.Paired program programToo (fun _ => Similar closely)
      (Similar closely) left right)
    {report : ParseReport α}
    (reported : session.reportOn (program left) = some report) :
    ∃ reportToo, other.reportOn (programToo right) = some reportToo ∧
      report.Agrees closely reportToo := by
  cases run : program left with
  | ok verdict after =>
      obtain ⟨afterToo, runToo, similar⟩ := paired.result verdict after run
      rw [run] at reported
      rw [runToo]
      cases verdict with
      | matched value =>
          cases reported
          exact ⟨_, rfl, close_agrees_of_similar _ similar⟩
      | unmatched =>
          cases reported
          exact ⟨_, rfl,
            close_agrees_of_similar _ (reportNoMatch_similar same similar)⟩
      | aborted error =>
          cases reported
          exact ⟨_, rfl, reportAbort_agrees same similar error⟩
  | error interrupt after =>
      rw [run] at reported
      cases interrupt with
      | exhausted => cases reported
      | fault fault =>
          obtain ⟨afterToo, runToo, similar⟩ := paired.fault fault after run
          rw [runToo]
          simp only [reportOn, same.recover] at reported ⊢
          split at reported
          case isTrue recovers =>
            cases reported
            rw [if_pos recovers]
            exact ⟨_, rfl, close_agrees_of_similar _
              (reportFault_similar same similar fault)⟩
          case isFalse escapes =>
            cases reported
            rw [if_neg escapes]
            exact ⟨_, rfl, rfl, fun _ => by
              simp only [ParseReport.untraced, untraced_eq, similar.untraced]⟩

/-- Parses of valid grammars whose entry rules keep up with each other. -/
theorem parseWithin_agrees_of_valid {depth depthToo : Nat}
    {entry entryToo : Rule α σ} (starts : session.grammar.start? = some entry)
    (startsToo : other.grammar.start? = some entryToo)
    (valid : session.grammar.error? = none)
    (validToo : other.grammar.error? = none)
    (keepsUp : Transcript.KeepsUp closely
      (Transcript.rule (Transcript.expr session depth) entry 0)
      (Transcript.rule (Transcript.expr other depthToo) entryToo 0))
    {report : ParseReport α}
    (reported : session.parseWithin depth = some report) :
    ∃ reportToo, other.parseWithin depthToo = some reportToo ∧
      report.Agrees closely reportToo ∧
      (other.calls depthToo).map CodeCall.exchange =
        (session.calls depth).map CodeCall.exchange := by
  rw [parseWithin_eq starts valid] at reported
  have echoes := keepsUp _ _ _ _ (akin_opening same)
  obtain ⟨reportToo, reportedToo, agrees⟩ := reportOn_agrees same
    (echoes.paired.imp fun _ _ _ akin => akin.toSimilar) reported
  have halts : ∀ after, session.entering depth entry ≠
      .error .exhausted after := by
    intro after exhausted
    rw [exhausted] at reported
    cases reported
  have sameCalls := echoes.calls halts
  refine ⟨reportToo, ?_, agrees, ?_⟩
  · rw [parseWithin_eq startsToo validToo]
    exact reportedToo
  · simp only [calls, starts, startsToo, valid, validToo]
    exact sameCalls

/-- A parse whose entry rule keeps up with that of another one has a report if
the other one has, and comes to the same with the same calls of code. -/
theorem parseWithin_agrees {depth depthToo : Nat}
    (sameError : other.grammar.error? = session.grammar.error?)
    (entries : Option.Rel
      (fun entry entryToo => Transcript.KeepsUp closely
        (Transcript.rule (Transcript.expr session depth) entry 0)
        (Transcript.rule (Transcript.expr other depthToo) entryToo 0))
      session.grammar.start? other.grammar.start?)
    {report : ParseReport α}
    (reported : session.parseWithin depth = some report) :
    ∃ reportToo, other.parseWithin depthToo = some reportToo ∧
      report.Agrees closely reportToo ∧
      (other.calls depthToo).map CodeCall.exchange =
        (session.calls depth).map CodeCall.exchange := by
  cases starts : session.grammar.start? with
  | none =>
      cases startsToo : other.grammar.start? with
      | some entryToo =>
          rw [starts, startsToo] at entries
          cases entries
      | none =>
          simp only [parseWithin, calls, starts, startsToo] at reported ⊢
          cases reported
          rw [same.fileName]
          exact ⟨_, rfl, reject_agrees same _ _, trivial⟩
  | some entry =>
      cases startsToo : other.grammar.start? with
      | none =>
          rw [starts, startsToo] at entries
          cases entries
      | some entryToo =>
          rw [starts, startsToo] at entries
          obtain ⟨keepsUp⟩ := entries
          cases verdict : session.grammar.error? with
          | some error =>
              rw [verdict] at sameError
              simp only [parseWithin, calls, starts, startsToo, verdict,
                sameError] at reported ⊢
              cases reported
              rw [same.fileName]
              exact ⟨_, rfl, reject_agrees same _ _, trivial⟩
          | none =>
              exact parseWithin_agrees_of_valid same starts startsToo verdict
                (sameError.trans verdict) keepsUp reported

end Session

/-- Two sessions that differ in nothing but the traces. -/
structure Session.Twins {α σ : Type} (session other : Session α σ) : Prop
    extends session.Akin other where
  grammar : other.grammar = session.grammar
  memoize : other.options.memoize = session.options.memoize
  maxExpressions :
    other.options.maxExpressions = session.options.maxExpressions

theorem Session.Twins.refl {α σ : Type} (session : Session α σ) :
    session.Twins session :=
  ⟨⟨rfl, rfl, rfl, rfl⟩, rfl, rfl, rfl⟩

namespace Transcript

variable {α σ : Type} {session other : Session α σ}

section Members

variable {evaluate evaluateToo : ExprPlace → Expr α σ → Eval α σ (Verdict α)}
  {members : ∀ place expr, Transcript session (evaluate place expr)}
  {membersToo : ∀ place expr, Transcript other (evaluateToo place expr)}
  (twins : session.Twins other)
  (keepUp : ∀ place expr,
    KeepsUp true (members place expr) (membersToo place expr))
include keepUp

theorem membersKeepUp_of_all (place : ExprPlace) (index : Nat)
    (exprs : List (Expr α σ)) :
    MembersKeepUp members membersToo true place place index exprs exprs := by
  induction exprs generalizing index with
  | nil => trivial
  | cons expr exprs ih => exact ⟨keepUp _ _, ih (index + 1)⟩

include twins

theorem keepsUp_rule_of_twins (entry : Rule α σ) (index : Nat) :
    KeepsUp true (rule members entry index) (rule membersToo entry index) :=
  ((keepUp _ _).runRule rfl).memoized twins.memoize (.rule index)

theorem keepsUp_reference_of_twins (name : String) :
    KeepsUp true (reference members name) (reference membersToo name) := by
  apply keepsUp_reference
  rw [twins.grammar]
  cases session.grammar.target? name with
  | none => exact .none
  | some target =>
      exact .some (keepsUp_rule_of_twins twins keepUp target.1 target.2)

end Members

/-- Without traces and to a greater depth, an expression comes to the same. -/
theorem keepsUp_of_twins (twins : session.Twins other) {depth depthToo : Nat}
    (atMost : depth ≤ depthToo) (place : ExprPlace) (expr : Expr α σ) :
    KeepsUp true (Transcript.expr session depth place expr)
      (Transcript.expr other depthToo place expr) := by
  induction depth generalizing depthToo place expr with
  | zero => exact keepsUp_of_exhausted fun state => ⟨state, rfl⟩
  | succ depth ih =>
      obtain ⟨remaining, rfl⟩ : ∃ remaining, depthToo = remaining + 1 :=
        ⟨depthToo - 1, by omega⟩
      have keepUp := ih (Nat.le_of_succ_le_succ atMost)
      have evaluated := keepsUp_node twins.toAkin (.refl expr)
        (membersKeepUp_of_all keepUp place 0 expr.members)
        (keepsUp_reference_of_twins twins keepUp)
      have sameLimit : ∀ left right : ParseState α σ, Similar true left right →
          right.overLimit other = left.overLimit session := by
        intro left right similar
        simp only [overLimit, similar.counted rfl, twins.maxExpressions]
      exact (evaluated.counted sameLimit expr expr).memoized
        (by rw [twins.memoize]) (.expression place)

end Transcript

namespace Session

variable {α σ : Type} {session other : Session α σ}

/-- Twins have the same report but for the traces, and the same calls of code,
and so has a parse within a greater depth. -/
theorem Twins.parseWithin_agrees (twins : session.Twins other)
    {depth depthToo : Nat} (atMost : depth ≤ depthToo) {report : ParseReport α}
    (reported : session.parseWithin depth = some report) :
    ∃ reportToo, other.parseWithin depthToo = some reportToo ∧
      report.Agrees true reportToo ∧
      (other.calls depthToo).map CodeCall.exchange =
        (session.calls depth).map CodeCall.exchange := by
  have keepUp := Transcript.keepsUp_of_twins twins atMost
  apply Session.parseWithin_agrees twins.toAkin _ _ reported
  · rw [twins.grammar]
  · rw [twins.grammar]
    cases session.grammar.start? with
    | none => exact .none
    | some entry =>
        exact .some (Transcript.keepsUp_rule_of_twins twins keepUp entry 0)

/-- Within some depth the parse has come to something, after the given calls of
code. -/
def Observed (session : Session α σ)
    (found : Except Fault (Option (Value α) × Diagnostics))
    (calls : List (NodeCode α σ × MatchContext α σ)) : Prop :=
  ∃ depth report, session.parseWithin depth = some report ∧
    report.outcome.found = found ∧
    (session.calls depth).map CodeCall.exchange = calls

/-- A parse comes to one thing at most, after the same calls. -/
theorem Observed.unique
    {found foundToo : Except Fault (Option (Value α) × Diagnostics)}
    {calls callsToo : List (NodeCode α σ × MatchContext α σ)}
    (observed : session.Observed found calls)
    (again : session.Observed foundToo callsToo) :
    found = foundToo ∧ calls = callsToo := by
  obtain ⟨depth, report, reported, rfl, rfl⟩ := observed
  obtain ⟨depthToo, reportToo, reportedToo, rfl, rfl⟩ := again
  obtain ⟨last, reportedLast, agrees, sameCalls⟩ :=
    (Twins.refl session).parseWithin_agrees (Nat.le_max_left depth depthToo)
      reported
  obtain ⟨lastToo, reportedLastToo, agreesToo, sameCallsToo⟩ :=
    (Twins.refl session).parseWithin_agrees (Nat.le_max_right depth depthToo)
      reportedToo
  obtain rfl := Option.some.inj (reportedLast.symm.trans reportedLastToo)
  exact ⟨agrees.found.symm.trans agreesToo.found,
    sameCalls.symm.trans sameCallsToo⟩

end Session

end PegEngine
