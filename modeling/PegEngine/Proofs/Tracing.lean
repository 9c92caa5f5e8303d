import PegEngine.Proofs.Agreement
import PegEngine.Proofs.Footing

/-!
# Parses that are traced

Tracing does not interfere with a parse (`Session.tracing_reproduces`): a parse
that is traced comes to the same value, diagnostics and counts as one that is
not, or to the same fault, and logs the same apart from the traces.  The slices
of the input that it takes to log what has matched are within the input, as all
slices are.

The two parses are twins (`Session.Twins`), and since either of them keeps up
with the other one, they also run out of depth together.  A parse that is not
traced leaves the log alone until it ends (`ParseState.Evolved.log_eq`).
-/

namespace PegEngine

open ParseState

variable {α σ : Type}

/-- The session with traces switched on or off. -/
def Session.tracing (session : Session α σ) (enabled : Bool) : Session α σ :=
  { session with options := { session.options with debug := enabled } }

theorem Session.twins_tracing (session : Session α σ)
    (enabled enabledToo : Bool) :
    (session.tracing enabled).Twins (session.tracing enabledToo) :=
  ⟨⟨rfl, rfl, rfl, rfl⟩, rfl, rfl, rfl⟩

namespace ParseState

variable {session : Session α σ} {before after : ParseState α σ}

/-- A change logs nothing unless the parse is traced. -/
theorem Change.log_eq (untraced : session.options.debug = false)
    (change : Change session before after) : after.log = before.log := by
  cases change with
  | read => rw [read_eq]
  | restore cursor =>
      simp only [ParseState.restore, trace, untraced]
      split <;> rfl
  | enterNode subject => simp [ParseState.enterNode, untraced]
  | leaveNode subject => simp [ParseState.leaveNode, untraced]
  | traceMatch start => simp [ParseState.traceMatch, untraced]
  | bind label value =>
      unfold ParseState.bind
      split <;> rfl
  | attempt | toggle | pushScope | popScope | enterRule | leaveRule
  | countExpression | remember | keepStore | complain => rfl

theorem Evolved.log_eq (untraced : session.options.debug = false)
    (evolved : Evolved session before after) : after.log = before.log := by
  induction evolved with
  | refl => rfl
  | tail _ change ih => exact (change.log_eq untraced).trans ih

end ParseState

namespace ParseReport

/-- Nothing in the log of a report is a trace. -/
def Silent (report : ParseReport α) : Prop :=
  ∀ entry ∈ report.log, entry.level ≠ .trace

theorem silent_of_empty {outcome : Outcome α} {log : Array LogEntry}
    (empty : log = #[]) : Silent ⟨outcome, log⟩ := by
  intro entry logged
  simp [empty] at logged

/-- What a parse logs when it comes to an early end is no trace. -/
theorem silent_push {outcome : Outcome α} {log : Array LogEntry}
    {last : LogEntry} (empty : log = #[]) (notTrace : last.level ≠ .trace) :
    Silent ⟨outcome, log.push last⟩ := by
  intro entry logged
  have isLast : entry = last := by simpa [empty] using logged
  rw [isLast]
  exact notTrace

theorem Silent.untraced_eq {report : ParseReport α} (silent : report.Silent) :
    report.untraced = report := by
  have kept : report.log.filter (fun entry => !entry.isTrace) = report.log := by
    rw [Array.filter_eq_self]
    intro entry logged
    simpa [LogEntry.isTrace] using silent entry logged
  rw [untraced, kept]

end ParseReport

namespace Session

variable {session : Session α σ}

/-- The report on an evaluation that has logged nothing. -/
theorem silent_reportOn {program : Eval α σ (Verdict α)}
    {state : ParseState α σ}
    (ends : Eval.Ends program (fun _ after => after.log = #[])
      (fun after => after.log = #[]) True state)
    {report : ParseReport α}
    (reported : session.reportOn (program state) = some report) :
    report.Silent := by
  rcases run : program state with ⟨verdict, after⟩ | ⟨interrupt, after⟩
  all_goals rw [run] at reported
  · have empty : after.log = #[] := ends.result run
    cases verdict with
    | matched value =>
        cases reported
        exact ParseReport.silent_of_empty empty
    | unmatched =>
        cases reported
        apply ParseReport.silent_of_empty
        unfold reportNoMatch
        split <;> exact empty
    | aborted error =>
        cases reported
        exact ParseReport.silent_push empty (by simp [LogEntry.level])
  · cases interrupt with
    | exhausted => cases reported
    | fault fault =>
        have empty : after.log = #[] := ends.fault run
        simp only [reportOn] at reported
        split at reported
        · cases reported
          exact ParseReport.silent_push empty (by simp [LogEntry.level])
        · cases reported
          exact ParseReport.silent_of_empty empty

/-- A parse that is not traced logs nothing but why it came to an early end. -/
theorem silent_of_untraced (untraced : session.options.debug = false)
    {depth : Nat} {report : ParseReport α}
    (reported : session.parseWithin depth = some report) : report.Silent := by
  cases starts : session.grammar.start? with
  | none =>
      simp only [parseWithin, starts] at reported
      cases reported
      exact ParseReport.silent_push rfl (by simp [LogEntry.level])
  | some entry =>
      cases verdict : session.grammar.error? with
      | some error =>
          simp only [parseWithin, starts, verdict] at reported
          cases reported
          exact ParseReport.silent_push rfl (by simp [LogEntry.level])
      | none =>
          rw [parseWithin_eq starts verdict] at reported
          have evolves := Eval.evalRule_evolves
            (Eval.evalExpr_evolves session depth) entry 0 session.opening
          have nothing : session.opening.log = #[] :=
            Change.log_eq untraced (.read (ParseState.initial session))
          have silent : ∀ after, Evolved session session.opening after →
              after.log = #[] :=
            fun _ evolved => (evolved.log_eq untraced).trans nothing
          exact silent_reportOn
            (evolves.mono (fun _ => silent) silent fun _ => trivial) reported

/-- A parse reports the same whether or not it is traced. -/
theorem parseWithin_tracing (session : Session α σ) (enabled enabledToo : Bool)
    {depth : Nat} {report : ParseReport α}
    (reported : (session.tracing enabled).parseWithin depth = some report) :
    ∃ reportToo, (session.tracing enabledToo).parseWithin depth =
        some reportToo ∧ reportToo.untraced = report.untraced := by
  obtain ⟨reportToo, reportedToo, agrees, -⟩ :=
    (session.twins_tracing enabled enabledToo).parseWithin_agrees
      (Nat.le_refl depth) reported
  exact ⟨reportToo, reportedToo, agrees.untraced rfl⟩

/-- Tracing does not interfere: within any depth, the report of a parse that is
not traced is that of the traced one without the traces, and there is one for
the former if there is one for the latter.  No trace is logged by a parse that
is not traced, and every slice of the input that a traced one takes is within
the input. -/
theorem tracing_reproduces (session : Session α σ) (depth : Nat) :
    (session.tracing false).parseWithin depth =
        ((session.tracing true).parseWithin depth).map ParseReport.untraced ∧
      (∀ report ∈ (session.tracing false).parseWithin depth, report.Silent) ∧
      ∀ (entry : Rule α σ) (first last : Nat),
        .slices first last ∈ (session.tracing true).moments depth entry →
          first ≤ last ∧ last ≤ session.input.size := by
  have silent : ∀ report ∈ (session.tracing false).parseWithin depth,
      report.Silent :=
    fun _ reported => silent_of_untraced rfl reported
  refine ⟨?_, silent, fun entry first last slices => ?_⟩
  · cases traced : (session.tracing true).parseWithin depth with
    | some report =>
        obtain ⟨reportToo, reportedToo, agree⟩ :=
          session.parseWithin_tracing true false traced
        rw [reportedToo, ← (silent reportToo reportedToo).untraced_eq, agree]
        rfl
    | none =>
        cases untraced : (session.tracing false).parseWithin depth with
        | none => rfl
        | some report =>
            obtain ⟨reportToo, reportedToo, -⟩ :=
              session.parseWithin_tracing false true untraced
            cases traced.symm.trans reportedToo
  · exact ((session.tracing true).entry_holds depth entry).1 _ slices

end Session

end PegEngine
