import PegEngine.Proofs.Completions
import PegEngine.Proofs.Decoding
import PegEngine.Proofs.Malformed

/-!
# Reports that can be relied on

A parse with a result ends in one of five ways: its grammar is rejected, the
entry rule matches or does not, the evaluation is given up, or a fault is
contained.  Whatever was reported before the end is of malformed bytes and of
complaints, no two reports read the same, and the end adds one report at most
(`Diagnostics.InOrder`).  A parse that reports nothing has met nothing to report
anywhere, also not in attempts that it gave up (`Session.gives_in_order`).
-/

namespace PegEngine

open ParseState Relation

namespace ErrorKind

/-- The kinds of errors with which a parse ends. -/
def endsParse : ErrorKind → Bool
  | .structural | .syntactic | .resourceExhausted | .fault => true
  | .encoding | .semantic => false

end ErrorKind

namespace Diagnostics

/-- No two diagnostics read the same. -/
def Distinct (diagnostics : Diagnostics) : Prop :=
  diagnostics.toList.Pairwise fun earlier later =>
    earlier.render ≠ later.render

/-- No two diagnostics read the same, and one of them at most ends the parse.
It is the last one, and the only one if the grammar was rejected or if it is the
report of the farthest failure. -/
structure InOrder (diagnostics : Diagnostics) : Prop where
  distinct : diagnostics.Distinct
  atMostOne : (diagnostics.toList.filter fun diagnostic =>
    diagnostic.kind.endsParse).length ≤ 1
  alone : ∀ diagnostic ∈ diagnostics.toList,
    diagnostic.kind = .structural ∨ diagnostic.kind = .syntactic →
      diagnostics.toList = [diagnostic]
  last : ∀ diagnostic ∈ diagnostics.toList,
    diagnostic.kind = .resourceExhausted ∨ diagnostic.kind = .fault →
      diagnostics.toList.getLast? = some diagnostic

variable {diagnostics : Diagnostics} {added : Diagnostic}

theorem Distinct.push (distinct : diagnostics.Distinct) (added : Diagnostic) :
    (diagnostics.push added).Distinct := by
  by_cases shows : diagnostics.Shows added
  · rwa [push_eq_of_shows shows]
  · rw [Distinct, push_of_not_shows shows, List.pairwise_append]
    refine ⟨distinct, List.pairwise_singleton _ _, ?_⟩
    intro earlier reported other isAdded same
    obtain rfl := List.mem_singleton.mp isAdded
    exact shows ⟨earlier, reported, same⟩

/-- Diagnostics of which none ends a parse. -/
theorem Distinct.inOrder (distinct : diagnostics.Distinct)
    (goesOn : ∀ diagnostic ∈ diagnostics.toList,
      diagnostic.kind.endsParse = false) : diagnostics.InOrder := by
  refine ⟨distinct, ?_, ?_, ?_⟩
  · rw [List.filter_eq_nil_iff.mpr fun diagnostic reported => by
      simp [goesOn diagnostic reported]]
    exact Nat.zero_le _
  · rintro diagnostic reported (kind | kind) <;>
      cases kind ▸ goesOn diagnostic reported
  · rintro diagnostic reported (kind | kind) <;>
      cases kind ▸ goesOn diagnostic reported

/-- One more diagnostic, with which the parse ends. -/
theorem Distinct.inOrder_push (distinct : diagnostics.Distinct)
    (goesOn : ∀ diagnostic ∈ diagnostics.toList,
      diagnostic.kind.endsParse = false)
    (alone : added.kind = .structural ∨ added.kind = .syntactic →
      diagnostics.toList = []) : (diagnostics.push added).InOrder := by
  by_cases shows : diagnostics.Shows added
  · rw [push_eq_of_shows shows]
    exact distinct.inOrder goesOn
  · have pushed := push_of_not_shows shows
    have isAdded : ∀ diagnostic ∈ (diagnostics.push added).toList,
        diagnostic.kind.endsParse = true → diagnostic = added := by
      intro diagnostic reported ends
      rcases mem_push reported with earlier | isAdded
      · cases (goesOn diagnostic earlier).symm.trans ends
      · exact isAdded
    refine ⟨distinct.push added, ?_, ?_, ?_⟩
    · rw [pushed, List.filter_append,
        List.filter_eq_nil_iff.mpr fun diagnostic reported => by
          simp [goesOn diagnostic reported]]
      exact List.length_filter_le _ _
    · intro diagnostic reported kind
      obtain rfl := isAdded diagnostic reported (by
        rcases kind with kind | kind <;> rw [kind] <;> rfl)
      rw [pushed, alone kind, List.nil_append]
    · intro diagnostic reported kind
      obtain rfl := isAdded diagnostic reported (by
        rcases kind with kind | kind <;> rw [kind] <;> rfl)
      rw [pushed, List.getLast?_concat]

end Diagnostics

namespace ParseState

variable {α σ : Type} {session : Session α σ} {before after : ParseState α σ}

/-- A change reports something that nothing else reads like, or nothing. -/
theorem Change.distinct (change : Change session before after)
    (distinct : before.diagnostics.Distinct) : after.diagnostics.Distinct := by
  cases change with
  | read =>
      rw [read_eq]
      dsimp only
      split
      · exact distinct.push _
      · exact distinct
  | complain message position => exact distinct.push _
  | restore cursor =>
      rwa [(quiet_restore cursor before).diagnostics]
  | traceMatch start =>
      rwa [(quiet_traceMatch start before).diagnostics]
  | enterNode subject =>
      rwa [(quiet_enterNode subject before).diagnostics]
  | leaveNode subject =>
      rwa [(quiet_leaveNode subject before).diagnostics]
  | bind label value => rwa [(quiet_bind label value before).diagnostics]
  | countExpression | attempt | toggle | pushScope | popScope | enterRule
  | leaveRule | remember | keepStore => exact distinct

theorem Evolved.distinct (evolved : Evolved session before after)
    (distinct : before.diagnostics.Distinct) : after.diagnostics.Distinct := by
  induction evolved with
  | refl => exact distinct
  | tail _ change ih => exact change.distinct ih

/-- What was reported remains so. -/
theorem Evolved.reported (evolved : Evolved session before after)
    (reported : before.diagnostics.toList ≠ []) :
    after.diagnostics.toList ≠ [] := fun none =>
  reported (List.prefix_nil.mp (none ▸ evolved.extends.diagnostics))

end ParseState

namespace Visit

variable {α σ : Type} {session : Session α σ}

/-- The code that is run for a call itself replies with an answer, and neither
complains nor fails. -/
def Answers (session : Session α σ) : Visit α σ → Prop
  | .rule _ _ _ _ => True
  | .expression place expr _ state =>
    Eval.enters session place expr state = true →
      let inside := state.countExpression.enterNode session
        (.expression expr.kindName)
      match expr with
      | .action body run =>
        ∀ depth value after,
          Eval.evalExpr session depth (place.member 0) body inside =
              .ok (.matched value) after →
            ∃ result,
              (run (after.context session inside.cursor value)).1 =
                .answer result
      | .require test | .forbid test =>
        ∃ result,
          (test (inside.context session inside.cursor .nil)).1 =
            .answer result
      | _ => True

end Visit

namespace Eval

variable {α σ β : Type} {session : Session α σ} {state : ParseState α σ}

/-- Something has been reported when a program gives a result. -/
def Alarms (program : Eval α σ β) (state : ParseState α σ) : Prop :=
  Ends program (fun _ after => after.diagnostics.toList ≠ []) (fun _ => True)
    True state

/-- A reply that is no answer is reported, unless it is a failure. -/
theorem alarms_runCode {γ : Type} {code : Code α σ β} {start : Cursor}
    {value : Value α} {next : Except String β → Eval α σ γ}
    (noAnswer : ¬ ∃ result,
      (code (state.context session start value)).1 = .answer result)
    (complained : ∀ message state, Alarms (next (.error message)) state) :
    Alarms (runCode session code start value >>= next) state := by
  refine ends_bind.mpr ((ends_runCode session code start value).mpr ?_)
  generalize code (state.context session start value) = given at noAnswer
  obtain ⟨reply, store⟩ := given
  cases reply with
  | answer result => exact absurd ⟨result, rfl⟩ noAnswer
  | complaint message => exact complained message _
  | failure fault => trivial

theorem alarms_evalAction {run : Action α σ} {body : Eval α σ (Verdict α)}
    {value : Value α} {after : ParseState α σ}
    (bodyEnds : Ends body
      (fun verdict reached => verdict = .matched value ∧ reached = after)
      (fun _ => True) True state)
    (noAnswer : ¬ ∃ result,
      (run (after.context session state.cursor value)).1 = .answer result) :
    Alarms (evalAction session run body) state := by
  refine ends_bind.mpr (ends_cursor.mpr (ends_bind.mpr
    (bodyEnds.mono_result ?_)))
  rintro _ _ ⟨rfl, rfl⟩
  refine alarms_runCode noAnswer fun message reached => ?_
  exact Diagnostics.ne_nil_push

theorem alarms_evalPredicate {test : Predicate α σ} {expected : Bool}
    (noAnswer : ¬ ∃ result,
      (test (state.context session state.cursor .nil)).1 = .answer result) :
    Alarms (evalPredicate session test expected) state := by
  refine ends_bind.mpr (ends_cursor.mpr ?_)
  refine alarms_runCode noAnswer fun message reached => ?_
  exact Diagnostics.ne_nil_push

/-- A program that is entered from a call leaves its reports to it. -/
theorem Alarms.visit {program : Eval α σ (Verdict α)} {place : ExprPlace}
    {expr : Expr α σ} (isEntered : enters session place expr state = true)
    (alarms : Alarms program
      (state.countExpression.enterNode session (.expression expr.kindName))) :
    Alarms (visit session place expr program) state := by
  simp only [enters, replays, Bool.and_eq_true, Bool.not_eq_true',
    Bool.and_eq_false_iff, Option.isSome_eq_false_iff,
    Option.isNone_iff_eq_none] at isEntered
  obtain ⟨notKept, within⟩ := isEntered
  have counted : Alarms (counted session expr program) state := by
    refine (ends_counted session expr).mpr ?_
    rw [if_neg (by simp [within])]
    refine (ends_traced session _).mpr (alarms.mono_result ?_)
    intro verdict after reported
    rwa [(quiet_leaveNode _ after).diagnostics]
  refine (ends_memoized session _ _).mpr ?_
  split
  case isFalse => exact counted
  case isTrue enabled =>
    have missing : state.memo.lookup (state.memoKey (.expression place)) =
        none := notKept.resolve_left (by simpa using enabled)
    rw [missing]
    refine counted.mono_result fun verdict after reported => ?_
    cases verdict <;> exact reported

/-- With another depth an evaluation comes to the same, if to anything. -/
theorem ends_of_run {depth : Nat} {place : ExprPlace} {expr : Expr α σ}
    {verdict : Verdict α} {after : ParseState α σ}
    (run : evalExpr session depth place expr state = .ok verdict after)
    (other : Nat) :
    Ends (evalExpr session other place expr)
      (fun verdictToo afterToo => verdictToo = verdict ∧ afterToo = after)
      (fun _ => True) True state := by
  have same : evalExpr session other place expr state =
        evalExpr session depth place expr state ∨
      ∃ last, evalExpr session other place expr state =
        .error .exhausted last := by
    rcases Nat.le_total other depth with atMost | atMost
    · exact (evalExpr_refines_of_le session atMost place expr state).symm
    · rcases evalExpr_refines_of_le session atMost place expr state with
        ⟨last, exhausted⟩ | same
      · cases run.symm.trans exhausted
      · exact .inl same.symm
  unfold Ends
  rcases same with same | ⟨last, exhausted⟩
  · rw [same, run]
    exact ⟨rfl, rfl⟩
  · rw [exhausted]
    trivial

end Eval

namespace Visit

variable {α σ : Type} {session : Session α σ} {visit : Visit α σ}

/-- If nothing has been reported by the end, the code of every call has replied
with an answer. -/
theorem Completed.answers {last : ParseState α σ}
    (completed : visit.Completed session last)
    (unreported : last.diagnostics.toList = []) : visit.Answers session := by
  cases visit with
  | rule => exact trivial
  | expression place expr nots state =>
      obtain ⟨depth, verdict, after, run, evolved⟩ := completed
      intro isEntered inside
      have quiet :
          ¬ Eval.Alarms (Eval.evalExpr session depth place expr) state :=
        fun alarms => Evolved.reported evolved (alarms.result run) unreported
      cases depth with
      | zero => cases run
      | succ depth =>
          cases expr with
          | action body code =>
              intro other value reached bodyRun
              by_contra noAnswer
              exact quiet (.visit isEntered
                (Eval.alarms_evalAction (Eval.ends_of_run bodyRun depth)
                  noAnswer))
          | require test | forbid test =>
              by_contra noAnswer
              exact quiet (.visit isEntered
                (Eval.alarms_evalPredicate noAnswer))
          | _ => trivial

end Visit

namespace Session

variable {α σ : Type} {session : Session α σ}

section Entering

variable {depth : Nat} {entry : Rule α σ} {after : ParseState α σ}
  (evolved : Evolved session session.opening after)
include evolved

theorem distinct_of_evolved : after.diagnostics.Distinct := by
  have read : Change session (ParseState.initial session) session.opening :=
    .read _
  exact Evolved.distinct (evolved.head read) List.Pairwise.nil

theorem goesOn_of_evolved :
    ∀ diagnostic ∈ after.diagnostics.toList,
      diagnostic.kind.endsParse = false := by
  intro diagnostic reported
  rcases kind_of_evolved evolved reported with kind | kind <;> rw [kind] <;>
    rfl

theorem inOrder_reportNoMatch :
    (after.reportNoMatch session).diagnostics.InOrder ∧
      (after.reportNoMatch session).diagnostics.toList ≠ [] := by
  unfold reportNoMatch
  split
  case isTrue none =>
    have noReport : after.diagnostics.toList = [] :=
      List.isEmpty_iff.mp none
    exact ⟨(distinct_of_evolved evolved).inOrder_push
      (goesOn_of_evolved evolved) fun _ => noReport, Diagnostics.ne_nil_push⟩
  case isFalse some =>
    refine ⟨(distinct_of_evolved evolved).inOrder (goesOn_of_evolved evolved),
      fun none => some (List.isEmpty_iff.mpr none)⟩

/-- A report that is added at the end of a parse, because it was given up or
because the code failed. -/
theorem inOrder_push {added : Diagnostic}
    (kind : added.kind = .resourceExhausted ∨ added.kind = .fault) :
    (after.diagnostics.push added).InOrder := by
  refine (distinct_of_evolved evolved).inOrder_push (goesOn_of_evolved evolved)
    fun other => ?_
  rcases kind with kind | kind <;> simp [kind] at other

end Entering

/-- How a parse with a result ends: the entry rule has matched, or something is
reported. -/
theorem Gives.cases {parsed : Parsed α} {log : Array LogEntry}
    (gives : session.Gives ⟨.parsed parsed, log⟩) :
    (∃ entry depth value after, session.grammar.error? = none ∧
      session.grammar.start? = some entry ∧
      session.entering depth entry = .ok (.matched value) after ∧
      parsed.value = (some value).filter (fun value => !value.isNil) ∧
      parsed.diagnostics = after.diagnostics) ∨
    (parsed.value = none ∧ parsed.diagnostics.toList ≠ [] ∧
      parsed.diagnostics.InOrder) := by
  cases valid : session.grammar.error? with
  | some error =>
      obtain ⟨entry, rejected⟩ := gives_of_invalid valid
      cases gives.unique rejected
      have none : Diagnostics.empty.Distinct := List.Pairwise.nil
      exact .inr ⟨rfl, Diagnostics.ne_nil_push,
        none.inOrder_push nofun fun _ => rfl⟩
  | none =>
      obtain ⟨entry, starts⟩ := Grammar.start?_of_valid valid
      obtain ⟨depth, reported⟩ := (gives_iff starts valid).mp gives
      have evolves := Eval.evalRule_evolves
        (Eval.evalExpr_evolves session depth) entry 0 session.opening
      rcases run : session.entering depth entry with
        ⟨verdict, after⟩ | ⟨interrupt, after⟩
      all_goals rw [run] at reported
      · have evolved := evolves.result run
        cases verdict with
        | matched result =>
            cases reported
            exact .inl ⟨entry, depth, result, after, rfl, starts, run, rfl,
              rfl⟩
        | unmatched =>
            cases reported
            obtain ⟨inOrder, notNil⟩ := inOrder_reportNoMatch evolved
            exact .inr ⟨rfl, notNil, inOrder⟩
        | aborted error =>
            have settled := (entering_settles starts valid depth).result run
            obtain ⟨rfl, -⟩ := settled.describes
            cases reported
            exact .inr ⟨rfl, Diagnostics.ne_nil_push,
              inOrder_push evolved (.inl rfl)⟩
      · cases interrupt with
        | exhausted => cases reported
        | fault fault =>
            have evolved := evolves.fault run
            simp only [reportOn] at reported
            split at reported
            · cases reported
              exact .inr ⟨rfl, Diagnostics.ne_nil_push,
                inOrder_push evolved (.inr rfl)⟩
            · cases reported

/-- If nothing is reported, everything that the cursor has come to is well
formed. -/
theorem valid_of_unreported {depth : Nat} {entry : Rule α σ}
    {verdict : Verdict α} {after : ParseState α σ}
    (run : session.entering depth entry = .ok verdict after)
    (unreported : after.diagnostics.toList = []) {offset : Nat}
    (atMost : offset ≤ session.highest depth entry)
    (boundary : Decoded.Boundary session.input offset) :
    (Decoded.ofBytesAt session.input offset).valid = true ∧
      (session.input.extract 0 offset).IsValidUTF8 := by
  have sighted := (session.entering_sights depth entry).result run
  have wellFormed : ∀ reached ≤ session.highest depth entry,
      ¬ Decoded.Malformed session.input reached := by
    intro reached within malformed
    have reported := (sighted.reported reached).mpr
      ⟨malformed, le_highest_iff.mp within⟩
    simp [Diagnostics.malformedOffsets, unreported] at reported
  refine ⟨?_, boundary.isValidUTF8 fun earlier before =>
    wellFormed earlier (by omega)⟩
  simpa using fun invalid => wellFormed offset atMost ⟨boundary, invalid⟩

/-- What a parse that gives a result reports can be relied on.  There is a value
only if the entry rule has matched, and then nothing but malformed bytes and
complaints is reported.  If nothing is reported, the grammar is valid, the entry
rule has matched, the input is valid UTF-8 as far as the cursor has been, and
all code that was run has replied with an answer.  In any case the diagnostics
are in order. -/
theorem gives_in_order {parsed : Parsed α} {log : Array LogEntry}
    (gives : session.Gives ⟨.parsed parsed, log⟩) :
    (∀ value, parsed.value = some value →
      (∃ entry depth after, session.grammar.start? = some entry ∧
        session.entering depth entry = .ok (.matched value) after) ∧
      ∀ diagnostic ∈ parsed.diagnostics.toList,
        diagnostic.kind = .encoding ∨ diagnostic.kind = .semantic) ∧
    (parsed.diagnostics.isEmpty = true →
      session.grammar.error? = none ∧
      ∃ entry depth value after, session.grammar.start? = some entry ∧
        session.entering depth entry = .ok (.matched value) after ∧
        after.cursor.offset ≤ session.highest depth entry ∧
        (∀ offset ≤ session.highest depth entry,
          Decoded.Boundary session.input offset →
            (Decoded.ofBytesAt session.input offset).valid = true ∧
              (session.input.extract 0 offset).IsValidUTF8) ∧
        ∀ visit ∈ session.visits depth entry, visit.Answers session) ∧
    parsed.diagnostics.InOrder := by
  rcases gives.cases with
    ⟨entry, depth, value, after, valid, starts, run, isValue, reports⟩ |
      ⟨noValue, notNil, inOrder⟩
  · have evolved := (Eval.evalRule_evolves
      (Eval.evalExpr_evolves session depth) entry 0 session.opening).result run
    refine ⟨?_, ?_, ?_⟩
    · intro result isResult
      obtain ⟨⟨rfl⟩, -⟩ :=
        Option.filter_eq_some_iff.mp (isValue.symm.trans isResult)
      rw [reports]
      exact ⟨⟨entry, depth, after, starts, run⟩, fun diagnostic =>
        kind_of_evolved evolved⟩
    · intro clean
      have unreported : after.diagnostics.toList = [] :=
        reports ▸ List.isEmpty_iff.mp clean
      have sighted := (session.entering_sights depth entry).result run
      exact ⟨valid, entry, depth, value, after, starts, run,
        le_highest_iff.mpr ⟨after.cursor, sighted.cursor, Nat.le_refl _⟩,
        fun offset => valid_of_unreported run unreported,
        fun visit isVisit =>
          (entering_completes run visit isVisit).answers unreported⟩
    · rw [reports]
      exact (distinct_of_evolved evolved).inOrder (goesOn_of_evolved evolved)
  · refine ⟨fun value isValue => ?_, fun clean => ?_, inOrder⟩
    · cases noValue.symm.trans isValue
    · exact absurd (List.isEmpty_iff.mp clean) notNil

end Session

namespace Grammar

/-- A predicate is run in an attempt that is given up, and an action later. -/
def scrupulous : Rule Unit :=
  ⟨"main", "",
    .choice
      [.sequence
          [.require (Code.pure fun _ => .answer true), .exactly "b"],
        .action .any (Code.pure fun _ => .answer (.node ()))]⟩

def scrupulousSession : Session Unit :=
  .ofSettings ⟨[scrupulous]⟩ "in" "ä".toUTF8 []

/-- Nothing is reported, so both have replied with an answer, and the character
is well formed. -/
theorem scrupulous_in_order :
    ∃ parsed log, scrupulousSession.Gives ⟨.parsed parsed, log⟩ ∧
      parsed.diagnostics.isEmpty = true ∧
      parsed.value.isSome = true ∧
      ∃ depth after, scrupulousSession.entering depth scrupulous =
          .ok (.matched (.node ())) after ∧
        (∀ offset ≤ scrupulousSession.highest depth scrupulous,
          Decoded.Boundary scrupulousSession.input offset →
            (scrupulousSession.input.extract 0 offset).IsValidUTF8) ∧
        ∀ visit ∈ scrupulousSession.visits depth scrupulous,
          visit.Answers scrupulousSession := by
  have gives : scrupulousSession.Gives ⟨.parsed _, _⟩ := ⟨8, rfl⟩
  obtain ⟨-, entry, depth, value, after, starts, run, -, valid, answers⟩ :=
    (Session.gives_in_order gives).2.1 rfl
  cases starts
  have same : scrupulousSession.entering depth scrupulous =
      scrupulousSession.entering 8 scrupulous :=
    Session.entering_unique (by rw [run]; exact nofun) nofun
  cases run.symm.trans same
  exact ⟨_, _, gives, rfl, rfl, depth, _, run,
    fun offset atMost boundary => (valid offset atMost boundary).2, answers⟩

end Grammar

end PegEngine
