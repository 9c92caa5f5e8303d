import PegEngine.Proofs.Farthest

/-!
# Faults that are contained

When code fails the evaluation stops where it is, in the rule that is being
evaluated.  A parse that contains faults then ends without a value, and reports
the fault at the place to which it has come.  Reports that read the same are
kept once, so this one is among the diagnostics exactly if nothing before it
reads like it (`Session.reports_fault`).  A complaint of the same code with the
same text does, and then no diagnostic tells of the fault
(`Grammar.complaining_hides_fault`).
-/

namespace PegEngine

open ParseState

namespace Diagnostics

variable {diagnostics : Diagnostics} {added : Diagnostic}

theorem push_of_not_shows (new : ¬ diagnostics.Shows added) :
    (diagnostics.push added).toList = diagnostics.toList ++ [added] := by
  have differs : ¬ (diagnostics.toList.any fun earlier =>
      earlier.render == added.render) = true := by
    intro shows
    obtain ⟨earlier, reported, same⟩ := List.any_eq_true.mp shows
    exact new ⟨earlier, reported, by simpa using same⟩
  unfold push
  rw [if_neg differs]

end Diagnostics

namespace Session

variable {α σ : Type} {session : Session α σ}

/-- The code of the grammar fails during a parse, and leaves it in a state. -/
def FailsIn (session : Session α σ) (fault : Fault) (after : ParseState α σ) :
    Prop :=
  session.grammar.error? = none ∧
    ∃ entry depth, session.grammar.start? = some entry ∧
      session.entering depth entry = .error (.fault fault) after

/-- The report of a fault that is contained in a state. -/
def faultReport (session : Session α σ) (fault : Fault)
    (state : ParseState α σ) : Diagnostic :=
  ⟨state.cursor.position, state.location session state.cursor.position,
    .fault fault.report⟩

/-- Before a fault is reported, nothing is reported to be one. -/
theorem FailsIn.kind_ne_fault {fault : Fault} {after : ParseState α σ}
    (fails : session.FailsIn fault after) {diagnostic : Diagnostic}
    (reported : diagnostic ∈ after.diagnostics.toList) :
    diagnostic.kind ≠ .fault := by
  obtain ⟨-, entry, depth, -, run⟩ := fails
  have evolves := Eval.evalRule_evolves (Eval.evalExpr_evolves session depth)
    entry 0 session.opening
  rcases kind_of_evolved (evolves.fault run) reported with kind | kind <;>
    simp [kind]

/-- A parse that contains faults ends without a value when code fails, and adds
the report of the fault to what was reported before. -/
theorem FailsIn.gives {fault : Fault} {after : ParseState α σ}
    (fails : session.FailsIn fault after)
    (recovers : session.options.recover = true) :
    ∃ log, session.Gives ⟨.parsed
      ⟨none, after.diagnostics.push (session.faultReport fault after),
        after.expressions⟩, log⟩ := by
  obtain ⟨valid, entry, depth, starts, run⟩ := fails
  refine ⟨(after.reportFault session fault).log,
    (gives_iff starts valid).mpr ⟨depth, ?_⟩⟩
  rw [run]
  simp only [reportOn, recovers, if_true]
  rfl

/-- When code fails and faults are contained, the parse gives a result without
a value.  Something among the diagnostics reads like the report of the fault,
and it is this report exactly if nothing was reported before that reads the
same; otherwise none of the diagnostics is of a fault. -/
theorem reports_fault {fault : Fault} {after : ParseState α σ}
    (recovers : session.options.recover = true)
    (fails : session.FailsIn fault after) :
    ∃ parsed log, session.Gives ⟨.parsed parsed, log⟩ ∧
      parsed.value = none ∧
      parsed.diagnostics.Shows (session.faultReport fault after) ∧
      (session.faultReport fault after ∈ parsed.diagnostics.toList ↔
        ¬ after.diagnostics.Shows (session.faultReport fault after)) ∧
      (parsed.diagnostics.hasKind .fault = true ↔
        session.faultReport fault after ∈ parsed.diagnostics.toList) := by
  obtain ⟨log, gives⟩ := fails.gives recovers
  refine ⟨_, log, gives, rfl, Diagnostics.shows_push_self, ?_⟩
  by_cases shows : after.diagnostics.Shows (session.faultReport fault after)
  · have absent :
        session.faultReport fault after ∉ after.diagnostics.toList :=
      fun reported => fails.kind_ne_fault reported rfl
    have noFault : after.diagnostics.hasKind .fault = false := by
      simp only [Diagnostics.hasKind, List.any_eq_false, beq_iff_eq]
      exact fun _ reported => fails.kind_ne_fault reported
    rw [Diagnostics.push_eq_of_shows shows]
    simp [shows, absent, noFault]
  · have added := Diagnostics.push_of_not_shows shows
    have ofFault : (session.faultReport fault after).kind = .fault := rfl
    simp [Diagnostics.hasKind, added, shows, ofFault]

end Session

namespace Grammar

/-- Code that complains, and code that fails with the text of the
complaint. -/
def complaining : Rule Unit :=
  ⟨"main", "",
    .sequence
      [.require (Code.pure fun _ => .complaint "boom"),
        .require (Code.pure fun _ => .failure (.message "boom"))]⟩

def complainingSession : Session Unit :=
  .ofSettings ⟨[complaining]⟩ "in" "".toUTF8 []

/-- The code of a grammar that fails, and nothing else. -/
def failing : Session Unit :=
  .ofSettings
    ⟨[⟨"main", "",
      .require (Code.pure fun _ => .failure (.message "boom"))⟩]⟩
    "in" "".toUTF8 []

theorem failing_reports_fault :
    failing.options.recover = true ∧
      ∃ after, failing.FailsIn (.message "boom") after ∧
        ∃ parsed log, failing.Gives ⟨.parsed parsed, log⟩ ∧
          parsed.value = none ∧
          failing.faultReport (.message "boom") after ∈
            parsed.diagnostics.toList := by
  have fails : failing.FailsIn (.message "boom") _ :=
    ⟨rfl, _, 8, rfl, rfl⟩
  obtain ⟨parsed, log, gives, noValue, -, isReported, -⟩ :=
    Session.reports_fault rfl fails
  refine ⟨rfl, _, fails, parsed, log, gives, noValue, isReported.mpr ?_⟩
  rintro ⟨earlier, reported, -⟩
  exact absurd reported List.not_mem_nil

/-- The fault is not reported, since the complaint reads the same. -/
theorem complaining_hides_fault :
    complainingSession.options.recover = true ∧
      (∃ after, complainingSession.FailsIn (.message "boom") after) ∧
      ∃ parsed log, complainingSession.Gives ⟨.parsed parsed, log⟩ ∧
        parsed.value = none ∧
        parsed.diagnostics.toList =
          [⟨⟨1, 1, 0⟩, "in:1:1 (0): rule main", .semantic "boom"⟩] ∧
        parsed.diagnostics.hasKind .fault = false := by
  have fails : ∃ after,
      complainingSession.FailsIn (.message "boom") after :=
    ⟨_, rfl, _, 8, rfl, rfl⟩
  exact ⟨rfl, fails, _, _, ⟨8, rfl⟩, rfl, by decide +kernel, by decide +kernel⟩

end Grammar

end PegEngine
