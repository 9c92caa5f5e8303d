import PegEngine.Proofs.Alignment

/-!
# Complaints do not change what matches

A parse in which nobody hears of complaints comes to the same value, and counts
the same expressions, as the parse in which they are reported
(`Session.forgiving_reproduces`).  The diagnostics differ in the reports of the
complaints only, and in what is reported at the end if nothing else was.
-/

namespace PegEngine

open ParseState

namespace Diagnostics

variable (diagnostics : Diagnostics)

theorem without_comm (kind other : ErrorKind) :
    (diagnostics.without kind).without other =
      (diagnostics.without other).without kind := by
  simp only [without, List.filter_filter, Bool.and_comm]

end Diagnostics

namespace ParseState

variable {α σ : Type} (session : Session α σ) (state : ParseState α σ)

/-- The report of the farthest failure is the only syntactic one. -/
theorem without_reportNoMatch :
    (state.reportNoMatch session).diagnostics.without .syntactic =
      state.diagnostics.without .syntactic := by
  unfold reportNoMatch
  split
  · exact Diagnostics.without_push_of_kind rfl
  · rfl

theorem log_reportNoMatch : (state.reportNoMatch session).log = state.log := by
  unfold reportNoMatch
  split <;> rfl

variable {session} {state}

/-- The report that ends an evaluation reads like none of the earlier ones. -/
theorem not_shows_reportAbort (sound : state.Sound session)
    (noRule : state.activeRules = []) :
    ¬ state.diagnostics.Shows ⟨state.cursor.position,
      state.location session state.cursor.position, .maxExpressions⟩ := by
  intro shows
  have longer := congrArg List.length (toList_reportAbort sound noRule)
  have same : (state.reportAbort session .maxExpressions).diagnostics =
      state.diagnostics := Diagnostics.push_eq_of_shows shows
  rw [same] at longer
  simp at longer

/-- A forgiving parse that has come to its limit reports it in the same
place. -/
theorem diagnostics_reportAbort_taken {stance : Stance}
    (sound : state.Sound session) (noRule : state.activeRules = []) :
    ((state.taken stance (state.diagnostics.without .semantic)).reportAbort
        session .maxExpressions).diagnostics =
      (state.reportAbort session .maxExpressions).diagnostics.without
        .semantic := by
  have new := not_shows_reportAbort sound noRule
  have samePlace : (state.taken stance
      (state.diagnostics.without .semantic)).location session
        state.cursor.position =
      state.location session state.cursor.position := by
    simp only [location, taken, noRule, List.map_nil]
  calc ((state.taken stance (state.diagnostics.without .semantic)).reportAbort
          session .maxExpressions).diagnostics
    _ = (state.diagnostics.without .semantic).push ⟨state.cursor.position,
          state.location session state.cursor.position, .maxExpressions⟩ := by
        rw [← samePlace]
        rfl
    _ = (state.diagnostics.push ⟨state.cursor.position,
          state.location session state.cursor.position,
            .maxExpressions⟩).without .semantic :=
        (Diagnostics.without_push_of_new new
          (by simp [Diagnostic.kind, ParseError.kind])).symm

end ParseState

namespace Session

variable {α σ : Type} {session : Session α σ}

/-- The forgiving parse comes to what the other one comes to, if that ends
without a fault. -/
theorem entering_forgiving {entry : Rule α σ} {depth : Nat}
    {verdict : Verdict α} {after : ParseState α σ}
    (run : session.entering depth entry = .ok verdict after) :
    (session.taking .forgiving).entering depth (entry.taken .forgiving) =
      .ok verdict (after.taken .forgiving
        (after.diagnostics.without .semantic)) := by
  cases session.entering_beside .forgiving depth entry with
  | together value last later isRun isRunToo aligned =>
      cases run.symm.trans isRun
      rw [isRunToo, aligned.same]
  | apart parted stopped => cases (parted verdict after run).exacting

/-- For a valid grammar whose code does not fail in a parse: if every complaint
were an answer, the parse would come to the same value and count the same
expressions.  But for the report of the farthest failure, the diagnostics would
be the same without the complaints. -/
theorem forgiving_reproduces (valid : session.grammar.error? = none)
    {parsed : Parsed α} {log : Array LogEntry}
    (gives : session.Gives ⟨.parsed parsed, log⟩)
    (faultless : ∀ fault after, ¬ session.FailsIn fault after) :
    ∃ other, (session.taking .forgiving).Gives ⟨.parsed other, log⟩ ∧
      other.value = parsed.value ∧
      other.expressions = parsed.expressions ∧
      other.diagnostics.without .syntactic =
        (parsed.diagnostics.without .syntactic).without .semantic := by
  obtain ⟨entry, starts⟩ := Grammar.start?_of_valid valid
  have startsToo : (session.taking .forgiving).grammar.start? =
      some (entry.taken .forgiving) :=
    (session.grammar.start?_taken .forgiving).trans (by rw [starts]; rfl)
  have validToo : (session.taking .forgiving).grammar.error? = none :=
    (session.grammar.error?_taken .forgiving).trans valid
  obtain ⟨depth, ends⟩ := (gives_iff starts valid).mp gives
  have givesToo : ∀ {other : Parsed α},
      (session.taking .forgiving).reportOn
          ((session.taking .forgiving).entering depth
            (entry.taken .forgiving)) = some ⟨.parsed other, log⟩ →
        (session.taking .forgiving).Gives ⟨.parsed other, log⟩ :=
    fun endsToo => (gives_iff startsToo validToo).mpr ⟨depth, endsToo⟩
  rcases run : session.entering depth entry with
    ⟨verdict, after⟩ | ⟨interrupt, after⟩
  all_goals rw [run] at ends
  · rw [entering_forgiving run] at givesToo
    cases verdict with
    | matched value =>
        cases ends
        exact ⟨_, givesToo rfl, rfl, rfl, Diagnostics.without_comm _ _ _⟩
    | unmatched =>
        let later := after.taken .forgiving
          (after.diagnostics.without .semantic)
        let ended := later.reportNoMatch (session.taking .forgiving)
        have sameLog : (after.reportNoMatch session).log = ended.log :=
          (log_reportNoMatch session after).trans
            (log_reportNoMatch _ later).symm
        have sameCount : ended.expressions =
            (after.reportNoMatch session).expressions :=
          calc ended.expressions
            _ = later.expressions := expressions_reportNoMatch
            _ = after.expressions := rfl
            _ = (after.reportNoMatch session).expressions :=
              expressions_reportNoMatch.symm
        cases ends
        refine ⟨⟨none, ended.diagnostics, ended.expressions⟩, givesToo ?_, rfl,
          sameCount, ?_⟩
        · rw [sameLog]
          rfl
        · calc ended.diagnostics.without .syntactic
            _ = (after.diagnostics.without .semantic).without .syntactic :=
              without_reportNoMatch _ later
            _ = (after.diagnostics.without .syntactic).without .semantic :=
              Diagnostics.without_comm _ _ _
            _ = ((after.reportNoMatch session).diagnostics.without
                .syntactic).without .semantic := by
              rw [without_reportNoMatch]
    | aborted error =>
        have settled := (entering_settles starts valid depth).result run
        obtain ⟨rfl, -⟩ := settled.describes
        have noRule : after.activeRules = [] :=
          settled.balanced.activeRules.trans session.activeRules_opening
        cases ends
        refine ⟨_, givesToo rfl, rfl, rfl, ?_⟩
        exact (congrArg (Diagnostics.without · .syntactic)
          (diagnostics_reportAbort_taken settled.sound noRule)).trans
            (Diagnostics.without_comm _ _ _)
  · cases interrupt with
    | exhausted => cases ends
    | fault fault =>
        exact absurd ⟨valid, entry, depth, starts, run⟩ (faultless fault after)

end Session

namespace Grammar

/-- Code complains in an attempt that is given up, and again in the match, which
comes to a malformed byte. -/
def grumbling : Rule Unit :=
  ⟨"main", "",
    .choice
      [.sequence
          [.require (Code.pure fun _ => .complaint "first"), .exactly "b"],
        .sequence
          [.any, .forbid (Code.pure fun _ => .complaint "second"), .any]]⟩

def grumblingSession : Session Unit :=
  .ofSettings ⟨[grumbling]⟩ "" ⟨#[0x61, 0xFF]⟩ []

/-- Nobody hears of the complaints, and the malformed byte is still reported. -/
theorem grumbling_reproduced :
    grumblingSession.grammar.error? = none ∧
      ∃ parsed log, grumblingSession.Gives ⟨.parsed parsed, log⟩ ∧
        (∀ fault after, ¬ grumblingSession.FailsIn fault after) ∧
        parsed.diagnostics.toList.map Diagnostic.kind =
          [.semantic, .encoding, .semantic] ∧
        ∃ other,
          (grumblingSession.taking .forgiving).Gives ⟨.parsed other, log⟩ ∧
            other.value = parsed.value ∧
            (other.diagnostics.without .syntactic).toList.map Diagnostic.kind =
              [.encoding] := by
  have gives : grumblingSession.Gives ⟨.parsed _, _⟩ := ⟨8, rfl⟩
  have faultless : ∀ fault after, ¬ grumblingSession.FailsIn fault after := by
    rintro fault after ⟨-, entry, depth, starts, run⟩
    cases starts
    have same : grumblingSession.entering depth grumbling =
        grumblingSession.entering 8 grumbling :=
      Session.entering_unique (by rw [run]; exact nofun) nofun
    cases run.symm.trans same
  obtain ⟨other, givesToo, sameValue, -, diagnostics⟩ :=
    Session.forgiving_reproduces rfl gives faultless
  refine ⟨rfl, _, _, gives, faultless, by decide +kernel, other, givesToo,
    sameValue, ?_⟩
  rw [diagnostics]
  decide +kernel

end Grammar

end PegEngine
