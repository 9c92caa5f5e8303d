import PegEngine.Proofs.Attribution
import PegEngine.Proofs.Malformed
import PegEngine.Proofs.Stances

/-!
# A parse beside one that takes a stance

A parse and the parse of the same session under a stance on complaints go
together, from a state to one that differs in the diagnostics only
(`ParseState.Aligned`), until the code of the grammar complains.  From there on
the forgiving parse still goes together with the other one, and lacks the report
of the complaint; the exacting one stops, and what is left of the other one ends
with something reported (`Eval.evalExpr_aligns`).

That reports agree rests on the account of where the cursor has been: no
complaint keeps a malformed byte from being reported.
-/

namespace PegEngine

open ParseState

namespace Diagnostics

variable {diagnostics : Diagnostics} {added : Diagnostic} {kind : ErrorKind}

theorem without_eq_self
    (none : ∀ diagnostic ∈ diagnostics.toList, diagnostic.kind ≠ kind) :
    diagnostics.without kind = diagnostics := by
  refine congrArg Diagnostics.mk (List.filter_eq_self.mpr ?_)
  exact fun diagnostic reported => decide_eq_true (none diagnostic reported)

theorem without_push_of_kind (isKind : added.kind = kind) :
    (diagnostics.push added).without kind = diagnostics.without kind := by
  by_cases shows : diagnostics.Shows added
  · rw [push_eq_of_shows shows]
  · simp [without, push_of_not_shows shows, isKind]

theorem without_push_of_new (new : ¬ diagnostics.Shows added)
    (differs : added.kind ≠ kind) :
    (diagnostics.push added).without kind =
      (diagnostics.without kind).push added := by
  have stillNew : ¬ (diagnostics.without kind).Shows added := by
    rintro ⟨earlier, reported, same⟩
    exact new ⟨earlier, List.mem_of_mem_filter reported, same⟩
  rw [Diagnostics.mk.injEq, push_of_not_shows stillNew]
  simp [without, push_of_not_shows new, differs]

end Diagnostics

namespace ParseState

variable {α σ : Type} {session : Session α σ} {stance : Stance}
  {known : List Cursor} {left right : ParseState α σ}

/-- The state of a parse, and that of the parse under a stance: they differ in
nothing but the code of the rules that are being evaluated and the reports of
complaints, and to the exacting parse there was nothing to complain of.  The
known cursors are some of those at which the parse has been. -/
structure Aligned (session : Session α σ) (stance : Stance)
    (known : List Cursor) (left right : ParseState α σ) : Prop where
  sighted : ∃ passed, known ⊆ passed ∧ left.Sighted session passed
  same : right = left.taken stance (left.diagnostics.without .semantic)
  blameless : stance = .exacting →
    ∀ diagnostic ∈ left.diagnostics.toList, diagnostic.kind ≠ .semantic

/-- The exacting parse has parted from the other one, which has something to
report. -/
structure Parted (stance : Stance) (state : ParseState α σ) : Prop where
  exacting : stance = .exacting
  reported : state.diagnostics.toList ≠ []

theorem Parted.extends {before after : ParseState α σ}
    (parted : before.Parted stance) (grows : Extends before after) :
    after.Parted stance :=
  ⟨parted.exacting, fun none => parted.reported
    (List.prefix_nil.mp (none ▸ grows.diagnostics))⟩

/-- A change that does not depend on rules and diagnostics, and reports
nothing. -/
structure Silent (change : ParseState α σ → ParseState α σ) : Prop where
  unattributed : Unattributed change
  quiet : ∀ state, (change state).diagnostics = state.diagnostics

/-- Such a change comes to the same under a stance. -/
theorem Silent.taken {change : ParseState α σ → ParseState α σ}
    (silent : Silent change) (state : ParseState α σ)
    (diagnostics : Diagnostics) :
    change (state.taken stance diagnostics) =
      (change state).taken stance diagnostics := by
  obtain ⟨sameRules, later, same⟩ := silent.unattributed state
    (state.activeRules.map (Rule.taken stance)) diagnostics
  have kept : later = diagnostics := by
    have quiet := silent.quiet (state.taken stance diagnostics)
    rwa [ParseState.taken, same] at quiet
  rw [ParseState.taken, same, ParseState.taken, sameRules, kept]

theorem Silent.of_sight {change : ParseState α σ → ParseState α σ}
    (unattributed : Unattributed change)
    (sight : ∀ state, (change state).sight = state.sight) : Silent change :=
  ⟨unattributed, fun state =>
    congrArg (fun sight => sight.2.2.1) (sight state)⟩

namespace Aligned

theorem cursor (aligned : Aligned session stance known left right) :
    right.cursor = left.cursor :=
  aligned.same ▸ rfl

theorem mono {fewer : List Cursor}
    (aligned : Aligned session stance known left right)
    (fewer_subset : fewer ⊆ known) :
    Aligned session stance fewer left right := by
  obtain ⟨passed, isPassed, sighted⟩ := aligned.sighted
  exact { aligned with
    sighted := ⟨passed, List.Subset.trans fewer_subset isPassed, sighted⟩ }

/-- The cursor is one at which the parse has been. -/
theorem here (aligned : Aligned session stance known left right) :
    Aligned session stance (left.cursor :: known) left right := by
  obtain ⟨passed, isPassed, sighted⟩ := aligned.sighted
  exact { aligned with
    sighted := ⟨passed, List.cons_subset.mpr ⟨sighted.cursor, isPassed⟩,
      sighted⟩ }

theorem of_silent {change : ParseState α σ → ParseState α σ}
    (aligned : Aligned session stance known left right)
    (silent : Silent change)
    (sights : ∀ passed, known ⊆ passed → left.Sighted session passed →
      (change left).Sighted session passed) :
    Aligned session stance known (change left) (change right) := by
  obtain ⟨⟨passed, isPassed, sighted⟩, rfl, blameless⟩ := aligned
  refine ⟨⟨passed, isPassed, sights passed isPassed sighted⟩, ?_, ?_⟩
  · rw [silent.taken, silent.quiet]
  · rwa [silent.quiet]

/-- A change that does not matter to where the cursor has been. -/
theorem of_sight {change : ParseState α σ → ParseState α σ}
    (aligned : Aligned session stance known left right)
    (unattributed : Unattributed change)
    (sight : ∀ state, (change state).sight = state.sight) :
    Aligned session stance known (change left) (change right) :=
  aligned.of_silent (.of_sight unattributed sight)
    fun _ _ sighted => sighted.of_sight_eq (sight left)

theorem enterRule (aligned : Aligned session stance known left right)
    (rule : Rule α σ) :
    Aligned session stance known (left.enterRule rule)
      (right.enterRule (rule.taken stance)) := by
  obtain ⟨⟨passed, isPassed, sighted⟩, rfl, blameless⟩ := aligned
  exact ⟨⟨passed, isPassed, sighted.of_sight_eq rfl⟩, rfl, blameless⟩

theorem leaveRule (aligned : Aligned session stance known left right) :
    Aligned session stance known left.leaveRule right.leaveRule := by
  obtain ⟨⟨passed, isPassed, sighted⟩, rfl, blameless⟩ := aligned
  refine ⟨⟨passed, isPassed, sighted.of_sight_eq rfl⟩, ?_, blameless⟩
  simp only [ParseState.leaveRule, popScope, taken, List.map_tail]

theorem keepStore (aligned : Aligned session stance known left right)
    (store : Store σ) :
    Aligned session stance known { left with store := store }
      { right with store := store } := by
  obtain ⟨⟨passed, isPassed, sighted⟩, rfl, blameless⟩ := aligned
  exact ⟨⟨passed, isPassed, sighted.of_sight_eq rfl⟩, rfl, blameless⟩

theorem restore (aligned : Aligned session stance known left right)
    {cursor : Cursor}
    (isPassed : ∀ passed, known ⊆ passed → left.Sighted session passed →
      cursor ∈ passed) :
    Aligned session stance known (left.restore session cursor)
      (right.restore session cursor) :=
  aligned.of_silent
    ⟨unattributed_restore session cursor, fun state => by rw [restore_eq]⟩
    fun passed subset sighted =>
      sighted.restore (isPassed passed subset sighted)

theorem rememberVerdict (aligned : Aligned session stance known left right)
    (key : MemoKey) (verdict : Verdict α) :
    Aligned session stance known (left.rememberVerdict key verdict)
      (right.rememberVerdict key verdict) :=
  aligned.of_silent
    ⟨unattributed_rememberVerdict key verdict,
      fun _ => by cases verdict <;> rfl⟩
    fun _ _ sighted => sighted.rememberVerdict key verdict

/-- Both parses report a malformed byte, or neither of them. -/
theorem read (aligned : Aligned session stance known left right)
    (present : left.cursor.current.isSome) :
    Aligned session stance known (left.read session) (right.read session) := by
  obtain ⟨⟨passed, subset, sighted⟩, rfl, blameless⟩ := aligned
  refine ⟨⟨_, List.subset_append_of_subset_left _ subset,
    sighted.read present⟩, ?_, ?_⟩
  · have sameReport : (left.taken stance
        (left.diagnostics.without .semantic)).malformedReport session =
          left.malformedReport session := by
      simp only [malformedReport, location, taken]
      cases left.activeRules <;> rfl
    have sameTest : (left.taken stance
        (left.diagnostics.without .semantic)).meetsMalformed session =
          left.meetsMalformed session := rfl
    rw [read_eq, read_eq, sameReport, sameTest]
    by_cases meets : left.meetsMalformed session = true
    · have pushed : (left.diagnostics.push
          (left.malformedReport session)).without .semantic =
            (left.diagnostics.without .semantic).push
              (left.malformedReport session) :=
        Diagnostics.without_push_of_new
          (sighted.not_shows_malformedReport present meets)
          (by rintro ⟨⟩)
      simp only [if_pos meets, pushed]
      rfl
    · simp only [if_neg meets]
      rfl
  · intro exacting diagnostic reported
    rw [read_eq] at reported
    dsimp only at reported
    split at reported
    · rcases mem_push reported with earlier | rfl
      · exact blameless exacting diagnostic earlier
      · intro isSemantic
        cases isSemantic
    · exact blameless exacting diagnostic reported

/-- The forgiving parse does not hear of a complaint. -/
theorem complain (aligned : Aligned session stance known left right)
    (forgiving : stance = .forgiving) (message : String) {cursor : Cursor}
    (isKnown : cursor ∈ known) :
    Aligned session stance known
      (left.report session (.semantic message) cursor.position) right := by
  obtain ⟨⟨passed, subset, sighted⟩, rfl, -⟩ := aligned
  refine ⟨⟨passed, subset, sighted.report (by simp) (subset isKnown)⟩, ?_, ?_⟩
  · have unheard : (left.diagnostics.push
        ⟨cursor.position, left.location session cursor.position,
          .semantic message⟩).without .semantic =
          left.diagnostics.without .semantic :=
      Diagnostics.without_push_of_kind rfl
    exact congrArg (left.taken stance) unheard.symm
  · rw [forgiving]
    exact nofun

end Aligned

section Matchers

theorem Aligned.consume (aligned : Aligned session stance known left right)
    (ignoresCase : Bool) (chars : List Char) :
    (right.consume (session.taking stance) ignoresCase chars).1 =
        (left.consume session ignoresCase chars).1 ∧
      Aligned session stance known
        (left.consume session ignoresCase chars).2
        (right.consume (session.taking stance) ignoresCase chars).2 := by
  induction chars generalizing left right with
  | nil => exact ⟨rfl, aligned⟩
  | cons char chars ih =>
      rw [ParseState.consume, ParseState.consume, aligned.cursor]
      split
      case isTrue agrees =>
        obtain ⟨found, current, -⟩ := Option.map_eq_some_iff.mp agrees
        exact ih (aligned.read (by simp [current]))
      case isFalse => exact ⟨rfl, aligned⟩

theorem Aligned.attempt (aligned : Aligned session stance known left right)
    (failed : Bool) (start : Cursor) (descriptor : String) :
    Aligned session stance known (left.attempt failed start descriptor)
      (right.attempt failed start descriptor) :=
  aligned.of_sight (unattributed_attempt failed start descriptor)
    fun _ => rfl

theorem Aligned.succeed (aligned : Aligned session stance known left right)
    (start : Cursor) (descriptor : String) :
    (right.succeed (session.taking stance) start descriptor).1 =
        (left.succeed session start descriptor).1 ∧
      Aligned session stance known (left.succeed session start descriptor).2
        (right.succeed (session.taking stance) start descriptor).2 := by
  refine ⟨?_, aligned.attempt false start descriptor⟩
  simp only [ParseState.succeed, textFrom, aligned.cursor]
  rfl

theorem Aligned.matchLiteral
    (aligned : Aligned session stance known left right) (text : String)
    (ignoresCase : Bool) :
    (right.matchLiteral (session.taking stance) text ignoresCase).1 =
        (left.matchLiteral session text ignoresCase).1 ∧
      Aligned session stance known
        (left.matchLiteral session text ignoresCase).2
        (right.matchLiteral (session.taking stance) text ignoresCase).2 := by
  have compared := aligned.here.consume ignoresCase text.toList
  unfold ParseState.matchLiteral
  rw [aligned.cursor]
  generalize left.consume session ignoresCase text.toList = first at compared
  generalize right.consume (session.taking stance) ignoresCase text.toList =
    second at compared
  obtain ⟨agreed, first⟩ := first
  obtain ⟨agreedToo, second⟩ := second
  obtain ⟨rfl, reached⟩ := compared
  have fewer := List.subset_cons_self left.cursor known
  cases agreedToo with
  | true =>
      obtain ⟨same, later⟩ := reached.succeed left.cursor
        (Expr.literalDescriptor text ignoresCase)
      exact ⟨same, later.mono fewer⟩
  | false =>
      have attempted := reached.attempt true left.cursor
        (Expr.literalDescriptor text ignoresCase)
      exact ⟨rfl, (attempted.restore fun _ subset _ =>
        subset List.mem_cons_self).mono fewer⟩

theorem Aligned.matchChar (aligned : Aligned session stance known left right)
    (accepts : Char → Bool) (descriptor : String) :
    (right.matchChar (session.taking stance) accepts descriptor).1 =
        (left.matchChar session accepts descriptor).1 ∧
      Aligned session stance known
        (left.matchChar session accepts descriptor).2
        (right.matchChar (session.taking stance) accepts descriptor).2 := by
  have failed : Aligned session stance known (left.fail descriptor).2
      (right.fail descriptor).2 := by
    unfold ParseState.fail
    rw [aligned.cursor]
    exact aligned.attempt true _ _
  unfold ParseState.matchChar
  rw [aligned.cursor]
  cases current : left.cursor.current with
  | none => exact ⟨rfl, failed⟩
  | some char =>
      dsimp only
      split
      · exact (aligned.read (by simp [current])).succeed _ _
      · exact ⟨rfl, failed⟩

end Matchers

end ParseState

namespace Eval

variable {α σ β γ : Type}

/-- What a program has come to, and what another one has come to under a stance:
the same result, from aligned states; or the other one has stopped, and the
first one has not, unless with something to report. -/
inductive Beside (session : Session α σ) (stance : Stance)
    (known : List Cursor)
    (run runToo : EStateM.Result Interrupt (ParseState α σ) β) : Prop
  | together (value : β) (after later : ParseState α σ)
      (isRun : run = .ok value after) (isRunToo : runToo = .ok value later)
      (aligned : Aligned session stance known after later)
  | apart (parted : ∀ value after, run = .ok value after → after.Parted stance)
      (stopped : ∀ value later, runToo ≠ .ok value later)

/-- A program does beside another one what an evaluation does beside that under
a stance, provided that some cursors are known. -/
structure Aligns (session : Session α σ) (stance : Stance)
    (back : List Cursor) (first second : Eval α σ β) : Prop where
  evolves : Evolves session first
  beside : ∀ known left right, back ⊆ known →
    Aligned session stance known left right →
      Beside session stance known (first left) (second right)

section Programs

variable {session : Session α σ} {stance : Stance} {back known : List Cursor}
  {first second : Eval α σ β}

theorem Beside.mono {fewer : List Cursor}
    {run runToo : EStateM.Result Interrupt (ParseState α σ) β}
    (beside : Beside session stance known run runToo)
    (fewer_subset : fewer ⊆ known) :
    Beside session stance fewer run runToo := by
  cases beside with
  | together value after later isRun isRunToo aligned =>
      exact .together value after later isRun isRunToo
        (aligned.mono fewer_subset)
  | apart parted stopped => exact .apart parted stopped

/-- Programs that go on after two others. -/
theorem Beside.bind {next other : β → Eval α σ γ} {left right : ParseState α σ}
    (beside : Beside session stance known (first left) (second right))
    (evolves : ∀ value, Evolves session (next value))
    (later : ∀ value after afterToo,
      Aligned session stance known after afterToo →
        Beside session stance known (next value after)
          (other value afterToo)) :
    Beside session stance known ((first >>= next) left)
      ((second >>= other) right) := by
  simp only [Bind.bind, EStateM.bind]
  cases beside with
  | together value after afterToo isRun isRunToo aligned =>
      rw [isRun, isRunToo]
      exact later value after afterToo aligned
  | apart parted stopped =>
      refine .apart ?_ ?_
      · intro value final run
        cases isRun : first left with
        | error interrupt after =>
            rw [isRun] at run
            cases run
        | ok middle after =>
            rw [isRun] at run
            have evolved := (evolves middle after).result run
            exact (parted middle after isRun).extends evolved.extends
      · intro value final run
        cases isRunToo : second right with
        | error interrupt after =>
            rw [isRunToo] at run
            cases run
        | ok middle after => exact stopped middle after isRunToo

theorem Aligns.bind {next other : β → Eval α σ γ}
    (aligns : Aligns session stance back first second)
    (later : ∀ value, Aligns session stance back (next value) (other value)) :
    Aligns session stance back (first >>= next) (second >>= other) where
  evolves := aligns.evolves.bind fun value => (later value).evolves
  beside known left right subset aligned :=
    (aligns.beside known left right subset aligned).bind
      (fun value => (later value).evolves)
      fun value after afterToo reached =>
        (later value).beside known after afterToo subset reached

theorem aligns_pure (result : β) :
    Aligns session stance back (pure result) (pure result) where
  evolves := evolves_pure result
  beside _ left right _ aligned := .together result left right rfl rfl aligned

/-- Where depth runs out, both stop. -/
theorem aligns_exhausted :
    Aligns session stance back (throw .exhausted : Eval α σ β)
      (throw .exhausted) where
  evolves _ := trivial
  beside _ left right _ _ := by
    have stopped (state : ParseState α σ) (value : β) (after : ParseState α σ) :
        EStateM.Result.error Interrupt.exhausted state ≠ .ok value after := by
      intro same
      cases same
    exact .apart (fun value after run => absurd run (stopped left value after))
      (stopped right)

/-- A cursor that is looked at is known from then on. -/
theorem aligns_cursor {next other : Cursor → Eval α σ β}
    (later : ∀ start, Aligns session stance (start :: back) (next start)
      (other start)) :
    Aligns session stance back (cursor >>= next) (cursor >>= other) where
  evolves := evolves_cursor.bind fun start => (later start).evolves
  beside known left right subset aligned := by
    have looked := (later left.cursor).beside (left.cursor :: known) left right
      (List.cons_subset_cons _ subset) aligned.here
    have same : (cursor >>= other) right = other left.cursor right :=
      congrArg (other · right) aligned.cursor
    rw [same]
    exact looked.mono (List.subset_cons_self _ _)

theorem aligns_modify {change changeToo : ParseState α σ → ParseState α σ}
    (changes : ∀ state, Change session state (change state))
    (align : ∀ known left right, back ⊆ known →
      Aligned session stance known left right →
        Aligned session stance known (change left) (changeToo right)) :
    Aligns session stance back (modify change) (modify changeToo) where
  evolves := evolves_modify changes
  beside known left right subset aligned :=
    .together .unit _ _ rfl rfl (align known left right subset aligned)

theorem aligns_of_sight {change : ParseState α σ → ParseState α σ}
    (changes : ∀ state, Change session state (change state))
    (unattributed : Unattributed change)
    (sight : ∀ state, (change state).sight = state.sight) :
    Aligns session stance back (modify change) (modify change) :=
  aligns_modify changes fun _ _ _ _ aligned =>
    aligned.of_sight unattributed sight

theorem aligns_restore {start : Cursor} (isKnown : start ∈ back) :
    Aligns session stance back (modify (ParseState.restore session start))
      (modify (ParseState.restore (session.taking stance) start)) :=
  aligns_modify (.restore start) fun _ _ _ subset aligned =>
    aligned.restore fun _ known _ => known (subset isKnown)

theorem aligns_modifyGet
    {change changeToo : ParseState α σ → β × ParseState α σ}
    (evolved : ∀ state, Evolved session state (change state).2)
    (align : ∀ known left right, Aligned session stance known left right →
      (changeToo right).1 = (change left).1 ∧
        Aligned session stance known (change left).2 (changeToo right).2) :
    Aligns session stance back (modifyGet change) (modifyGet changeToo) where
  evolves := evolves_modifyGet evolved
  beside known left right _ aligned := by
    obtain ⟨same, later⟩ := align known left right aligned
    exact .together _ _ _ rfl
      (congrArg (EStateM.Result.ok · (changeToo right).2) same) later

/-- Programs that run between two changes of the state. -/
theorem aligns_between {enter leave enterToo leaveToo : Eval α σ PUnit}
    (enters : Aligns session stance back enter enterToo)
    (aligns : Aligns session stance back first second)
    (leaves : Aligns session stance back leave leaveToo) :
    Aligns session stance back
      (do
        enter
        let result ← first
        leave
        return result)
      (do
        enterToo
        let result ← second
        leaveToo
        return result) :=
  enters.bind fun _ => aligns.bind fun _ => leaves.bind fun _ => aligns_pure _

theorem aligns_inScope (aligns : Aligns session stance back first second) :
    Aligns session stance back (inScope first) (inScope second) :=
  aligns_between
    (aligns_of_sight .pushScope (fun _ _ _ => ⟨rfl, _, rfl⟩) fun _ => rfl)
    aligns
    (aligns_of_sight .popScope (fun _ _ _ => ⟨rfl, _, rfl⟩) fun _ => rfl)

theorem aligns_underNot (aligns : Aligns session stance back first second) :
    Aligns session stance back (underNot first) (underNot second) :=
  have toggles : Aligns session stance back (modify toggle) (modify toggle) :=
    aligns_of_sight .toggle (fun _ _ _ => ⟨rfl, _, rfl⟩) fun _ => rfl
  aligns_between toggles aligns toggles

theorem aligns_traced (subject : Subject)
    (aligns : Aligns session stance back first second) :
    Aligns session stance back (traced session subject first)
      (traced (session.taking stance) subject second) :=
  aligns_between
    (aligns_of_sight (.enterNode subject)
      (unattributed_enterNode session subject)
      fun state => sight_enterNode session state subject)
    aligns
    (aligns_of_sight (.leaveNode subject)
      (unattributed_leaveNode session subject)
      fun state => sight_leaveNode session state subject)

theorem aligns_inRule (rule : Rule α σ)
    (aligns : Aligns session stance back first second) :
    Aligns session stance back (inRule rule first)
      (inRule (rule.taken stance) second) :=
  aligns_between
    (aligns_modify (.enterRule rule) fun _ _ _ _ aligned =>
      aligned.enterRule rule)
    aligns
    (aligns_modify .leaveRule fun _ _ _ _ aligned => aligned.leaveRule)

/-- Running code, and doing something with the reply.  To the forgiving parse a
complaint is an answer, and to the exacting one it is a failure. -/
theorem aligns_runCode {code : Code α σ β} {answer : β} {start : Cursor}
    {value : Value α} {next other : Except String β → Eval α σ γ}
    (answered : ∀ result,
      Aligns session stance back (next (.ok result)) (other (.ok result)))
    (forgiven : stance = .forgiving → ∀ message,
      Aligns session stance back (next (.error message)) (other (.ok answer)))
    (evolves : ∀ message, Evolves session (next (.error message)))
    (reported : ∀ message state value after,
      next (.error message) state = .ok value after →
        after.diagnostics.toList ≠ []) :
    Aligns session stance back
      (runCode session code start value >>= next)
      (runCode (session.taking stance) (code.taken stance answer) start value
        >>= other) where
  evolves := (evolves_runCode code start value).bind fun
    | .ok result => (answered result).evolves
    | .error message => evolves message
  beside known left right subset aligned := by
    obtain ⟨-, same, -⟩ := id aligned
    have sees : right.context (session.taking stance) start value =
        left.context session start value := by
      rw [same]
      rfl
    have run := runCode_eq session code start value left
    have runToo := runCode_eq (session.taking stance)
      (code.taken stance answer) start value right
    rw [sees] at runToo
    simp only [Code.taken] at runToo
    generalize code (left.context session start value) = given at run runToo
    obtain ⟨reply, store⟩ := given
    have keeps : Aligned session stance known { left with store := store }
        { right with store := store } :=
      aligned.keepStore store
    simp only [Bind.bind, EStateM.bind]
    cases reply with
    | answer result =>
        simp only [Reply.taken] at run runToo
        rw [run, runToo]
        exact (answered result).beside known _ _ subset keeps
    | failure fault =>
        simp only [Reply.taken] at run runToo
        rw [run, runToo]
        refine .apart (fun _ _ isRun => ?_) (fun _ _ isRun => ?_) <;>
          cases isRun
    | complaint message =>
        cases stance with
        | forgiving =>
            simp only [Reply.taken] at run runToo
            rw [run, runToo]
            exact (forgiven rfl message).beside known _ _ subset keeps
        | exacting =>
            simp only [Reply.taken] at run runToo
            rw [run, runToo]
            exact .apart (fun value after isRun =>
              ⟨rfl, reported message _ value after isRun⟩)
              fun _ _ isRun => by cases isRun

end Programs

section Verdicts

variable {session : Session α σ} {stance : Stance} {back : List Cursor}
  {first second : Eval α σ (Verdict α)}

theorem aligns_lookahead
    (aligns : ∀ back, Aligns session stance back first second) :
    Aligns session stance back (lookahead session first)
      (lookahead (session.taking stance) second) :=
  aligns_cursor fun _ => (aligns_inScope (aligns _)).bind fun _ =>
    (aligns_restore List.mem_cons_self).bind fun _ => aligns_pure _

theorem aligns_counted (expr : Expr α σ)
    (aligns : Aligns session stance back first second) :
    Aligns session stance back (counted session expr first)
      (counted (session.taking stance) (expr.taken stance) second) where
  evolves := evolves_counted expr aligns.evolves
  beside known left right subset aligned := by
    have counted : Aligned session stance known left.countExpression
        right.countExpression :=
      aligned.of_sight (fun _ _ _ => ⟨rfl, _, rfl⟩) fun _ => rfl
    have sameTest : right.countExpression.overLimit (session.taking stance) =
        left.countExpression.overLimit session := by
      rw [counted.same]
      rfl
    rw [counted_run, counted_run, sameTest, Expr.kindName_taken]
    split
    · exact .together _ _ _ rfl rfl counted
    · exact (aligns_traced _ aligns).beside known _ _ subset counted

theorem aligns_memoized (enabled : Bool) (node : NodeKey)
    (aligns : Aligns session stance back first second) :
    Aligns session stance back (memoized session enabled node first)
      (memoized (session.taking stance) enabled node second) where
  evolves := evolves_memoized enabled node aligns.evolves
  beside known left right subset aligned := by
    have sameKey : right.memoKey node = left.memoKey node := by
      rw [aligned.same]
      rfl
    have sameEntry : right.memo.lookup (left.memoKey node) =
        left.memo.lookup (left.memoKey node) := by
      rw [aligned.same]
      rfl
    cases enabled with
    | false => exact aligns.beside known left right subset aligned
    | true =>
        cases found : left.memo.lookup (left.memoKey node) with
        | some entry =>
            have replayed := aligned.restore fun _ _ sighted =>
              sighted.memo _ _ found
            exact .together _ _ _ (memoized_of_kept found)
              (memoized_of_kept (sameKey ▸ sameEntry.trans found)) replayed
        | none =>
            rw [memoized_of_not_kept found,
              memoized_of_not_kept (sameKey ▸ sameEntry.trans found), sameKey]
            refine (aligns.beside known left right subset aligned).bind ?_ ?_
            · intro verdict state
              cases verdict with
              | matched value => exact .single (.remember _ _ state)
              | unmatched => exact .single (.remember _ _ state)
              | aborted error => exact .refl
            · intro verdict after later reached
              exact .together _ _ _ rfl rfl (reached.rememberVerdict _ verdict)

theorem aligns_visit (place : ExprPlace) (expr : Expr α σ)
    (aligns : Aligns session stance back first second) :
    Aligns session stance back (visit session place expr first)
      (visit (session.taking stance) place (expr.taken stance) second) := by
  unfold visit
  rw [Expr.usesScope_taken]
  exact aligns_memoized _ _ (aligns_counted expr aligns)

theorem aligns_traceMatch (start : Cursor) :
    Aligns session stance back
      (modify (ParseState.traceMatch session start))
      (modify (ParseState.traceMatch (session.taking stance) start)) :=
  aligns_of_sight (.traceMatch start) (unattributed_traceMatch session start)
    fun state => sight_traceMatch session state start

theorem aligns_runRule (rule : Rule α σ)
    (aligns : ∀ back, Aligns session stance back first second) :
    Aligns session stance back (runRule session rule first)
      (runRule (session.taking stance) (rule.taken stance) second) := by
  refine aligns_cursor fun start =>
    (aligns_traced _ (aligns_inRule rule (aligns _))).bind fun verdict => ?_
  cases verdict with
  | matched value =>
      exact (aligns_traceMatch start).bind fun _ => aligns_pure _
  | unmatched => exact aligns_pure _
  | aborted error => exact aligns_pure _

/-- The report of a complaint is all that a forgiving parse lacks. -/
theorem aligns_complain {message : String}
    {complain : ParseState α σ → ParseState α σ} (verdict : Verdict α)
    (forgiving : stance = .forgiving)
    (complains : ∀ state, Change session state (complain state))
    (place : ∀ known left, back ⊆ known → ∃ cursor ∈ left.cursor :: known,
      complain left = left.report session (.semantic message)
        cursor.position) :
    Aligns session stance back
      (do
        modify complain
        return verdict)
      (pure verdict) where
  evolves := (evolves_modify complains).bind fun _ => evolves_pure _
  beside known left right subset aligned := by
    obtain ⟨cursor, isKnown, same⟩ := place known left subset
    refine .together verdict (complain left) right rfl rfl ?_
    rw [same]
    exact (aligned.here.complain forgiving message isKnown).mono
      (List.subset_cons_self _ _)

theorem aligns_evalAction (run : Action α σ)
    (aligns : ∀ back, Aligns session stance back first second) :
    Aligns session stance back (evalAction session run first)
      (evalAction (session.taking stance) (Code.taken stance .nil run)
        second) := by
  refine aligns_cursor fun start => (aligns _).bind fun verdict => ?_
  cases verdict with
  | matched value =>
      refine aligns_runCode ?_ ?_ ?_ ?_
      · exact fun result => (aligns_traceMatch start).bind fun _ =>
          aligns_pure _
      · exact fun forgiving message => (aligns_traceMatch start).bind fun _ =>
          aligns_complain _ forgiving (.complain message start.position)
            fun known left subset =>
              ⟨start, .tail _ (subset List.mem_cons_self), rfl⟩
      · exact fun message => (evolves_modify (.traceMatch start)).bind fun _ =>
          (evolves_modify (.complain message start.position)).bind fun _ =>
            evolves_pure _
      · rintro message state _ _ ⟨⟩
        exact Diagnostics.ne_nil_push
  | unmatched => exact aligns_pure _
  | aborted error => exact aligns_pure _

theorem aligns_evalPredicate (test : Predicate α σ) (expected : Bool) :
    Aligns session stance back (evalPredicate session test expected)
      (evalPredicate (session.taking stance) (Code.taken stance expected test)
        expected) := by
  have complains : ∀ message (state : ParseState α σ), Change session state
      (state.reportHere session (.semantic message)) :=
    fun message state => .complain message state.cursor.position state
  refine aligns_cursor fun start => aligns_runCode ?_ ?_ ?_ ?_
  · intro holds
    dsimp only
    split <;> exact aligns_pure _
  · intro forgiving message
    simp only [if_true]
    exact aligns_complain _ forgiving (complains message)
      fun known left _ => ⟨left.cursor, .head _, rfl⟩
  · exact fun message => (evolves_modify (complains message)).bind fun _ =>
      evolves_pure _
  · rintro message state _ _ ⟨⟩
    exact Diagnostics.ne_nil_push

end Verdicts

section Members

variable {session : Session α σ} {stance : Stance}
  {evaluate evaluateToo : ExprPlace → Expr α σ → Eval α σ (Verdict α)}
  (members : ∀ back place expr, Aligns session stance back
    (evaluate place expr) (evaluateToo place (expr.taken stance)))
include members

theorem evalSequence_aligns {back : List Cursor} (place : ExprPlace)
    {start : Cursor} (isKnown : start ∈ back) (index : Nat)
    (values : List (Value α)) (exprs : List (Expr α σ)) :
    Aligns session stance back
      (evalSequence session evaluate place start index values exprs)
      (evalSequence (session.taking stance) evaluateToo place start index
        values (Expr.allTaken stance exprs)) := by
  induction exprs generalizing index values with
  | nil => exact aligns_pure _
  | cons expr exprs ih =>
      refine (members _ _ _).bind fun verdict => ?_
      cases verdict with
      | matched value => exact ih _ _
      | unmatched =>
          exact (aligns_restore isKnown).bind fun _ => aligns_pure _
      | aborted error => exact aligns_pure _

theorem evalChoice_aligns {back : List Cursor} (place : ExprPlace)
    (index : Nat) (exprs : List (Expr α σ)) :
    Aligns session stance back (evalChoice evaluate place index exprs)
      (evalChoice evaluateToo place index (Expr.allTaken stance exprs)) := by
  induction exprs generalizing index with
  | nil => exact aligns_pure _
  | cons expr exprs ih =>
      refine (aligns_inScope (members _ _ _)).bind fun verdict => ?_
      cases verdict with
      | matched value => exact aligns_pure _
      | unmatched => exact ih _
      | aborted error => exact aligns_pure _

omit members in
theorem evalRounds_aligns {back : List Cursor}
    {body bodyToo : Eval α σ (Verdict α)}
    (aligns : ∀ back, Aligns session stance back body bodyToo) (rounds : Nat)
    (values : List (Value α)) :
    Aligns session stance back (evalRounds body rounds values)
      (evalRounds bodyToo rounds values) := by
  induction rounds generalizing back values with
  | zero =>
      exact aligns_exhausted
  | succ rounds ih =>
      refine aligns_cursor fun start =>
        (aligns_inScope (aligns _)).bind fun verdict => ?_
      cases verdict with
      | matched value =>
          refine aligns_cursor fun finish => ?_
          split
          · exact aligns_pure _
          · exact ih _
      | unmatched => exact aligns_pure _
      | aborted error => exact aligns_pure _

omit members in
theorem evalRepetition_aligns {back : List Cursor}
    {body bodyToo : Eval α σ (Verdict α)}
    (aligns : ∀ back, Aligns session stance back body bodyToo)
    (required : Nat) :
    Aligns session stance back (evalRepetition session required body)
      (evalRepetition (session.taking stance) required bodyToo) := by
  refine aligns_cursor fun start =>
    (evalRounds_aligns aligns _ _).bind fun result => ?_
  cases result with
  | ok values =>
      dsimp only
      split <;> exact aligns_pure _
  | error error => exact aligns_pure _

theorem evalRule_aligns {back : List Cursor} (rule : Rule α σ) (index : Nat) :
    Aligns session stance back (evalRule session evaluate rule index)
      (evalRule (session.taking stance) evaluateToo (rule.taken stance)
        index) :=
  aligns_memoized _ _ (aligns_runRule rule fun _ => members _ _ _)

theorem evalReference_aligns {back : List Cursor} (name : String) :
    Aligns session stance back (evalReference session evaluate name)
      (evalReference (session.taking stance) evaluateToo name) := by
  have sameTarget : (session.taking stance).grammar.target? name =
      (session.grammar.target? name).map (Prod.map (Rule.taken stance) id) :=
    session.grammar.target?_taken stance name
  unfold evalReference
  rw [sameTarget]
  split
  · exact aligns_pure _
  · cases session.grammar.target? name with
    | none => exact aligns_pure _
    | some target => exact evalRule_aligns members target.1 target.2

/-- An expression is evaluated beside the one under a stance if its members
are. -/
theorem evalNode_aligns {back : List Cursor} (place : ExprPlace)
    (expr : Expr α σ) :
    Aligns session stance back (evalNode session evaluate place expr)
      (evalNode (session.taking stance) evaluateToo place
        (expr.taken stance)) := by
  cases expr with
  | literal text ignoresCase =>
      exact aligns_modifyGet (evolved_matchLiteral text ignoresCase)
        fun _ _ _ aligned => aligned.matchLiteral text ignoresCase
  | oneOf charClass =>
      exact aligns_modifyGet (evolved_matchChar _ _)
        fun _ _ _ aligned => aligned.matchChar _ _
  | any =>
      exact aligns_modifyGet (evolved_matchChar _ _)
        fun _ _ _ aligned => aligned.matchChar _ _
  | sequence exprs =>
      exact aligns_cursor fun start =>
        evalSequence_aligns members place List.mem_cons_self 0 [] exprs
  | choice exprs => exact evalChoice_aligns members place 0 exprs
  | zeroOrMore body => exact evalRepetition_aligns (members · _ _) 0
  | oneOrMore body => exact evalRepetition_aligns (members · _ _) 1
  | optional body =>
      refine (aligns_inScope (members _ _ _)).bind fun verdict => ?_
      cases verdict <;> exact aligns_pure _
  | followedBy body =>
      refine (aligns_lookahead (members · _ _)).bind fun verdict => ?_
      cases verdict <;> exact aligns_pure _
  | notFollowedBy body =>
      refine (aligns_lookahead fun _ =>
        aligns_underNot (members _ _ _)).bind fun verdict => ?_
      cases verdict <;> exact aligns_pure _
  | labeled label body =>
      refine (aligns_inScope (members _ _ _)).bind fun verdict => ?_
      cases verdict with
      | matched value =>
          exact (aligns_of_sight (.bind label value)
            (unattributed_bind label value)
            fun state => sight_bind state label value).bind fun _ =>
              aligns_pure _
      | unmatched => exact aligns_pure _
      | aborted error => exact aligns_pure _
  | reference name => exact evalReference_aligns members name
  | action body run => exact aligns_evalAction run (members · _ _)
  | require test => exact aligns_evalPredicate test true
  | forbid test => exact aligns_evalPredicate test false

end Members

/-- Evaluation goes on beside the evaluation under a stance. -/
theorem evalExpr_aligns (session : Session α σ) (stance : Stance) (depth : Nat)
    (back : List Cursor) (place : ExprPlace) (expr : Expr α σ) :
    Aligns session stance back (evalExpr session depth place expr)
      (evalExpr (session.taking stance) depth place (expr.taken stance)) := by
  induction depth generalizing back place expr with
  | zero => exact aligns_exhausted
  | succ depth ih => exact aligns_visit _ _ (evalNode_aligns ih place expr)

end Eval

namespace Session

variable {α σ : Type} {session : Session α σ} {stance : Stance}

/-- Before the entry rule there is nothing to complain of. -/
theorem aligned_opening (session : Session α σ) (stance : Stance) :
    Aligned session stance [] session.opening
      (session.taking stance).opening := by
  have blameless : ∀ diagnostic ∈ session.opening.diagnostics.toList,
      diagnostic.kind ≠ .semantic := by
    intro diagnostic reported
    rw [opening, read_eq] at reported
    dsimp only at reported
    split at reported
    · rcases mem_push reported with earlier | rfl
      · cases earlier
      · intro isSemantic
        cases isSemantic
    · cases reported
  refine ⟨⟨_, List.nil_subset _, session.sighted_opening⟩, ?_, fun _ =>
    blameless⟩
  rw [Diagnostics.without_eq_self blameless, taken, activeRules_opening]
  exact congrArg (fun rules => { session.opening with activeRules := rules })
    session.activeRules_opening

/-- The evaluation of the entry rule goes on beside the one under a stance. -/
theorem entering_beside (session : Session α σ) (stance : Stance) (depth : Nat)
    (entry : Rule α σ) :
    Eval.Beside session stance [] (session.entering depth entry)
      ((session.taking stance).entering depth (entry.taken stance)) :=
  have aligns : Eval.Aligns session stance []
      (Eval.evalRule session (Eval.evalExpr session depth) entry 0)
      (Eval.evalRule (session.taking stance)
        (Eval.evalExpr (session.taking stance) depth) (entry.taken stance) 0) :=
    Eval.evalRule_aligns (Eval.evalExpr_aligns session stance depth) entry 0
  aligns.beside [] _ _ (List.nil_subset _) (session.aligned_opening stance)

end Session

end PegEngine
