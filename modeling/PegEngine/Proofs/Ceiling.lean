import PegEngine.Proofs.Termination

/-!
# The limit on expressions

With a limit on the number of expressions every parse ends, whether or not the
grammar is left recursive: each level of nesting counts an expression, so a
depth beyond the limit suffices (`Eval.evalExpr_settles_of_limit`).  The number
that is reported exceeds the limit by one at most, exactly if the parse was
given up, and then the last diagnostic says so (`Session.KeepsTo`).  That
diagnostic is never taken for a repetition of an earlier one, since it is the
only one, apart from the report of a malformed first byte, that does not name a
rule.
-/

namespace PegEngine

open ParseState

namespace Position

/-- The closing parenthesis of a position stands at the end of it only. -/
theorem parenthesized_eq (position : Position) :
    ∃ chars : List Char, ')' ∉ chars ∧
      position.parenthesized.toList = chars ++ [')'] := by
  have digits : ∀ number : Nat, ')' ∉ Nat.toDigits 10 number := by
    intro number isDigit
    have digit := Nat.isDigit_of_mem_toDigits (by decide) (by decide) isDigit
    cases digit
  refine ⟨(toString position.line ++ ":" ++ toString position.column ++ " (" ++
    toString position.offset).toList, ?_, ?_⟩
  · simp [digits]
  · simp [parenthesized]

/-- What follows a position can be told from the whole. -/
theorem parenthesized_cancel {first second : Position} {left right : String}
    (same : first.parenthesized ++ left = second.parenthesized ++ right) :
    left = right := by
  obtain ⟨chars, noParenthesis, isFirst⟩ := first.parenthesized_eq
  obtain ⟨others, noneEither, isSecond⟩ := second.parenthesized_eq
  have sameChars := congrArg String.toList same
  simp only [String.toList_append, isFirst, isSecond, List.append_assoc]
    at sameChars
  have behind : ∀ {before after : List Char}, ')' ∉ before →
      (before ++ ([')'] ++ after)).dropWhile (· ≠ ')') = ')' :: after := by
    intro before after none
    rw [List.dropWhile_append_of_pos]
    · simp
    · intro char isChar
      simpa using fun same : char = ')' => none (same ▸ isChar)
  have rest := congrArg (List.dropWhile (· ≠ ')')) sameChars
  rw [behind noParenthesis, behind noneEither] at rest
  exact String.toList_inj.mp (List.cons.inj rest).2

end Position

theorem Session.placeText_cancel {α σ : Type} (session : Session α σ)
    {first second : Position} {left right : String}
    (same : session.placeText first ++ left =
      session.placeText second ++ right) : left = right := by
  simp only [placeText, String.append_assoc, String.append_right_inj] at same
  exact Position.parenthesized_cancel same

/-- A diagnostic that is attributed to a rule does not read like the report that
ends an evaluation. -/
theorem Diagnostic.Attributed.render_ne {α σ : Type} {session : Session α σ}
    {diagnostic : Diagnostic} (attributed : diagnostic.Attributed session)
    (position : Position) :
    diagnostic.render ≠
      session.placeText position ++
        (": " ++ ParseError.maxExpressions.message) := by
  intro same
  have third : ∀ {text other : String},
      session.placeText diagnostic.position ++ text =
        session.placeText position ++ other →
      text.toList[2]? = other.toList[2]? := fun equal => by
    rw [session.placeText_cancel equal]
  have wording : ParseError.maxExpressions.message =
      "max number of expressions parsed" := rfl
  unfold render at same
  rcases attributed with ⟨rule, location⟩ | ⟨location, error⟩
  · simp only [location, String.append_assoc] at same
    simpa [wording] using third same
  · have other : diagnostic.message = "invalid encoding" := by
      rw [message, error]
      rfl
    simp only [location, other, String.append_assoc] at same
    simpa [wording] using third same

namespace Eval

variable {α σ : Type} {session : Session α σ}

/-- The expressions that may still be counted bound the depth of nesting. -/
theorem evalExpr_settles_of_limit {limit : Nat}
    (limited : session.options.maxExpressions = some limit)
    (valid : session.grammar.error? = none) (depth : Nat) {place : ExprPlace}
    {expr : Expr α σ} {state : ParseState α σ}
    (found : session.grammar.exprAt? place = some expr)
    (ready : state.Ready session) (runs : state.Runs session place.rule)
    (enough : limit < depth + state.expressions) :
    Settles session False expr.bindsLabels
      (session.grammar.Spans session.input expr state.cursor.offset)
      state.cursor (evalExpr session depth place expr) state := by
  induction depth generalizing place expr state with
  | zero =>
      have within := ready.within limit limited
      omega
  | succ depth ih =>
      exact evalExpr_succ_settles valid found ready runs
        fun callee called inner calls ready runs counted =>
          ih (calls.placed found) ready runs (by omega)

end Eval

namespace ParseState

variable {α σ : Type} {session : Session α σ} {state : ParseState α σ}

theorem expressions_reportNoMatch :
    (state.reportNoMatch session).expressions = state.expressions := by
  unfold reportNoMatch
  split <;> rfl

/-- The report that ends an evaluation is always new. -/
theorem toList_reportAbort (sound : state.Sound session)
    (noRule : state.activeRules = []) :
    (state.reportAbort session .maxExpressions).diagnostics.toList =
      state.diagnostics.toList ++ [⟨state.cursor.position,
        session.placeText state.cursor.position, .maxExpressions⟩] := by
  have location : state.location session state.cursor.position =
      session.placeText state.cursor.position :=
    location_of_noRule noRule _
  have pushed : (state.reportAbort session .maxExpressions).diagnostics =
      state.diagnostics.push ⟨state.cursor.position,
        session.placeText state.cursor.position, .maxExpressions⟩ := by
    rw [← location]
    rfl
  rw [pushed, Diagnostics.push, if_neg]
  simp only [List.any_eq_true, beq_iff_eq, not_exists, not_and]
  intro diagnostic reported same
  apply (sound.reports diagnostic reported).render_ne state.cursor.position
  rw [same, Diagnostic.render, String.append_assoc]
  rfl

theorem getLast?_reportAbort (sound : state.Sound session)
    (noRule : state.activeRules = []) :
    (state.reportAbort session .maxExpressions).diagnostics.toList.getLast? =
      some ⟨state.cursor.position, session.placeText state.cursor.position,
        .maxExpressions⟩ := by
  simp [toList_reportAbort sound noRule]

end ParseState

namespace Session

variable {α σ : Type} {session : Session α σ}

/-- The evaluation of the entry rule, with the depth that a limit makes
sufficient, keeps to the discipline. -/
theorem entering_settles_of_limit {limit : Nat} {entry : Rule α σ}
    (limited : session.options.maxExpressions = some limit)
    (starts : session.grammar.start? = some entry)
    (valid : session.grammar.error? = none) :
    Eval.Settles session False false
      (session.grammar.Spans session.input entry.body
        session.opening.cursor.offset)
      session.opening.cursor
      (Eval.evalRule session (Eval.evalExpr session (limit + 1)) entry 0)
      session.opening := by
  have isRule := Grammar.entry_of_start? starts
  exact Eval.evalRule_settles isRule session.opening_ready
    fun inner _ ready runs _ => Eval.evalExpr_settles_of_limit limited valid
      (limit + 1) (Grammar.exprAt?_body isRule) ready runs (by omega)

/-- A result keeps to a limit on expressions: the number exceeds it by one at
most, exactly if the parse was given up; then there is no value, and the last
diagnostic reports it. -/
structure KeepsTo (session : Session α σ) (limit : Nat) (parsed : Parsed α) :
    Prop where
  atMost : parsed.expressions ≤ limit + 1
  passed : parsed.expressions = limit + 1 ↔ session.Aborts
  noValue : session.Aborts → parsed.value = none
  reported : session.Aborts →
    ∃ last, parsed.diagnostics.toList.getLast? = some last ∧
      last.error = .maxExpressions

theorem keepsTo_of_not_aborts {limit : Nat} {parsed : Parsed α}
    (within : parsed.expressions ≤ limit) (goesOn : ¬ session.Aborts) :
    session.KeepsTo limit parsed where
  atMost := Nat.le_succ_of_le within
  passed := ⟨fun passed => by omega, fun aborts => absurd aborts goesOn⟩
  noValue aborts := absurd aborts goesOn
  reported aborts := absurd aborts goesOn

/-- With a limit on expressions, and with faults contained, every parse ends
with a result that keeps to the limit. -/
theorem gives_within_limit {limit : Nat}
    (limited : session.options.maxExpressions = some limit)
    (recovers : session.options.recover = true) :
    ∃ parsed log, session.Gives ⟨.parsed parsed, log⟩ ∧
      session.KeepsTo limit parsed := by
  cases valid : session.grammar.error? with
  | some error =>
      obtain ⟨entry, gives⟩ := gives_of_invalid valid
      refine ⟨_, _, gives, keepsTo_of_not_aborts (Nat.zero_le _) ?_⟩
      rintro ⟨_, _, _, _, _, accepted, _⟩
      cases valid.symm.trans accepted
  | none =>
      obtain ⟨entry, starts⟩ := Grammar.start?_of_valid valid
      have settles := entering_settles_of_limit limited starts valid
      have aborts := aborts_iff starts valid settles.not_exhausted
      have gives : ∀ report,
          session.reportOn (session.entering (limit + 1) entry) =
            some report → session.Gives report :=
        fun report isReport => (gives_iff starts valid).mpr ⟨_, isReport⟩
      rcases run : session.entering (limit + 1) entry with
        ⟨verdict, after⟩ | ⟨interrupt, after⟩
      all_goals rw [run] at gives aborts
      · have settled := settles.result run
        cases verdict with
        | matched value =>
            have within := settled.describes.2 limit limited
            exact ⟨_, _, gives _ rfl,
              keepsTo_of_not_aborts within (by simp [aborts])⟩
        | unmatched =>
            have within := settled.describes.2 limit limited
            refine ⟨_, _, gives _ rfl,
              keepsTo_of_not_aborts ?_ (by simp [aborts])⟩
            rwa [expressions_reportNoMatch]
        | aborted error =>
            obtain ⟨rfl, same, isLimit, passed⟩ := settled.describes
            obtain rfl := Option.some.inj (limited.symm.trans isLimit)
            have given : session.Aborts := aborts.mpr ⟨_, _, rfl⟩
            have noRule : after.activeRules = [] :=
              settled.balanced.activeRules.trans session.activeRules_opening
            exact ⟨_, _, gives _ rfl, Nat.le_of_eq passed,
              iff_of_true passed given, fun _ => rfl, fun _ =>
                ⟨_, getLast?_reportAbort settled.sound noRule, rfl⟩⟩
      · cases interrupt with
        | exhausted => exact absurd run (settles.not_exhausted after)
        | fault fault =>
            have within := settles.fault run limit limited
            exact ⟨_, _, gives _ (by simp only [reportOn, recovers]; rfl),
              keepsTo_of_not_aborts within (by simp [aborts])⟩

end Session

namespace Grammar

/-- A grammar whose only rule runs itself. -/
def endless : Grammar Unit := ⟨[⟨"Loop", "", .reference "Loop"⟩]⟩

/-- A parse with a grammar that never comes to a verdict. -/
def endlessSession : Session Unit :=
  .ofSettings endless "loop" "ab".toUTF8
    [.maxExpressions (some 3), .memoize true]

/-- Three expressions are counted, and the fourth one ends the parse. -/
theorem endless_gives :
    endlessSession.options.maxExpressions = some 3 ∧
      endlessSession.options.recover = true ∧ endlessSession.Aborts ∧
      ∃ parsed log, endlessSession.Gives ⟨.parsed parsed, log⟩ ∧
        endlessSession.KeepsTo 3 parsed :=
  ⟨rfl, rfl, ⟨_, 5, _, _, rfl, rfl, rfl⟩,
    Session.gives_within_limit rfl rfl⟩

end Grammar

end PegEngine
