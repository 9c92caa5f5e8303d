import PegEngine.Proofs.Readings

/-!
# Evaluation is sound

Without memoization and without a limit, every verdict that the evaluator comes
to can be derived in the semantics (`Eval.evalExpr_sound`).  So neither the one
cursor that evaluation moves back and forth nor the labels that failed attempts
leave in their frames can be observed.
-/

namespace PegEngine

open ParseState

namespace Eval

variable {α σ : Type} {session : Session α σ} {place : ExprPlace} {start : Nat}
  {labels : Frame α} {store : Store σ} {state : ParseState α σ}

/-- Every reading that evaluation to some depth comes to can be derived. -/
def SoundTo (session : Session α σ) (depth : Nat) : Prop :=
  ∀ (place : ExprPlace) (expr : Expr α σ) (start : Nat) (labels : Frame α)
    (store : Store σ) (state : ParseState α σ),
    session.grammar.exprAt? place = some expr →
      Poised session place.rule start labels store state →
        Comes True
          (session.grammar.Derives session.input expr start labels store)
          (evalExpr session depth place expr) state

/-- The reading of a list of which some values have been found before (the last
one first). -/
def Behind (values : List (Value α)) (derives : Reading α σ → Prop) :
    Reading α σ → Prop
  | .fails last => derives (.fails last)
  | .succeeds value finish bound last =>
    ∃ found, value = .list (values.reverse ++ found) ∧
      derives (.succeeds (.list found) finish bound last)

variable {depth : Nat}

theorem evalSequence_sound (valid : session.grammar.error? = none)
    (sound : SoundTo session depth) {exprs : List (Expr α σ)} {index : Nat}
    (lists : session.grammar.Lists place index exprs)
    (values : List (Value α)) (back : Cursor)
    (poised : Poised session place.rule start labels store state) :
    Comes True
      (Behind values (session.grammar.Derives session.input (.sequence exprs)
        start labels store))
      (evalSequence session (evalExpr session depth) place back index values
        exprs) state := by
  induction exprs generalizing index values start labels store state with
  | nil =>
      refine ⟨_, rfl, [], by simp, ?_⟩
      rw [poised.offset, poised.labels, poised.store]
      exact .sequenceNil _ _ _
  | cons expr exprs ih =>
      apply comes_sequence_cons valid lists.head poised
        (sound _ _ _ _ _ _ lists.head poised) (fun last => .sequenceFails)
      intro value middle bound next inner first poised
      apply (ih lists.tail (value :: values) poised).mono
      intro reading later
      cases reading with
      | fails last => exact .sequenceLaterFails first later
      | succeeds =>
          obtain ⟨found, rfl, later⟩ := later
          exact ⟨value :: found, by simp, .sequenceCons first later⟩

theorem evalChoice_sound (valid : session.grammar.error? = none)
    (sound : SoundTo session depth) {exprs : List (Expr α σ)} {index : Nat}
    (lists : session.grammar.Lists place index exprs)
    (poised : Poised session place.rule start labels store state) :
    Comes True
      (session.grammar.Derives session.input (.choice exprs) start labels store)
      (evalChoice (evalExpr session depth) place index exprs) state := by
  induction exprs generalizing index store state with
  | nil =>
      refine ⟨_, rfl, ?_⟩
      rw [poised.store]
      exact .choiceNil _ _ _
  | cons expr exprs ih =>
      apply comes_choice_cons valid lists.head poised
        (fun inner => sound _ _ _ _ _ inner lists.head)
        (fun value finish bound last => .choiceFirst)
      intro next inner first poised
      exact (ih lists.tail poised).mono fun reading => .choiceLater first

theorem evalRounds_sound (valid : session.grammar.error? = none)
    (sound : SoundTo session depth) {body : Expr α σ}
    (found : session.grammar.exprAt? (place.member 0) = some body)
    (rounds : Nat) (values : List (Value α))
    (poised : Poised session place.rule start labels store state) :
    Ends (evalRounds (evalExpr session depth (place.member 0) body) rounds
        values)
      (fun result after => Reads
        (fun reading => ∃ found finish last,
          reading = .succeeds (.list (values.reverse ++ found)) finish labels
            last ∧
          session.grammar.Derives session.input (.zeroOrMore body) start labels
            store (.succeeds (.list found) finish labels last))
        (ofRounds result) after)
      (fun _ => True) True state := by
  induction rounds generalizing values start store state with
  | zero => trivial
  | succ rounds ih =>
      refine comes_rounds_succ valid found poised
        (fun inner => sound _ _ _ _ _ inner found) ?_ ?_ ?_
      · intro last fails
        exact ⟨[], _, _, by simp, .zeroOrMoreEnds fails⟩
      · intro value bound last stays
        exact ⟨[value], _, _, by simp, .zeroOrMoreStays stays⟩
      · intro value middle bound next inner first moves poised
        apply Ends.mono_result (ih (value :: values) poised)
        rintro result after
          ⟨reading, isReading, found, finish, last, same, later⟩
        exact ⟨reading, isReading, value :: found, finish, last, by simp [same],
          .zeroOrMoreCons first moves later⟩

theorem evalNode_sound (valid : session.grammar.error? = none)
    (unmemoized : session.options.memoize = false)
    (sound : SoundTo session depth) {expr : Expr α σ}
    (found : session.grammar.exprAt? place = some expr)
    (poised : Poised session place.rule start labels store state) :
    Comes True
      (session.grammar.Derives session.input expr start labels store)
      (evalNode session (evalExpr session depth) place expr) state := by
  cases expr with
  | literal text ignoresCase =>
      apply (comes_literal text ignoresCase poised).mono
      rintro _ (⟨finish, spelled, rfl⟩ | ⟨differs, rfl⟩)
      · exact .literal spelled
      · exact .literalFails differs
  | oneOf charClass =>
      apply (comes_matchChar _ _ poised).mono
      rintro _ (⟨char, read, accepted, rfl⟩ | ⟨rejected, rfl⟩)
      · exact .oneOf read accepted
      · exact .oneOfFails rejected
  | any =>
      apply (comes_matchChar _ _ poised).mono
      rintro _ (⟨char, read, -, rfl⟩ | ⟨rejected, rfl⟩)
      · exact .any read
      · refine .anyFails (Option.eq_none_iff_forall_ne_some.mpr ?_)
        exact fun char read => nomatch rejected char read
  | sequence exprs =>
      simp only [Comes, evalNode, ends_bind, ends_cursor]
      apply (evalSequence_sound valid sound (Grammar.lists_members found) []
        state.cursor poised).mono
      intro reading derives
      cases reading with
      | fails last => exact derives
      | succeeds =>
          obtain ⟨found, rfl, derives⟩ := derives
          exact derives
  | choice exprs =>
      exact evalChoice_sound valid sound (Grammar.lists_members found) poised
  | zeroOrMore body =>
      have member := Grammar.exprAt?_onlyMember found rfl
      apply (comes_zeroOrMore poised
        (evalRounds_sound valid sound member _ [] poised)).mono
      rintro reading ⟨values, finish, last, rfl, derives⟩
      exact derives
  | oneOrMore body =>
      have member := Grammar.exprAt?_onlyMember found rfl
      apply (comes_oneOrMore poised
        (evalRounds_sound valid sound member _ [] poised)).mono
      rintro _ ⟨_, ⟨values, finish, last, rfl, derives⟩, rfl⟩
      cases derives with
      | zeroOrMoreEnds fails => exact .oneOrMoreFails fails
      | zeroOrMoreStays stays => exact .oneOrMoreStays stays
      | zeroOrMoreCons first moves later =>
          exact .oneOrMoreCons first moves later
  | optional body =>
      have member := Grammar.exprAt?_onlyMember found rfl
      apply (comes_optional valid member poised
        fun inner => sound _ _ _ _ _ inner member).mono
      rintro _ ⟨inner, derives, rfl⟩
      cases inner with
      | fails => exact .optionalNone derives
      | succeeds => exact .optionalSome derives
  | followedBy body =>
      have member := Grammar.exprAt?_onlyMember found rfl
      apply (comes_followedBy valid member poised
        fun inner => sound _ _ _ _ _ inner member).mono
      rintro _ ⟨inner, derives, rfl⟩
      cases inner with
      | fails => exact .followedByFails derives
      | succeeds => exact .followedBy derives
  | notFollowedBy body =>
      have member := Grammar.exprAt?_onlyMember found rfl
      apply (comes_notFollowedBy valid member poised
        fun inner => sound _ _ _ _ _ inner member).mono
      rintro _ ⟨inner, derives, rfl⟩
      cases inner with
      | fails => exact .notFollowedBy derives
      | succeeds => exact .notFollowedByFails derives
  | labeled label body =>
      have member := Grammar.exprAt?_onlyMember found rfl
      apply (comes_labeled valid member poised
        (fun inner => sound _ _ _ _ _ inner member) label).mono
      rintro _ ⟨inner, derives, rfl⟩
      cases inner with
      | fails => exact .labeledFails derives
      | succeeds => exact .labeled derives
  | reference name =>
      obtain ⟨named, rule, index, target⟩ :=
        Grammar.target?_of_valid valid found
      have isRule := Grammar.rule_of_target? target
      have body := Grammar.exprAt?_body isRule
      simp only [evalNode, evalReference, named, target]
      apply (comes_evalRule valid unmemoized isRule poised
        fun inner => sound _ _ _ _ _ inner body).mono
      rintro _ ⟨inner, derives, rfl⟩
      cases inner with
      | fails => exact .referenceFails target derives
      | succeeds => exact .reference target derives
  | action body run =>
      have member := Grammar.exprAt?_onlyMember found rfl
      apply (comes_action poised (sound _ _ _ _ _ _ member poised)
        fun _ _ _ _ _ _ _ _ => trivial).mono
      rintro _ (⟨last, fails, rfl⟩ | ⟨value, finish, bound, next, last, holds,
        ⟨result, answers, rfl⟩ | ⟨message, complains, rfl⟩⟩)
      · exact .actionFails fails
      · exact .action holds answers
      · exact .actionComplains holds complains
  | require test =>
      apply (comes_predicate poised fun _ _ _ => trivial).mono
      rintro _ ⟨last, ⟨holds, rfl⟩ | ⟨refuses, rfl⟩ | ⟨message, complains, rfl⟩⟩
      · exact .require holds
      · exact .requireFails refuses
      · exact .requireComplains complains
  | forbid test =>
      apply (comes_predicate poised fun _ _ _ => trivial).mono
      rintro _ ⟨last, ⟨refuses, rfl⟩ | ⟨holds, rfl⟩ | ⟨message, complains, rfl⟩⟩
      · exact .forbid refuses
      · exact .forbidFails holds
      · exact .forbidComplains complains

/-- Whatever evaluation comes to can be derived. -/
theorem evalExpr_sound (valid : session.grammar.error? = none)
    (unmemoized : session.options.memoize = false)
    (unlimited : session.options.maxExpressions = none) (depth : Nat) :
    SoundTo session depth := by
  induction depth with
  | zero => exact fun _ _ _ _ _ _ _ _ => trivial
  | succ depth ih =>
      intro place expr start labels store state found poised
      exact comes_evalExpr_succ unmemoized unlimited poised
        fun inner poised => evalNode_sound valid unmemoized ih found poised

end Eval

end PegEngine
