import PegEngine.Grammars.Arithmetic
import PegEngine.Proofs.Parses
import PegEngine.Proofs.Soundness

/-!
# Evaluation agrees with the semantics

Without memoization and without a limit, every reading that can be derived is
found by the evaluator at some depth (`Eval.evalExpr_complete`), by induction on
the derivation.  Together with soundness, evaluation and semantics agree
(`Eval.Agrees`).  So the semantics itself is deterministic
(`Eval.reading_unique`).
-/

namespace PegEngine

open ParseState

namespace Eval

variable {α σ : Type} {session : Session α σ} {place : ExprPlace} {start : Nat}
  {labels : Frame α} {store : Store σ} {state : ParseState α σ}

/-- Some depth suffices for an expression to come to a reading. -/
def Found (session : Session α σ) (expr : Expr α σ) (start : Nat)
    (labels : Frame α) (store : Store σ) (reading : Reading α σ) : Prop :=
  ∃ depth, ∀ (place : ExprPlace) (state : ParseState α σ),
    session.grammar.exprAt? place = some expr →
      Poised session place.rule start labels store state →
        Comes False (· = reading) (evalExpr session depth place expr) state

/-- Some depth suffices for the members of a sequence. -/
def FoundInSequence (session : Session α σ) (exprs : List (Expr α σ))
    (start : Nat) (labels : Frame α) (store : Store σ) (reading : Reading α σ) :
    Prop :=
  ∃ depth, ∀ (place : ExprPlace) (index : Nat) (values : List (Value α))
    (back : Cursor) (state : ParseState α σ),
    session.grammar.Lists place index exprs →
      Poised session place.rule start labels store state →
        Comes False (Behind values (· = reading))
          (evalSequence session (evalExpr session depth) place back index values
            exprs) state

/-- Some depth suffices for the alternatives of a choice. -/
def FoundInChoice (session : Session α σ) (exprs : List (Expr α σ))
    (start : Nat) (labels : Frame α) (store : Store σ) (reading : Reading α σ) :
    Prop :=
  ∃ depth, ∀ (place : ExprPlace) (index : Nat) (state : ParseState α σ),
    session.grammar.Lists place index exprs →
      Poised session place.rule start labels store state →
        Comes False (· = reading)
          (evalChoice (evalExpr session depth) place index exprs) state

/-- Some depth suffices for the rounds of a repetition. -/
def FoundInRounds (session : Session α σ) (body : Expr α σ) (start : Nat)
    (labels : Frame α) (store : Store σ) (reading : Reading α σ) : Prop :=
  ∃ depth, ∀ (place : ExprPlace) (rounds : Nat) (values : List (Value α))
    (state : ParseState α σ),
    session.grammar.exprAt? (place.member 0) = some body →
      Poised session place.rule start labels store state →
      session.input.size < start + rounds →
        Ends (evalRounds (evalExpr session depth (place.member 0) body) rounds
            values)
          (fun result after =>
            Reads (Behind values (· = reading)) (ofRounds result) after)
          (fun _ => False) False state

/-- What is found for the parts of an expression that is evaluated step by step,
and for any other expression as a whole. -/
def Completed (session : Session α σ) :
    Expr α σ → Nat → Frame α → Store σ → Reading α σ → Prop
  | .sequence exprs => FoundInSequence session exprs
  | .choice exprs => FoundInChoice session exprs
  | .zeroOrMore body => FoundInRounds session body
  | expr => Found session expr

variable {reading : Reading α σ} {depth greater : Nat}

theorem behind_nil {other : Reading α σ}
    (behind : Behind [] (· = reading) other) : other = reading := by
  cases other with
  | fails last => exact behind
  | succeeds =>
      obtain ⟨found, rfl, same⟩ := behind
      exact same

theorem Comes.deeper {place : ExprPlace} {expr : Expr α σ}
    {reads : Reading α σ → Prop} (atMost : depth ≤ greater)
    (comes : Comes False reads (evalExpr session depth place expr) state) :
    Comes False reads (evalExpr session greater place expr) state :=
  Ends.of_refines comes (evalExpr_refines_of_le session atMost place expr)

section Nodes

variable {expr : Expr α σ} (unmemoized : session.options.memoize = false)
  (unlimited : session.options.maxExpressions = none)

include unmemoized unlimited

theorem found_of_node
    (node : ∃ depth, ∀ (place : ExprPlace) (state : ParseState α σ),
      session.grammar.exprAt? place = some expr →
        Poised session place.rule start labels store state →
          Comes False (· = reading)
            (evalNode session (evalExpr session depth) place expr) state) :
    Found session expr start labels store reading := by
  obtain ⟨depth, node⟩ := node
  exact ⟨depth + 1, fun place state found poised =>
    comes_evalExpr_succ unmemoized unlimited poised
      fun inner poised => node place inner found poised⟩

/-- The reading of an expression without members, if there is only one that it
can come to. -/
theorem found_of_leaf {reads : Reading α σ → Prop}
    (node : ∀ (place : ExprPlace) (state : ParseState α σ),
      Poised session place.rule start labels store state →
        Comes False reads (evalNode session (evalExpr session 0) place expr)
          state)
    (isReading : ∀ other, reads other → other = reading) :
    Found session expr start labels store reading :=
  found_of_node unmemoized unlimited
    ⟨0, fun place state _ poised => (node place state poised).mono isReading⟩

/-- What is found step by step is found for the expression as a whole. -/
theorem Completed.found
    (completed : Completed session expr start labels store reading) :
    Found session expr start labels store reading := by
  cases expr with
  | sequence exprs =>
      obtain ⟨depth, members⟩ := completed
      refine found_of_node unmemoized unlimited ⟨depth, ?_⟩
      intro place state found poised
      simp only [Comes, evalNode, ends_bind, ends_cursor]
      exact (members place 0 [] state.cursor state
        (Grammar.lists_members found) poised).mono fun _ => behind_nil
  | choice exprs =>
      obtain ⟨depth, members⟩ := completed
      exact found_of_node unmemoized unlimited ⟨depth,
        fun place state found poised => members place 0 state
          (Grammar.lists_members found) poised⟩
  | zeroOrMore body =>
      obtain ⟨depth, rounds⟩ := completed
      refine found_of_node unmemoized unlimited ⟨depth, ?_⟩
      intro place state found poised
      exact (comes_zeroOrMore poised (rounds place _ [] state
        (Grammar.exprAt?_onlyMember found rfl) poised (by omega))).mono
        fun _ => behind_nil
  | literal | oneOf | any | oneOrMore | optional | followedBy | notFollowedBy
  | labeled | reference | action | require | forbid => exact completed

end Nodes

theorem found_of_member {body expr : Expr α σ} {inner : Reading α σ}
    {outer : Reading α σ → Reading α σ}
    (unmemoized : session.options.memoize = false)
    (unlimited : session.options.maxExpressions = none)
    (onlyMember : expr.members = [body])
    (member : Found session body start Frame.empty store inner)
    (node : ∀ (depth : Nat) (place : ExprPlace) (state : ParseState α σ),
      session.grammar.exprAt? (place.member 0) = some body →
      Poised session place.rule start labels store state →
      (∀ entered, Poised session place.rule start Frame.empty store entered →
        Comes False (· = inner) (evalExpr session depth (place.member 0) body)
          entered) →
        Comes False (fun reading => ∃ other, other = inner ∧
            reading = outer other)
          (evalNode session (evalExpr session depth) place expr) state) :
    Found session expr start labels store (outer inner) := by
  obtain ⟨depth, member⟩ := member
  refine found_of_node unmemoized unlimited ⟨depth, ?_⟩
  intro place state found poised
  have foundBody := Grammar.exprAt?_onlyMember found onlyMember
  apply (node depth place state foundBody poised
    fun entered => member (place.member 0) entered foundBody).mono
  rintro _ ⟨_, rfl, rfl⟩
  rfl

theorem found_oneOrMore {body : Expr α σ} {whole : Reading α σ}
    (unmemoized : session.options.memoize = false)
    (unlimited : session.options.maxExpressions = none)
    (rounds : FoundInRounds session body start labels store whole) :
    Found session (.oneOrMore body) start labels store whole.nonempty := by
  obtain ⟨depth, rounds⟩ := rounds
  refine found_of_node unmemoized unlimited ⟨depth, ?_⟩
  intro place state found poised
  refine (comes_oneOrMore poised (rounds place _ [] state
    (Grammar.exprAt?_onlyMember found rfl) poised (by omega))).mono ?_
  rintro _ ⟨other, behind, rfl⟩
  rw [behind_nil behind]

theorem found_reference {name : String} {rule : Rule α σ} {index : Nat}
    {inner : Reading α σ} (valid : session.grammar.error? = none)
    (unmemoized : session.options.memoize = false)
    (unlimited : session.options.maxExpressions = none)
    (target : session.grammar.target? name = some (rule, index))
    (member : Found session rule.body start Frame.empty store inner) :
    Found session (.reference name) start labels store
      (inner.relabel labels) := by
  obtain ⟨depth, member⟩ := member
  refine found_of_node unmemoized unlimited ⟨depth, ?_⟩
  intro place state found poised
  obtain ⟨named, -⟩ := Grammar.target?_of_valid valid found
  have isRule := Grammar.rule_of_target? target
  have body := Grammar.exprAt?_body isRule
  simp only [evalNode, evalReference, named, target]
  apply (comes_evalRule valid unmemoized isRule poised
    fun entered => member (.body index) entered body).mono
  rintro _ ⟨_, rfl, rfl⟩
  rfl

theorem found_action {body : Expr α σ} {run : Action α σ} {inner : Reading α σ}
    (unmemoized : session.options.memoize = false)
    (unlimited : session.options.maxExpressions = none)
    (member : Found session body start labels store inner)
    (replies : ∀ value finish bound next fault last,
      inner = .succeeds value finish bound next →
        run (Grammar.contextOf session.input start finish value bound next) ≠
          (.failure fault, last))
    (isReading : ∀ other,
      ActionReads session.input run start (· = inner) other →
        other = reading) :
    Found session (.action body run) start labels store reading := by
  obtain ⟨depth, member⟩ := member
  refine found_of_node unmemoized unlimited ⟨depth, ?_⟩
  intro place state found poised
  have foundBody := Grammar.exprAt?_onlyMember found rfl
  exact (comes_action poised (member (place.member 0) state foundBody poised)
    fun value finish bound next fault last same failure =>
      replies value finish bound next fault last same.symm failure).mono
    isReading

theorem found_predicate {test : Predicate α σ} {expected : Bool}
    {expr : Expr α σ} (unmemoized : session.options.memoize = false)
    (unlimited : session.options.maxExpressions = none)
    (isPredicate : ∀ evaluate place, evalNode session evaluate place expr =
      evalPredicate session test expected)
    (replies : ∀ fault last,
      test (Grammar.contextOf session.input start start .nil labels store) ≠
        (.failure fault, last))
    (isReading : ∀ other,
      PredicateReads session.input test expected start labels store other →
        other = reading) :
    Found session expr start labels store reading := by
  refine found_of_leaf unmemoized unlimited ?_ isReading
  intro place state poised
  rw [isPredicate]
  exact comes_predicate poised replies

/-- There is a round left, since the cursor has not passed the end. -/
theorem Poised.exists_round {rule rounds : Nat}
    (poised : Poised session rule start labels store state)
    (enough : session.input.size < start + rounds) :
    ∃ more, rounds = more + 1 := by
  have inside := poised.stands.boundary.le_size
  have atStart := poised.offset
  exact Nat.exists_eq_add_one.mpr (by omega)

section Steps

variable {expr body : Expr α σ} {exprs : List (Expr α σ)} {middle : Nat}
  {value : Value α} {bound : Frame α} {next last : Store σ}
  (valid : session.grammar.error? = none)

include valid

theorem found_sequence_fails
    (first : Found session expr start labels store (.fails last)) :
    FoundInSequence session (expr :: exprs) start labels store
      (.fails last) := by
  obtain ⟨depth, first⟩ := first
  refine ⟨depth, fun place index values back state lists poised => ?_⟩
  apply comes_sequence_cons valid lists.head poised
    (first _ _ lists.head poised) (fun _ same => same)
  intro value middle bound next inner same
  cases same

theorem found_sequence_cons
    (first : Found session expr start labels store
      (.succeeds value middle bound next))
    (later : FoundInSequence session exprs middle bound next reading)
    (whole : Reading α σ)
    (behind : ∀ (values : List (Value α)) (other : Reading α σ),
      Behind (value :: values) (· = reading) other →
        Behind values (· = whole) other) :
    FoundInSequence session (expr :: exprs) start labels store whole := by
  obtain ⟨depth, first⟩ := first
  obtain ⟨depthLater, later⟩ := later
  refine ⟨max depth depthLater, ?_⟩
  intro place index values back state lists poised
  refine comes_sequence_cons valid lists.head poised
    ((first _ _ lists.head poised).deeper (Nat.le_max_left _ _)) ?_ ?_
  · intro last same
    cases same
  · intro other finish frame after inner same poised
    cases same
    apply Ends.of_refines ((later place (index + 1) (value :: values) back
      inner lists.tail poised).mono (behind values))
    exact evalSequence_refines session
      (evalExpr_refines_of_le session (Nat.le_max_right _ _)) _ _ _ _ _

theorem found_choice_first {finish : Nat}
    (first : Found session expr start Frame.empty store
      (.succeeds value finish bound last)) :
    FoundInChoice session (expr :: exprs) start labels store
      (.succeeds value finish labels last) := by
  obtain ⟨depth, first⟩ := first
  refine ⟨depth, fun place index state lists poised => ?_⟩
  refine comes_choice_cons valid lists.head poised
    (fun inner => first _ inner lists.head) ?_ ?_
  · intro value finish bound last same
    cases same
    rfl
  · intro next inner same
    cases same

theorem found_choice_later
    (first : Found session expr start Frame.empty store (.fails next))
    (later : FoundInChoice session exprs start labels next reading) :
    FoundInChoice session (expr :: exprs) start labels store reading := by
  obtain ⟨depth, first⟩ := first
  obtain ⟨depthLater, later⟩ := later
  refine ⟨max depth depthLater, fun place index state lists poised => ?_⟩
  refine comes_choice_cons valid lists.head poised
    (fun inner poised => (first _ inner lists.head poised).deeper
      (Nat.le_max_left _ _)) ?_ ?_
  · intro value finish bound last same
    cases same
  · intro other inner same poised
    cases same
    apply Ends.of_refines (later place (index + 1) inner lists.tail poised)
    exact evalChoice_refines
      (evalExpr_refines_of_le session (Nat.le_max_right _ _)) _ _ _

theorem found_rounds_ends
    (fails : Found session body start Frame.empty store (.fails last)) :
    FoundInRounds session body start labels store
      (.succeeds (.list []) start labels last) := by
  obtain ⟨depth, fails⟩ := fails
  refine ⟨depth, fun place rounds values state found poised enough => ?_⟩
  obtain ⟨rounds, rfl⟩ := poised.exists_round enough
  refine comes_rounds_succ valid found poised
    (fun inner => fails _ inner found) ?_ ?_ ?_
  · intro last same
    cases same
    exact ⟨[], by simp, rfl⟩
  · intro value bound last same
    cases same
  · intro value middle bound next inner same
    cases same

theorem found_rounds_stays
    (stays : Found session body start Frame.empty store
      (.succeeds value start bound last)) :
    FoundInRounds session body start labels store
      (.succeeds (.list [value]) start labels last) := by
  obtain ⟨depth, stays⟩ := stays
  refine ⟨depth, fun place rounds values state found poised enough => ?_⟩
  obtain ⟨rounds, rfl⟩ := poised.exists_round enough
  refine comes_rounds_succ valid found poised
    (fun inner => stays _ inner found) ?_ ?_ ?_
  · intro last same
    cases same
  · intro value bound last same
    cases same
    exact ⟨[_], by simp, rfl⟩
  · intro value middle bound next inner same moves
    cases same
    exact absurd rfl moves

theorem found_rounds_cons {finish : Nat} {values : List (Value α)}
    (first : Found session body start Frame.empty store
      (.succeeds value middle bound next))
    (forward : start < middle)
    (later : FoundInRounds session body middle labels next
      (.succeeds (.list values) finish labels last)) :
    FoundInRounds session body start labels store
      (.succeeds (.list (value :: values)) finish labels last) := by
  obtain ⟨depth, first⟩ := first
  obtain ⟨depthLater, later⟩ := later
  refine ⟨max depth depthLater, ?_⟩
  intro place rounds earlier state found poised enough
  obtain ⟨rounds, rfl⟩ := poised.exists_round enough
  refine comes_rounds_succ valid found poised
    (fun inner poised => (first _ inner found poised).deeper
      (Nat.le_max_left _ _)) ?_ ?_ ?_
  · intro last same
    cases same
  · intro value bound last same
    cases same
    omega
  · intro other finish frame after inner same moves poised
    cases same
    have rest := later place rounds (value :: earlier) inner found poised
      (by omega)
    have deeper := Ends.of_refines rest (evalRounds_refines
      (evalExpr_refines_of_le session (Nat.le_max_right depth _) _ _) _ _)
    apply deeper.mono_result
    rintro result after ⟨reading, isReading, behind⟩
    refine ⟨reading, isReading, ?_⟩
    cases reading with
    | fails => exact nomatch behind
    | succeeds =>
        obtain ⟨found, rfl, same⟩ := behind
        cases same
        exact ⟨value :: values, by simp, rfl⟩

end Steps

/-- Every reading that can be derived is found. -/
theorem evalExpr_complete {expr : Expr α σ}
    (valid : session.grammar.error? = none)
    (unmemoized : session.options.memoize = false)
    (unlimited : session.options.maxExpressions = none)
    (derives : session.grammar.Derives session.input expr start labels store
      reading) :
    Found session expr start labels store reading := by
  suffices completed : Completed session expr start labels store reading from
    completed.found unmemoized unlimited
  induction derives with
  | literal spelled =>
      apply found_of_leaf unmemoized unlimited
        (fun place state => comes_literal _ _)
      rintro _ (⟨finish, again, rfl⟩ | ⟨differs, rfl⟩)
      · rw [spelled.unique again]
      · exact absurd spelled (differs _)
  | literalFails differs =>
      apply found_of_leaf unmemoized unlimited
        (fun place state => comes_literal _ _)
      rintro _ (⟨finish, spelled, rfl⟩ | ⟨_, rfl⟩)
      · exact absurd spelled (differs _)
      · rfl
  | oneOf read accepted =>
      apply found_of_leaf unmemoized unlimited
        (fun place state => comes_matchChar _ _)
      rintro _ (⟨_, _, _, rfl⟩ | ⟨rejected, rfl⟩)
      · rfl
      · cases (rejected _ read).symm.trans accepted
  | oneOfFails rejected =>
      apply found_of_leaf unmemoized unlimited
        (fun place state => comes_matchChar _ _)
      rintro _ (⟨char, read, accepted, rfl⟩ | ⟨_, rfl⟩)
      · cases (rejected _ read).symm.trans accepted
      · rfl
  | any read =>
      apply found_of_leaf unmemoized unlimited
        (fun place state => comes_matchChar _ _)
      rintro _ (⟨_, _, _, rfl⟩ | ⟨rejected, rfl⟩)
      · rfl
      · cases rejected _ read
  | anyFails atEnd =>
      apply found_of_leaf unmemoized unlimited
        (fun place state => comes_matchChar _ _)
      rintro _ (⟨char, read, -, rfl⟩ | ⟨_, rfl⟩)
      · cases atEnd.symm.trans read
      · rfl
  | sequenceNil =>
      refine ⟨0, fun place index values back state lists poised => ?_⟩
      refine ⟨_, rfl, [], by simp, ?_⟩
      rw [poised.offset, poised.labels, poised.store]
  | sequenceFails first ih =>
      exact found_sequence_fails valid (ih.found unmemoized unlimited)
  | sequenceLaterFails first later firstIH laterIH =>
      apply found_sequence_cons valid (firstIH.found unmemoized unlimited)
        laterIH _
      intro values other behind
      cases other with
      | fails => exact behind
      | succeeds => exact nomatch behind.choose_spec.2
  | sequenceCons first later firstIH laterIH =>
      apply found_sequence_cons valid (firstIH.found unmemoized unlimited)
        laterIH _
      intro values other behind
      cases other with
      | fails => exact nomatch behind
      | succeeds =>
          obtain ⟨found, rfl, same⟩ := behind
          cases same
          exact ⟨_ :: _, by simp, rfl⟩
  | choiceNil =>
      refine ⟨0, fun place index state lists poised => ⟨_, rfl, ?_⟩⟩
      rw [poised.store]
  | choiceFirst first ih =>
      exact found_choice_first valid (ih.found unmemoized unlimited)
  | choiceLater first later firstIH laterIH =>
      exact found_choice_later valid (firstIH.found unmemoized unlimited)
        laterIH
  | zeroOrMoreEnds fails ih =>
      exact found_rounds_ends valid (ih.found unmemoized unlimited)
  | zeroOrMoreStays stays ih =>
      exact found_rounds_stays valid (ih.found unmemoized unlimited)
  | zeroOrMoreCons first moves later firstIH laterIH =>
      exact found_rounds_cons valid (firstIH.found unmemoized unlimited)
        (Nat.lt_of_le_of_ne first.spans.le moves.symm) laterIH
  | oneOrMoreFails fails ih =>
      exact found_oneOrMore unmemoized unlimited
        (found_rounds_ends valid (ih.found unmemoized unlimited))
  | oneOrMoreStays stays ih =>
      exact found_oneOrMore unmemoized unlimited
        (found_rounds_stays valid (ih.found unmemoized unlimited))
  | oneOrMoreCons first moves later firstIH laterIH =>
      exact found_oneOrMore unmemoized unlimited (found_rounds_cons valid
        (firstIH.found unmemoized unlimited)
        (Nat.lt_of_le_of_ne first.spans.le moves.symm) laterIH)
  | optionalNone fails ih | optionalSome holds ih =>
      exact found_of_member unmemoized unlimited rfl
        (ih.found unmemoized unlimited)
        fun depth place state => comes_optional valid
  | followedBy holds ih | followedByFails fails ih =>
      exact found_of_member unmemoized unlimited rfl
        (ih.found unmemoized unlimited)
        fun depth place state => comes_followedBy valid
  | notFollowedBy fails ih | notFollowedByFails holds ih =>
      exact found_of_member unmemoized unlimited rfl
        (ih.found unmemoized unlimited)
        fun depth place state => comes_notFollowedBy valid
  | labeled holds ih | labeledFails fails ih =>
      exact found_of_member unmemoized unlimited rfl
        (ih.found unmemoized unlimited)
        fun depth place state found poised member =>
          comes_labeled valid found poised member _
  | reference target holds ih | referenceFails target fails ih =>
      exact found_reference valid unmemoized unlimited target
        (ih.found unmemoized unlimited)
  | action holds answers ih =>
      refine found_action unmemoized unlimited (ih.found unmemoized unlimited)
        ?_ ?_
      · rintro _ _ _ _ fault last ⟨⟩ failure
        cases answers.symm.trans failure
      · rintro _ (⟨_, ⟨⟩, _⟩ | ⟨_, _, _, _, _, ⟨⟩,
          ⟨_, again, rfl⟩ | ⟨_, complains, rfl⟩⟩)
        · cases answers.symm.trans again
          rfl
        · cases answers.symm.trans complains
  | actionComplains holds complains ih =>
      refine found_action unmemoized unlimited (ih.found unmemoized unlimited)
        ?_ ?_
      · rintro _ _ _ _ fault last ⟨⟩ failure
        cases complains.symm.trans failure
      · rintro _ (⟨_, ⟨⟩, _⟩ | ⟨_, _, _, _, _, ⟨⟩,
          ⟨_, answers, rfl⟩ | ⟨_, again, rfl⟩⟩)
        · cases complains.symm.trans answers
        · cases complains.symm.trans again
          rfl
  | actionFails fails ih =>
      refine found_action unmemoized unlimited (ih.found unmemoized unlimited)
        ?_ ?_
      · rintro _ _ _ _ fault last ⟨⟩
      · rintro _ (⟨_, ⟨⟩, rfl⟩ | ⟨_, _, _, _, _, ⟨⟩, _⟩)
        rfl
  | require replied | requireFails replied | requireComplains replied
  | forbid replied | forbidFails replied | forbidComplains replied =>
      refine found_predicate unmemoized unlimited (fun _ _ => rfl) ?_ ?_
      · intro fault last failure
        cases replied.symm.trans failure
      · rintro _ ⟨_, ⟨again, rfl⟩ | ⟨again, rfl⟩ | ⟨_, again, rfl⟩⟩
        all_goals cases replied.symm.trans again
        all_goals rfl

/-- An expression of a valid grammar has one reading at most, at any boundary,
with any labels and with any store. -/
theorem reading_unique {grammar : Grammar α σ} {input : ByteArray}
    {expr : Expr α σ} {other : Reading α σ} (valid : grammar.error? = none)
    (found : grammar.exprAt? place = some expr)
    (boundary : Decoded.Boundary input start)
    (derives : grammar.Derives input expr start labels store reading)
    (again : grammar.Derives input expr start labels store other) :
    reading = other := by
  let session : Session α σ := ⟨grammar, "", input, Options.default⟩
  obtain ⟨rule, isRule⟩ := Grammar.exprAt?_rule found
  obtain ⟨state, poised⟩ := exists_poised session isRule boundary labels store
  obtain ⟨depth, isFound⟩ : Found session expr start labels store reading :=
    evalExpr_complete valid rfl rfl derives
  obtain ⟨depthToo, isFoundToo⟩ : Found session expr start labels store other :=
    evalExpr_complete valid rfl rfl again
  have comes := (isFound place state found poised).deeper
    (Nat.le_max_left depth depthToo)
  have comesToo := (isFoundToo place state found poised).deeper
    (Nat.le_max_right depth depthToo)
  obtain ⟨verdict, after, run, _, isReading, rfl⟩ := comes.exists_result
  obtain ⟨_, isReadingToo, rfl⟩ := comesToo.result run
  exact Option.some.inj (isReading.symm.trans isReadingToo)

/-- From a state, the evaluation of an expression agrees with the semantics:
every verdict can be derived, at whatever depth it is come to, and whatever can
be derived is come to at all depths from some depth on. -/
structure Agrees (session : Session α σ) (place : ExprPlace) (expr : Expr α σ)
    (start : Nat) (labels : Frame α) (store : Store σ)
    (state : ParseState α σ) : Prop where
  sound : ∀ depth verdict after,
    evalExpr session depth place expr state = .ok verdict after →
      ∃ reading, verdict.reading? after = some reading ∧
        session.grammar.Derives session.input expr start labels store reading
  complete : ∀ reading,
    session.grammar.Derives session.input expr start labels store reading →
      ∃ depth, ∀ greater, depth ≤ greater → ∃ verdict after,
        evalExpr session greater place expr state = .ok verdict after ∧
          verdict.reading? after = some reading

/-- Without memoization and without a limit, the evaluation of any expression of
a valid grammar agrees with the semantics: it can start at every boundary, with
any labels and with any store, and whenever it does, it agrees. -/
theorem evalExpr_agrees {expr : Expr α σ}
    (valid : session.grammar.error? = none)
    (unmemoized : session.options.memoize = false)
    (unlimited : session.options.maxExpressions = none)
    (found : session.grammar.exprAt? place = some expr)
    (boundary : Decoded.Boundary session.input start) (labels : Frame α)
    (store : Store σ) :
    (∃ state, Poised session place.rule start labels store state) ∧
      ∀ state, Poised session place.rule start labels store state →
        Agrees session place expr start labels store state := by
  constructor
  · obtain ⟨rule, isRule⟩ := Grammar.exprAt?_rule found
    exact exists_poised session isRule boundary labels store
  · intro state poised
    constructor
    · intro depth verdict after run
      have comes := evalExpr_sound valid unmemoized unlimited depth place expr
        start labels store state found poised
      exact comes.result run
    · intro reading derives
      obtain ⟨depth, isFound⟩ :=
        evalExpr_complete valid unmemoized unlimited derives
      refine ⟨depth, fun greater atMost => ?_⟩
      have comes := (isFound place state found poised).deeper atMost
      obtain ⟨verdict, after, run, _, isReading, rfl⟩ := comes.exists_result
      exact ⟨verdict, after, run, isReading⟩

/-- The state in which the body of a rule is evaluated at the start of the
input. -/
theorem poised_entering (session : Session α σ) {index : Nat} {rule : Rule α σ}
    (isRule : session.grammar.rules[index]? = some rule) :
    Poised session index 0 Frame.empty session.options.store
      (session.opening.enterRule rule) where
  toReady := session.opening_ready.enterRule rule
  runs := runs_enterRule isRule
  offset := session.offset_opening
  labels := ScopeStack.top_push session.opening_ready.spare
  store := (steady_read session (ParseState.initial session)).store

/-- The state in which the body of the entry rule is evaluated. -/
theorem poised_opening (session : Session α σ) {entry : Rule α σ}
    (starts : session.grammar.start? = some entry) :
    Poised session 0 0 Frame.empty session.options.store
      (session.opening.enterRule entry) :=
  poised_entering session (Grammar.entry_of_start? starts)

/-- The sum of two numbers, evaluated from the start of the input. -/
theorem evalExpr_agrees_sum :
    ∃ session : Session Int, ∃ entry,
      session = .ofSettings Arithmetic.grammar "" "1+2".toUTF8 [] ∧
        session.grammar.start? = some entry ∧
        Agrees session (.body 0) entry.body 0 Frame.empty Store.empty
          (session.opening.enterRule entry) :=
  ⟨_, _, rfl, rfl, (evalExpr_agrees Arithmetic.error?_grammar rfl rfl rfl
    (Decoded.boundary_zero _) _ _).2 _ (poised_opening _ rfl)⟩

end Eval

end PegEngine
