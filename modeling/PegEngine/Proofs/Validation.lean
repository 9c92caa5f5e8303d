import PegEngine.Proofs.Farthest
import PegEngine.Proofs.Frames

/-!
# Validation

A grammar is checked before it runs, by one walk over its rules.  The check
accepts exactly the grammars that have a rule and in which every reference has a
name that some rule bears, and otherwise it gives the error of the first
reference in reading order that lacks this (`Grammar.error?_eq_some_iff`).

A parse with a grammar that is rejected reports that error and nothing else.  If
the grammar is accepted, no parse reports an error of this kind, and in no state
that a parse reaches does the evaluation of any node end with one
(`Session.validation_decides`).
-/

namespace PegEngine

open ParseState

/-- One place comes before another if it is in an earlier rule, or to the left
of the other in the same rule. -/
def ExprPlace.Precedes (place other : ExprPlace) : Prop :=
  place.rule < other.rule ∨
    place.rule = other.rule ∧ place.path.reverse < other.path.reverse

/-- The first item of lists that are put together for which a test has an
answer is in the first of the lists that has such an item. -/
theorem findSome?_flatMap_eq_some_iff {α β γ : Type} {lists : α → List β}
    {test : β → Option γ} {answer : γ} {items : List α} :
    (items.flatMap lists).findSome? test = some answer ↔
      ∃ (index : Nat) (item : α), items[index]? = some item ∧
        (lists item).findSome? test = some answer ∧
        ∀ (earlier : Nat) (other : α), earlier < index →
          items[earlier]? = some other →
            (lists other).findSome? test = none := by
  have parts : (items.flatMap lists).findSome? test =
      items.findSome? fun item => (lists item).findSome? test := by
    induction items with
    | nil => rfl
    | cons item items ih =>
        rw [List.flatMap_cons, List.findSome?_append, List.findSome?_cons, ih]
        cases (lists item).findSome? test <;> rfl
  rw [parts]
  constructor
  · intro found
    obtain ⟨before, item, behind, rfl, answers, none⟩ :=
      List.findSome?_eq_some_iff.mp found
    refine ⟨before.length, item, by simp, answers, ?_⟩
    intro earlier other isEarlier isOther
    rw [List.getElem?_append_left isEarlier] at isOther
    exact none other (List.mem_of_getElem? isOther)
  · rintro ⟨index, item, isItem, answers, none⟩
    obtain ⟨inside, rfl⟩ := List.getElem?_eq_some_iff.mp isItem
    refine List.findSome?_eq_some_iff.mpr
      ⟨items.take index, items[index], items.drop (index + 1), by simp, answers,
        ?_⟩
    intro other isOther
    obtain ⟨earlier, isEarlier⟩ := List.mem_iff_getElem?.mp isOther
    rw [List.getElem?_take] at isEarlier
    split at isEarlier
    case isTrue isBefore => exact none earlier other isBefore isEarlier
    case isFalse => cases isEarlier

namespace Expr

variable {α σ : Type}

/-- The expression at the end of a way through members, the first step of which
is listed first. -/
def along? (expr : Expr α σ) : List Nat → Option (Expr α σ)
  | [] => some expr
  | index :: path => expr.members[index]?.bind fun member => member.along? path

theorem along?_concat (expr : Expr α σ) (path : List Nat) (index : Nat) :
    expr.along? (path ++ [index]) =
      (expr.along? path).bind fun last => last.members[index]? := by
  induction path generalizing expr with
  | nil => simp [along?]
  | cons first path ih =>
      simp only [List.cons_append, along?, Option.bind_assoc, ih]

/-- An expression refers to a rule itself, or its members do. -/
theorem references_cases (expr : Expr α σ) :
    (∃ name, expr = .reference name) ∨
      (∀ name, expr ≠ .reference name) ∧
        expr.references = expr.members.flatMap references := by
  have all : ∀ exprs : List (Expr α σ),
      referencesOfAll exprs = exprs.flatMap references := by
    intro exprs
    induction exprs with
    | nil => rfl
    | cons expr exprs ih => simp [referencesOfAll, ih]
  cases expr with
  | reference name => exact .inl ⟨name, rfl⟩
  | sequence exprs => exact .inr ⟨by simp, all exprs⟩
  | choice exprs => exact .inr ⟨by simp, all exprs⟩
  | _ => exact .inr ⟨by simp, by simp [references, members]⟩

theorem mem_references_iff_along? {name : String} {expr : Expr α σ} :
    name ∈ expr.references ↔
      ∃ path, expr.along? path = some (.reference name) := by
  induction expr using induction_members with
  | step expr ih =>
      rcases expr.references_cases with ⟨other, rfl⟩ | ⟨combines, refers⟩
      · constructor
        · intro isName
          obtain rfl := List.mem_singleton.mp isName
          exact ⟨[], rfl⟩
        · rintro ⟨path, found⟩
          cases path with
          | nil => simp_all [along?, references]
          | cons index path => simp [along?, members] at found
      · rw [refers, List.mem_flatMap]
        constructor
        · rintro ⟨member, isMember, refersToo⟩
          obtain ⟨path, found⟩ := (ih member isMember).mp refersToo
          obtain ⟨index, present⟩ := List.mem_iff_getElem?.mp isMember
          exact ⟨index :: path, by simp [along?, present, found]⟩
        · rintro ⟨path, found⟩
          cases path with
          | nil => exact absurd (Option.some.inj found) (combines name)
          | cons index path =>
              obtain ⟨member, present, along⟩ :=
                Option.bind_eq_some_iff.mp found
              have isMember := List.mem_of_getElem? present
              exact ⟨member, isMember, (ih member isMember).mpr ⟨path, along⟩⟩

/-- No reference of an expression has an answer to a test. -/
theorem findSome?_references_eq_none_iff {β : Type}
    {test : String → Option β} {expr : Expr α σ} :
    expr.references.findSome? test = none ↔
      ∀ path name, expr.along? path = some (.reference name) →
        test name = none := by
  simp only [List.findSome?_eq_none_iff, mem_references_iff_along?]
  exact ⟨fun none path name found => none name ⟨path, found⟩,
    fun none name ⟨path, found⟩ => none path name found⟩

/-- The first reference of an expression with an answer to a test is the one on
the way that comes first in the order of ways. -/
theorem findSome?_references_eq_some_iff {β : Type}
    {test : String → Option β} {answer : β} {expr : Expr α σ} :
    expr.references.findSome? test = some answer ↔
      ∃ path name, expr.along? path = some (.reference name) ∧
        test name = some answer ∧
        ∀ earlier other, earlier < path →
          expr.along? earlier = some (.reference other) →
            test other = none := by
  induction expr using induction_members with
  | step expr ih =>
      rcases expr.references_cases with ⟨name, rfl⟩ | ⟨combines, refers⟩
      · constructor
        · intro found
          refine ⟨[], name, rfl, by simpa [references] using found, ?_⟩
          exact fun earlier _ isEarlier => absurd isEarlier (List.not_lt_nil _)
        · rintro ⟨path, other, found, answers, -⟩
          cases path with
          | nil => simp_all [along?, references]
          | cons index path => simp [along?, members] at found
      · rw [refers, findSome?_flatMap_eq_some_iff]
        constructor
        · rintro ⟨index, member, present, answers, none⟩
          obtain ⟨path, name, found, isAnswer, noneInside⟩ :=
            (ih member (List.mem_of_getElem? present)).mp answers
          refine ⟨index :: path, name, by simp [along?, present, found],
            isAnswer, ?_⟩
          intro earlier other isEarlier foundToo
          cases earlier with
          | nil => exact absurd (Option.some.inj foundToo) (combines other)
          | cons first earlier =>
              obtain ⟨before, presentToo, along⟩ :=
                Option.bind_eq_some_iff.mp foundToo
              rcases List.cons_lt_cons_iff.mp isEarlier with
                isLeft | ⟨rfl, isBefore⟩
              · exact findSome?_references_eq_none_iff.mp
                  (none first before isLeft presentToo) earlier other along
              · obtain rfl := Option.some.inj (present.symm.trans presentToo)
                exact noneInside earlier other isBefore along
        · rintro ⟨path, name, found, isAnswer, none⟩
          cases path with
          | nil => exact absurd (Option.some.inj found) (combines name)
          | cons index path =>
              obtain ⟨member, present, along⟩ :=
                Option.bind_eq_some_iff.mp found
              refine ⟨index, member, present, ?_, ?_⟩
              · refine (ih member (List.mem_of_getElem? present)).mpr
                  ⟨path, name, along, isAnswer, ?_⟩
                intro earlier other isEarlier foundToo
                exact none (index :: earlier) other
                  (List.cons_lt_cons_iff.mpr (.inr ⟨rfl, isEarlier⟩))
                  (by simp [along?, present, foundToo])
              · intro first before isLeft presentToo
                refine findSome?_references_eq_none_iff.mpr ?_
                intro earlier other foundToo
                exact none (first :: earlier) other
                  (List.cons_lt_cons_iff.mpr (.inl isLeft))
                  (by simp [along?, presentToo, foundToo])

end Expr

namespace Grammar

variable {α σ : Type} {grammar : Grammar α σ}

/-- A place is found by going to the rule first, and from there into the body. -/
theorem exprAt?_eq (grammar : Grammar α σ) (place : ExprPlace) :
    grammar.exprAt? place = grammar.rules[place.rule]?.bind fun rule =>
      rule.body.along? place.path.reverse := by
  obtain ⟨rule, path⟩ := place
  change grammar.exprAlong? rule path = _
  induction path with
  | nil =>
      rw [exprAlong?]
      cases grammar.rules[rule]? <;> rfl
  | cons index path ih =>
      simp only [exprAlong?, ih, List.reverse_cons, Expr.along?_concat,
        Option.bind_assoc]

/-- Every reference of a grammar has a name that some rule bears, and there is a
rule. -/
def Closed (grammar : Grammar α σ) : Prop :=
  grammar.rules ≠ [] ∧
    ∀ (place : ExprPlace) (name : String),
      grammar.exprAt? place = some (.reference name) →
        name ≠ "" ∧ ∃ rule ∈ grammar.rules, rule.name = name

/-- There is a reference at a place, and an error is what is wrong with it: it
has no name, or a name that no rule bears. -/
def Offends (grammar : Grammar α σ) (place : ExprPlace) (error : ParseError) :
    Prop :=
  ∃ name, grammar.exprAt? place = some (.reference name) ∧
    (name = "" ∧ error = .missingRuleName ∨
      name ≠ "" ∧ (∀ rule ∈ grammar.rules, rule.name ≠ name) ∧
        error = .undefinedRule name)

/-- An error is what is wrong with the first reference of a grammar that is not
as it should be. -/
def FirstOffends (grammar : Grammar α σ) (error : ParseError) : Prop :=
  ∃ place, grammar.Offends place error ∧
    ∀ earlier other, ExprPlace.Precedes earlier place →
      ¬ grammar.Offends earlier other

theorem declares_iff {name : String} :
    grammar.declares name = true ↔
      ∃ rule ∈ grammar.rules, rule.name = name := by
  simp [declares]

theorem referenceError?_eq_none_iff {name : String} :
    grammar.referenceError? name = none ↔
      name ≠ "" ∧ ∃ rule ∈ grammar.rules, rule.name = name := by
  rw [← declares_iff]
  unfold referenceError?
  by_cases nameless : name = ""
  · simp [nameless]
  · simp [nameless]

theorem referenceError?_eq_some_iff {name : String} {error : ParseError} :
    grammar.referenceError? name = some error ↔
      (name = "" ∧ error = .missingRuleName ∨
        name ≠ "" ∧ (∀ rule ∈ grammar.rules, rule.name ≠ name) ∧
          error = .undefinedRule name) := by
  have undeclared : (∀ rule ∈ grammar.rules, rule.name ≠ name) ↔
      ¬ grammar.declares name = true := by
    simp [declares]
  rw [undeclared, eq_comm (b := ParseError.missingRuleName),
    eq_comm (b := ParseError.undefinedRule name)]
  unfold referenceError?
  by_cases nameless : name = ""
  · simp [nameless]
  · simp [nameless]

theorem offends_iff {place : ExprPlace} {error : ParseError} :
    grammar.Offends place error ↔
      ∃ name, grammar.exprAt? place = some (.reference name) ∧
        grammar.referenceError? name = some error := by
  simp only [Offends, referenceError?_eq_some_iff]

theorem mem_references_iff {name : String} :
    name ∈ grammar.references ↔
      ∃ place, grammar.exprAt? place = some (.reference name) := by
  constructor
  · intro isReference
    obtain ⟨rule, isRule, refers⟩ := List.mem_flatMap.mp isReference
    obtain ⟨index, present⟩ := List.mem_iff_getElem?.mp isRule
    obtain ⟨path, found⟩ := Expr.mem_references_iff_along?.mp refers
    exact ⟨⟨index, path.reverse⟩, by simp [exprAt?_eq, present, found]⟩
  · rintro ⟨place, found⟩
    exact mem_references_of_exprAt? found (by simp [Expr.references])

/-- The check accepts exactly the grammars that are closed. -/
theorem error?_eq_none_iff : grammar.error? = none ↔ grammar.Closed := by
  have accepts : grammar.references.findSome? grammar.referenceError? = none ↔
      ∀ name place, grammar.exprAt? place = some (.reference name) →
        name ≠ "" ∧ ∃ rule ∈ grammar.rules, rule.name = name := by
    simp only [List.findSome?_eq_none_iff, mem_references_iff,
      referenceError?_eq_none_iff, forall_exists_index]
  unfold error? Closed
  by_cases ruleless : grammar.rules = []
  · simp [ruleless]
  · rw [if_neg (by simpa using ruleless), accepts]
    exact ⟨fun closed => ⟨ruleless, fun place name => closed name place⟩,
      fun closed name place => closed.2 place name⟩

/-- The first reference with something wrong, in the order in which the check
comes upon them, is the first one in reading order. -/
theorem findSome?_references_eq_some_iff {error : ParseError} :
    grammar.references.findSome? grammar.referenceError? = some error ↔
      grammar.FirstOffends error := by
  rw [references, findSome?_flatMap_eq_some_iff]
  constructor
  · rintro ⟨index, rule, isRule, answers, none⟩
    obtain ⟨path, name, found, isError, noneInside⟩ :=
      Expr.findSome?_references_eq_some_iff.mp answers
    refine ⟨⟨index, path.reverse⟩, offends_iff.mpr
      ⟨name, by simp [exprAt?_eq, isRule, found], isError⟩, ?_⟩
    intro earlier other precedes offends
    obtain ⟨wrong, foundToo, isWrong⟩ := offends_iff.mp offends
    rw [exprAt?_eq] at foundToo
    obtain ⟨before, isBefore, along⟩ := Option.bind_eq_some_iff.mp foundToo
    have accepted : grammar.referenceError? wrong = Option.none := by
      rcases precedes with isEarlier | ⟨same, isLeft⟩
      · exact Expr.findSome?_references_eq_none_iff.mp
          (none _ before isEarlier isBefore) _ wrong along
      · rw [same] at isBefore
        obtain rfl := Option.some.inj (isRule.symm.trans isBefore)
        exact noneInside _ wrong (by simpa using isLeft) along
    cases isWrong.symm.trans accepted
  · rintro ⟨place, offends, first⟩
    obtain ⟨name, found, isError⟩ := offends_iff.mp offends
    rw [exprAt?_eq] at found
    obtain ⟨rule, isRule, along⟩ := Option.bind_eq_some_iff.mp found
    -- Nothing is wrong at a place before this one.
    have accepted : ∀ (index : Nat) (path : List Nat) (other : String)
        (before : Rule α σ),
        ExprPlace.Precedes ⟨index, path.reverse⟩ place →
          grammar.rules[index]? = some before →
          before.body.along? path = some (.reference other) →
            grammar.referenceError? other = none := by
      intro index path other before precedes isBefore foundToo
      cases wrong : grammar.referenceError? other with
      | none => rfl
      | some error =>
          exact absurd (offends_iff.mpr
            ⟨other, by simp [exprAt?_eq, isBefore, foundToo], wrong⟩)
            (first _ error precedes)
    refine ⟨place.rule, rule, isRule, ?_, ?_⟩
    · refine Expr.findSome?_references_eq_some_iff.mpr
        ⟨place.path.reverse, name, along, isError, ?_⟩
      intro earlier other isLeft foundToo
      exact accepted place.rule earlier other rule
        (.inr ⟨rfl, by simpa using isLeft⟩) isRule foundToo
    · intro index before isEarlier isBefore
      refine Expr.findSome?_references_eq_none_iff.mpr ?_
      intro path other foundToo
      exact accepted index path other before (.inl isEarlier) isBefore foundToo

/-- What the check finds wrong is that there is no rule, or else what is wrong
with the first reference that is not as it should be. -/
theorem error?_eq_some_iff {error : ParseError} :
    grammar.error? = some error ↔
      grammar.rules = [] ∧ error = .noRule ∨ grammar.FirstOffends error := by
  rw [← findSome?_references_eq_some_iff]
  unfold error?
  by_cases ruleless : grammar.rules = []
  · simp [ruleless, references, eq_comm]
  · simp [ruleless]

end Grammar

namespace Session

variable {α σ : Type} {session : Session α σ}

/-- A parse with a grammar that is rejected reports this and nothing else, before
anything is read. -/
theorem gives_of_error? {error : ParseError}
    (invalid : session.grammar.error? = some error) :
    ∃ log, session.Gives ⟨.parsed
      ⟨none, ⟨[⟨⟨1, 0, 0⟩, session.placeText ⟨1, 0, 0⟩, error⟩]⟩, 0⟩, log⟩ := by
  obtain ⟨entry, gives⟩ := gives_of_invalid invalid
  have place : ((ParseState.initial session).note entry).location session
      Position.start = session.placeText Position.start := by
    simp [location, placeText, note, ParseState.initial]
  have rejects : session.reject entry error = ⟨.parsed
      ⟨none, ⟨[⟨⟨1, 0, 0⟩, session.placeText ⟨1, 0, 0⟩, error⟩]⟩, 0⟩,
      #[entry]⟩ := by
    rw [← show Position.start = ⟨1, 0, 0⟩ from rfl, ← place]
    rfl
  exact ⟨_, rejects ▸ gives⟩

/-- With a valid grammar nothing is reported that is wrong with the grammar. -/
theorem kind_ne_structural (valid : session.grammar.error? = none)
    {parsed : Parsed α} {log : Array LogEntry}
    (gives : session.Gives ⟨.parsed parsed, log⟩) {diagnostic : Diagnostic}
    (reported : diagnostic ∈ parsed.diagnostics.toList) :
    diagnostic.kind ≠ .structural := by
  obtain ⟨entry, starts⟩ := Grammar.start?_of_valid valid
  obtain ⟨depth, ends⟩ := (gives_iff starts valid).mp gives
  have evolves := Eval.evalRule_evolves (Eval.evalExpr_evolves session depth)
    entry 0 session.opening
  have early : ∀ {after : ParseState α σ},
      Evolved session session.opening after →
      diagnostic ∈ after.diagnostics.toList →
        diagnostic.kind ≠ .structural := by
    intro after evolved earlier
    rcases kind_of_evolved evolved earlier with kind | kind <;> simp [kind]
  -- What is added at the end is about the whole parse.
  have last : ∀ {after : ParseState α σ} {error : ParseError}
      {position : Position} {location : String},
      Evolved session session.opening after → error.kind ≠ .structural →
        diagnostic ∈ (after.diagnostics.push
          ⟨position, location, error⟩).toList →
          diagnostic.kind ≠ .structural := by
    intro after error position location evolved kind reported
    rcases mem_push reported with earlier | rfl
    · exact early evolved earlier
    · exact kind
  rcases run : session.entering depth entry with
    ⟨verdict, after⟩ | ⟨interrupt, after⟩
  all_goals rw [run] at ends
  · have evolved := evolves.result run
    cases verdict with
    | matched value =>
        cases ends
        exact early evolved reported
    | unmatched =>
        cases ends
        change diagnostic ∈
          (after.reportNoMatch session).diagnostics.toList at reported
        unfold reportNoMatch at reported
        split at reported
        · exact last evolved (by simp [ParseError.kind]) reported
        · exact early evolved reported
    | aborted error =>
        have settled := (entering_settles starts valid depth).result run
        obtain ⟨rfl, -⟩ := settled.describes
        cases ends
        exact last evolved (by simp [ParseError.kind]) reported
  · cases interrupt with
    | exhausted => cases ends
    | fault fault =>
        have evolved := evolves.fault run
        simp only [reportOn] at ends
        split at ends
        · cases ends
          exact last evolved (by simp [ParseError.kind]) reported
        · cases ends

/-- An evaluation that a parse comes to is given up only because of the limit
on expressions. -/
theorem Reaches.eq_maxExpressions {state : ParseState α σ}
    (reaches : session.Reaches state) {depth : Nat} {node : NodeKey}
    {error : ParseError} {after : ParseState α σ}
    (run : Eval.evalKeyed session depth node state =
      .ok (.aborted error) after) :
    error = .maxExpressions := by
  obtain ⟨expr, isNode⟩ := exists_nodeExpr? run
  obtain ⟨outer, before, finish, -, -, settled⟩ :=
    reaches.exists_settled isNode run
  exact settled.describes.1

/-- The check decides what it is meant to: a grammar passes exactly if it is
closed, and otherwise the error is the first one there is.  A grammar that does
not pass makes a parse report just that error, at the start, with no value and
no expression counted; one that passes makes no parse report such an error, and
no evaluation that a parse comes to ends with one. -/
theorem validation_decides (session : Session α σ) :
    (session.grammar.error? = none ↔ session.grammar.Closed) ∧
    (∀ error, session.grammar.error? = some error ↔
      session.grammar.rules = [] ∧ error = .noRule ∨
        session.grammar.FirstOffends error) ∧
    (∀ error, session.grammar.error? = some error → ∃ log,
      session.Gives ⟨.parsed
        ⟨none, ⟨[⟨⟨1, 0, 0⟩, session.placeText ⟨1, 0, 0⟩, error⟩]⟩, 0⟩,
        log⟩) ∧
    (∀ parsed log, session.Gives ⟨.parsed parsed, log⟩ →
      ((∃ diagnostic ∈ parsed.diagnostics.toList,
        diagnostic.kind = .structural) ↔ session.grammar.error? ≠ none)) ∧
    ∀ state, session.Reaches state → ∀ depth node error after,
      Eval.evalKeyed session depth node state = .ok (.aborted error) after →
        error = .maxExpressions := by
  refine ⟨Grammar.error?_eq_none_iff, fun _ => Grammar.error?_eq_some_iff,
    fun _ => gives_of_error?, ?_, ?_⟩
  · intro parsed log gives
    constructor
    · rintro ⟨diagnostic, reported, kind⟩ valid
      exact kind_ne_structural valid gives reported kind
    · intro invalid
      obtain ⟨error, isError⟩ := Option.ne_none_iff_exists'.mp invalid
      obtain ⟨_, rejected⟩ := gives_of_error? isError
      cases gives.unique rejected
      refine ⟨_, List.mem_singleton_self _, ?_⟩
      rcases Grammar.error?_eq_some_iff.mp isError with
        ⟨-, rfl⟩ | ⟨place, ⟨name, -, ⟨-, rfl⟩ | ⟨-, -, rfl⟩⟩, -⟩ <;> rfl
  · intro state reaches depth node error after run
    exact reaches.eq_maxExpressions run

end Session

namespace Grammar

/-- Two of the references lack a rule, and one of them has no name. -/
def dangling : Session Unit :=
  .ofSettings
    ⟨[⟨"Start", "", .sequence
        [.optional (.reference "Start"), .notFollowedBy (.reference "Else")]⟩,
      ⟨"Other", "", .reference ""⟩]⟩
    "dangling" "a".toUTF8 []

/-- The one that comes first is reported. -/
theorem dangling_rejected :
    dangling.grammar.error? = some (.undefinedRule "Else") ∧
      (∃ log, dangling.Gives ⟨.parsed
        ⟨none, ⟨[⟨⟨1, 0, 0⟩, dangling.placeText ⟨1, 0, 0⟩,
          .undefinedRule "Else"⟩]⟩, 0⟩, log⟩) ∧
      ∃ place, dangling.grammar.Offends place (.undefinedRule "Else") ∧
        ∀ earlier other, ExprPlace.Precedes earlier place →
          ¬ dangling.grammar.Offends earlier other := by
  have decides := dangling.validation_decides
  have rejects : dangling.grammar.error? = some (.undefinedRule "Else") := by
    decide +kernel
  refine ⟨rejects, decides.2.2.1 _ rejects, ?_⟩
  rcases (decides.2.1 _).mp rejects with ⟨-, isNoRule⟩ | first
  · cases isNoRule
  · exact first

end Grammar

end PegEngine
