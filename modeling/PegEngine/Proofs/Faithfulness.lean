import PegEngine.Proofs.Adequacy
import PegEngine.Proofs.Rereading

/-!
# What the writing of an expression says

Two expressions that are written alike match alike, at every offset and in every
grammar, and consume the same (`Expr.render_faithful`), as long as suffixes
apply to lookaheads only where this makes no difference (`Expr.Grouped`).  The
writing does not group these: the repetition of a lookahead is written like a
lookahead at a repetition.  It makes a difference to be optional or repeated
behind a negative lookahead (`Grammar.lookaheads_unfaithful`), and if a rule
runs code, it makes one how often a lookahead looks at the rule
(`Grammar.glances_unfaithful`).
-/

namespace PegEngine

namespace Eval

variable {α σ : Type} {session : Session α σ} {place : ExprPlace}
  {expr : Expr α σ} {start : Nat} {labels : Frame α} {store : Store σ}
  {state : ParseState α σ}

/-- At some depth, the evaluation of an expression comes as far as an extent. -/
def ComesAsFar (session : Session α σ) (place : ExprPlace) (expr : Expr α σ)
    (state : ParseState α σ) (extent : Extent σ) : Prop :=
  ∃ depth verdict after,
    evalExpr session depth place expr state = .ok verdict after ∧
      (verdict.reading? after).map Reading.extent = some extent

/-- Evaluation comes as far as the semantics says. -/
theorem comesAsFar_iff (valid : session.grammar.error? = none)
    (unmemoized : session.options.memoize = false)
    (unlimited : session.options.maxExpressions = none)
    (found : session.grammar.exprAt? place = some expr)
    (poised : Poised session place.rule start labels store state)
    {extent : Extent σ} :
    ComesAsFar session place expr state extent ↔
      session.grammar.Recognizes session.input expr start labels store
        extent := by
  constructor
  · rintro ⟨depth, verdict, after, run, isExtent⟩
    have comes := evalExpr_sound valid unmemoized unlimited depth place expr
      start labels store state found poised
    obtain ⟨reading, isReading, derives⟩ := comes.result run
    rw [isReading] at isExtent
    exact ⟨reading, derives, Option.some.inj isExtent⟩
  · rintro ⟨reading, derives, rfl⟩
    obtain ⟨depth, isFound⟩ : Found session expr start labels store reading :=
      evalExpr_complete valid unmemoized unlimited derives
    have comes := isFound place state found poised
    obtain ⟨verdict, after, run, _, isReading, rfl⟩ := comes.exists_result
    exact ⟨depth, verdict, after, run, by rw [isReading]; rfl⟩

/-- Evaluation comes as far as one extent at most. -/
theorem ComesAsFar.unique (valid : session.grammar.error? = none)
    (unmemoized : session.options.memoize = false)
    (unlimited : session.options.maxExpressions = none)
    (found : session.grammar.exprAt? place = some expr)
    (poised : Poised session place.rule start labels store state)
    {extent other : Extent σ}
    (comes : ComesAsFar session place expr state extent)
    (comesToo : ComesAsFar session place expr state other) :
    extent = other := by
  rw [comesAsFar_iff valid unmemoized unlimited found poised] at comes comesToo
  obtain ⟨reading, derives, rfl⟩ := comes
  obtain ⟨readingToo, derivesToo, rfl⟩ := comesToo
  have boundary : Decoded.Boundary session.input start :=
    poised.offset ▸ poised.stands.boundary
  rw [reading_unique valid found boundary derives derivesToo]

end Eval

/-- Expressions that are written alike recognize the same, whatever labels are
around them. -/
theorem Grammar.recognizes_iff_of_render {α σ : Type} (grammar : Grammar α σ)
    (input : ByteArray) {first second : Expr α σ}
    (plain : first.Throughout Expr.Plain)
    (plainToo : second.Throughout Expr.Plain)
    (grouped : first.Throughout Expr.Grouped)
    (groupedToo : second.Throughout Expr.Grouped)
    (same : first.render = second.render) (start : Nat)
    (labels others : Frame α) (store : Store σ) (extent : Extent σ) :
    grammar.Recognizes input first start labels store extent ↔
      grammar.Recognizes input second start others store extent := by
  have accords : grammar.Accords input first :=
    accords_of_codeless (plain.mono fun _ => Expr.Plain.codeless)
  have accordsToo : grammar.Accords input second :=
    accords_of_codeless (plainToo.mono fun _ => Expr.Plain.codeless)
  rw [accords start labels store extent, accordsToo start others store extent,
    grammar.recognizer_eq_of_render input plain plainToo grouped groupedToo
      same]

open Eval in
/-- The writing of expressions is faithful, where everything in them is written
and suffixes apply to lookaheads only where this makes no difference: two
expressions that are written alike recognize the same, whatever labels are
around them, and wherever they stand in a grammar, their evaluation comes
equally far from every offset. -/
theorem Expr.render_faithful {α σ : Type} {first second : Expr α σ}
    (plain : first.Throughout Plain) (plainToo : second.Throughout Plain)
    (grouped : first.Throughout Grouped)
    (groupedToo : second.Throughout Grouped)
    (same : first.render = second.render) :
    (∀ (grammar : Grammar α σ) (input : ByteArray) (start : Nat)
        (labels others : Frame α) (store : Store σ) (extent : Extent σ),
      grammar.Recognizes input first start labels store extent ↔
        grammar.Recognizes input second start others store extent) ∧
      ∀ (session : Session α σ) (place other : ExprPlace) (start : Nat)
        (labels others : Frame α) (store : Store σ)
        (state stateToo : ParseState α σ) (extent : Extent σ),
        session.grammar.error? = none → session.options.memoize = false →
        session.options.maxExpressions = none →
        session.grammar.exprAt? place = some first →
        session.grammar.exprAt? other = some second →
        Poised session place.rule start labels store state →
        Poised session other.rule start others store stateToo →
          (ComesAsFar session place first state extent ↔
            ComesAsFar session other second stateToo extent) := by
  constructor
  · intro grammar input
    exact grammar.recognizes_iff_of_render input plain plainToo grouped
      groupedToo same
  · intro session place other start labels others store state stateToo extent
      valid unmemoized unlimited found foundToo poised poisedToo
    rw [comesAsFar_iff valid unmemoized unlimited found poised,
      comesAsFar_iff valid unmemoized unlimited foundToo poisedToo]
    exact session.grammar.recognizes_iff_of_render session.input plain plainToo
      grouped groupedToo same start labels others store extent

namespace Grammar

open Eval

/-- Three letters in a sequence in a sequence. -/
def nested : Expr Unit :=
  .sequence [.exactly "a", .sequence [.exactly "b", .exactly "c"]]

/-- The same letters in one sequence. -/
def flat : Expr Unit :=
  .sequence [.exactly "a", .exactly "b", .exactly "c"]

theorem throughout_letters {holds : Expr Unit → Prop}
    (letter : ∀ text, holds (.exactly text))
    (sequence : ∀ exprs ≠ [], holds (.sequence exprs)) :
    nested.Throughout holds ∧ flat.Throughout holds := by
  have leaf : ∀ text, (Expr.exactly text).Throughout holds :=
    fun text => .intro (letter text) (List.forall_mem_nil _)
  constructor
  · refine .intro (sequence _ (List.cons_ne_nil _ _)) ?_
    simp only [nested, Expr.members, List.forall_mem_cons]
    refine ⟨leaf "a", .intro (sequence _ (List.cons_ne_nil _ _)) ?_,
      List.forall_mem_nil _⟩
    simp [Expr.members, leaf]
  · refine .intro (sequence _ (List.cons_ne_nil _ _)) ?_
    simp [flat, Expr.members, leaf]

/-- Both sequences are written alike, and the second one comes as far as the
first one does. -/
theorem nested_faithful :
    nested.render = flat.render ∧
      ∃ session : Session Unit,
        session = .ofSettings ⟨[⟨"x", "", nested⟩, ⟨"y", "", flat⟩]⟩ ""
          "abc".toUTF8 [] ∧
        ComesAsFar session (.body 1) flat
          (session.opening.enterRule ⟨"y", "", flat⟩)
          (.reaches 3 Store.empty) := by
  have plain : nested.Throughout Expr.Plain ∧ flat.Throughout Expr.Plain :=
    throughout_letters (fun _ => trivial) fun _ nonempty => nonempty
  have grouped : nested.Throughout Expr.Grouped ∧
      flat.Throughout Expr.Grouped :=
    throughout_letters (fun _ => trivial) fun _ _ => trivial
  have same : nested.render = flat.render := by decide +kernel
  refine ⟨same, _, rfl, ?_⟩
  refine ((Expr.render_faithful plain.1 plain.2 grouped.1 grouped.2 same).2
    _ (.body 0) (.body 1) 0 Frame.empty Frame.empty Store.empty _ _ _
    rfl rfl rfl rfl rfl (poised_entering _ rfl) (poised_entering _ rfl)).mp ?_
  exact ⟨8, _, _, rfl, rfl⟩

/-- The repetition of a lookahead. -/
def repeatedLookahead : Expr Unit := .zeroOrMore (.notFollowedBy (.exactly "a"))

/-- A lookahead at a repetition. -/
def lookaheadAtRepetition : Expr Unit :=
  .notFollowedBy (.zeroOrMore (.exactly "a"))

theorem throughout_lookaheads {holds : Expr Unit → Prop}
    (letter : ∀ text, holds (.exactly text))
    (repeated : ∀ expr, holds (.zeroOrMore expr))
    (lookahead : ∀ expr, holds (.notFollowedBy expr)) :
    repeatedLookahead.Throughout holds ∧
      lookaheadAtRepetition.Throughout holds := by
  have leaf : ∀ text, (Expr.exactly text).Throughout holds :=
    fun text => .intro (letter text) (List.forall_mem_nil _)
  constructor
  · refine .intro (repeated _) (List.forall_mem_singleton.mpr ?_)
    exact .intro (lookahead _) (List.forall_mem_singleton.mpr (leaf _))
  · refine .intro (lookahead _) (List.forall_mem_singleton.mpr ?_)
    exact .intro (repeated _) (List.forall_mem_singleton.mpr (leaf _))

/-- Both are written alike, but in front of anything else than the letter the
repetition matches, and the lookahead never does. -/
theorem lookaheads_unfaithful :
    repeatedLookahead.Throughout Expr.Plain ∧
      lookaheadAtRepetition.Throughout Expr.Plain ∧
      repeatedLookahead.render = "!\"a\"*" ∧
      lookaheadAtRepetition.render = "!\"a\"*" ∧
      ∃ session : Session Unit,
        session = .ofSettings ⟨[⟨"x", "", repeatedLookahead⟩,
          ⟨"y", "", lookaheadAtRepetition⟩]⟩ "" ByteArray.empty [] ∧
        session.grammar.error? = none ∧
        ComesAsFar session (.body 0) repeatedLookahead
          (session.opening.enterRule ⟨"x", "", repeatedLookahead⟩)
          (.reaches 0 Store.empty) ∧
        ComesAsFar session (.body 1) lookaheadAtRepetition
          (session.opening.enterRule ⟨"y", "", lookaheadAtRepetition⟩)
          (.fails Store.empty) ∧
        ¬ ComesAsFar session (.body 1) lookaheadAtRepetition
          (session.opening.enterRule ⟨"y", "", lookaheadAtRepetition⟩)
          (.reaches 0 Store.empty) := by
  have plain : repeatedLookahead.Throughout Expr.Plain ∧
      lookaheadAtRepetition.Throughout Expr.Plain :=
    throughout_lookaheads (fun _ => trivial) (fun _ => trivial)
      fun _ => trivial
  refine ⟨plain.1, plain.2, by decide +kernel, by decide +kernel, _, rfl, rfl,
    ⟨8, _, _, rfl, rfl⟩, ⟨8, _, _, rfl, rfl⟩, ?_⟩
  intro comes
  have fails : Extent.reaches 0 Store.empty = .fails Store.empty :=
    ComesAsFar.unique rfl rfl rfl rfl (poised_entering _ rfl) comes
      ⟨8, _, _, rfl, rfl⟩
  cases fails

/-- A letter that is counted. -/
def countedLetter : Rule Unit Nat :=
  ⟨"x", "", .action (.exactly "a") fun seen =>
    (.answer seen.value, seen.store.set "count"
      (some ((seen.store.get? "count").getD 0 + 1)))⟩

/-- The end of a sequence in which one letter has been counted. -/
def oneCounted : Rule Unit Nat :=
  ⟨"y", "", .require (Code.pure fun seen =>
    .answer (seen.store.get? "count" == some 1))⟩

/-- The repetition of a lookahead at the letter. -/
def repeatedGlance : Expr Unit Nat :=
  .sequence [.oneOrMore (.followedBy (.reference "x")), .reference "y"]

/-- A lookahead at the repetition of the letter. -/
def glanceAtRepetition : Expr Unit Nat :=
  .sequence [.followedBy (.oneOrMore (.reference "x")), .reference "y"]

theorem throughout_glances {holds : Expr Unit Nat → Prop}
    (reference : ∀ name, Lexeme.IsName name → holds (.reference name))
    (sequence : ∀ exprs ≠ [], holds (.sequence exprs))
    (repeated : ∀ expr, holds (.oneOrMore expr))
    (lookahead : ∀ expr, holds (.followedBy expr)) :
    repeatedGlance.Throughout holds ∧ glanceAtRepetition.Throughout holds := by
  have letter : (Expr.reference "x").Throughout holds :=
    .intro (reference "x" ⟨by decide, List.forall_mem_singleton.mpr (by decide)⟩)
      (List.forall_mem_nil _)
  have ending : (Expr.reference "y").Throughout holds :=
    .intro (reference "y" ⟨by decide, List.forall_mem_singleton.mpr (by decide)⟩)
      (List.forall_mem_nil _)
  constructor
  · refine .intro (sequence _ (List.cons_ne_nil _ _))
      (List.forall_mem_cons.mpr ⟨.intro (repeated _) ?_,
        List.forall_mem_singleton.mpr ending⟩)
    exact List.forall_mem_singleton.mpr
      (.intro (lookahead _) (List.forall_mem_singleton.mpr letter))
  · refine .intro (sequence _ (List.cons_ne_nil _ _))
      (List.forall_mem_cons.mpr ⟨.intro (lookahead _) ?_,
        List.forall_mem_singleton.mpr ending⟩)
    exact List.forall_mem_singleton.mpr
      (.intro (repeated _) (List.forall_mem_singleton.mpr letter))

/-- Both are written alike, but the lookahead that is repeated counts one letter
of two, and the lookahead at a repetition counts both. -/
theorem glances_unfaithful :
    (repeatedGlance.Throughout Expr.Plain ∧
      glanceAtRepetition.Throughout Expr.Plain) ∧
      repeatedGlance.render = glanceAtRepetition.render ∧
      ∃ session : Session Unit Nat,
        session = .ofSettings ⟨[⟨"p", "", repeatedGlance⟩,
          ⟨"q", "", glanceAtRepetition⟩, countedLetter, oneCounted]⟩ ""
          "aa".toUTF8 [] ∧
        session.grammar.error? = none ∧
        (∃ last, ComesAsFar session (.body 0) repeatedGlance
          (session.opening.enterRule ⟨"p", "", repeatedGlance⟩)
          (.reaches 0 last)) ∧
        ∃ last, ComesAsFar session (.body 1) glanceAtRepetition
          (session.opening.enterRule ⟨"q", "", glanceAtRepetition⟩)
          (.fails last) := by
  have plain : repeatedGlance.Throughout Expr.Plain ∧
      glanceAtRepetition.Throughout Expr.Plain :=
    throughout_glances (fun _ => id) (fun _ => id) (fun _ => trivial)
      fun _ => trivial
  exact ⟨plain, by decide +kernel, _, rfl, by decide,
    ⟨_, 12, _, _, rfl, rfl⟩, ⟨_, 12, _, _, rfl, rfl⟩⟩

end Grammar

end PegEngine
