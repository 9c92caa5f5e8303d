import PegEngine.Proofs.Recognition

/-!
# Suffixes and lookaheads

A suffix that applies to a lookahead is written like one that applies to the
term behind the lookahead.  Mostly this makes no difference.  An optional
lookahead is a lookahead at something optional, unless it is a negative one.  A
lookahead that is repeated does not move, so that it is tried once; and the term
behind it matches as soon as it does once, so that there is no need to repeat it
either.  But this takes a term of which a round more or less cannot be noticed,
because it comes to an end and leaves the store as it is (`Recognizer.Tame`).
An expression is such a term if it runs no code, neither of its own nor by
references (`Grammar.tame_recognizer`).
-/

namespace PegEngine

/-- An extent leaves the store as it was, and is reached by going onward from
one code point to the next. -/
inductive Extent.Onward {σ : Type} (input : ByteArray) (start : Nat)
    (store : Store σ) : Extent σ → Prop
  | fails : Onward input start store (.fails store)
  | reaches {finish : Nat}
      (follows : Relation.ReflTransGen (Decoded.Follows input) start finish) :
      Onward input start store (.reaches finish store)

namespace Recognizer

variable {σ : Type} {input : ByteArray} {first later body : Recognizer σ}

/-- Something always comes to an end, goes onward only, and leaves the store as
it is. -/
structure Tame (input : ByteArray) (recognizer : Recognizer σ) : Prop where
  comes : ∀ start store, ∃ extent, recognizer start store extent
  onward : ∀ {start store extent}, recognizer start store extent →
    extent.Onward input start store

section Tame

theorem tame_stays : Tame input (Stays (σ := σ)) where
  comes _ _ := ⟨_, .stays _ _⟩
  onward
    | .stays _ _ => .reaches .refl

theorem tame_never : Tame input (Never (σ := σ)) where
  comes _ _ := ⟨_, .fails _ _⟩
  onward
    | .fails _ _ => .fails

theorem Tame.andThen (tame : Tame input first) (tameToo : Tame input later) :
    Tame input (AndThen first later) where
  comes start store := by
    obtain ⟨extent, comes⟩ := tame.comes start store
    cases extent with
    | fails last => exact ⟨_, .fails comes⟩
    | reaches middle next =>
        obtain ⟨extent, comesToo⟩ := tameToo.comes middle next
        exact ⟨extent, .goesOn comes comesToo⟩
  onward
    | .fails fails => by
        cases tame.onward fails
        exact .fails
    | .goesOn reaches goesOn => by
        cases tame.onward reaches with
        | reaches follows =>
            cases tameToo.onward goesOn with
            | fails => exact .fails
            | reaches followsToo => exact .reaches (follows.trans followsToo)

theorem Tame.orElse (tame : Tame input first) (tameToo : Tame input later) :
    Tame input (OrElse first later) where
  comes start store := by
    obtain ⟨extent, comes⟩ := tame.comes start store
    cases extent with
    | fails next =>
        obtain ⟨extent, comesToo⟩ := tameToo.comes start next
        exact ⟨extent, .other comes comesToo⟩
    | reaches finish last => exact ⟨_, .reaches comes⟩
  onward
    | .reaches reaches => tame.onward reaches
    | .other fails other => by
        cases tame.onward fails
        exact tameToo.onward other

theorem Tame.optional (tame : Tame input body) :
    Tame input (Optional body) where
  comes start store := by
    obtain ⟨extent, comes⟩ := tame.comes start store
    cases extent with
    | fails last => exact ⟨_, .stays comes⟩
    | reaches finish last => exact ⟨_, .reaches comes⟩
  onward
    | .stays fails => by
        cases tame.onward fails
        exact .reaches .refl
    | .reaches reaches => tame.onward reaches

theorem Tame.ahead (tame : Tame input body) :
    Tame input (Ahead body) where
  comes start store := by
    obtain ⟨extent, comes⟩ := tame.comes start store
    cases extent with
    | fails last => exact ⟨_, .fails comes⟩
    | reaches finish last => exact ⟨_, .stays comes⟩
  onward
    | .fails fails => tame.onward fails
    | .stays reaches => by
        cases tame.onward reaches
        exact .reaches .refl

theorem Tame.notAhead (tame : Tame input body) :
    Tame input (NotAhead body) where
  comes start store := by
    obtain ⟨extent, comes⟩ := tame.comes start store
    cases extent with
    | fails last => exact ⟨_, .stays comes⟩
    | reaches finish last => exact ⟨_, .fails comes⟩
  onward
    | .stays fails => by
        cases tame.onward fails
        exact .reaches .refl
    | .fails reaches => by
        cases tame.onward reaches
        exact .fails

/-- A round that moves takes something off what is left of the input. -/
theorem left_lt {start middle : Nat}
    (follows : Relation.ReflTransGen (Decoded.Follows input) start middle)
    (moves : middle ≠ start) : input.size - middle < input.size - start := by
  obtain rfl | ⟨next, step, later⟩ := follows.cases_head
  · exact absurd rfl moves
  · have less := step.lt
    have le := Decoded.le_of_follows later
    have within := step.1
    omega

/-- Every round moves on or is the last one, so repeating something tame comes to
an end. -/
theorem Tame.repeated_comes (tame : Tame input body) (start : Nat)
    (store : Store σ) : ∃ finish, Repeated body start store
      (.reaches finish store) := by
  obtain ⟨extent, comes⟩ := tame.comes start store
  cases tame.onward comes with
  | fails => exact ⟨start, .ends comes⟩
  | @reaches middle follows =>
      by_cases moves : middle = start
      · subst moves
        exact ⟨middle, .stays comes⟩
      · obtain ⟨finish, later⟩ := tame.repeated_comes middle store
        exact ⟨finish, .goesOn comes moves later⟩
termination_by input.size - start
decreasing_by exact left_lt follows moves

theorem Tame.repeated (tame : Tame input body) :
    Tame input (Repeated body) where
  comes start store :=
    have ⟨_, comes⟩ := tame.repeated_comes start store
    ⟨_, comes⟩
  onward repeated := by
    induction repeated with
    | ends fails =>
        cases tame.onward fails
        exact .reaches .refl
    | stays stays => exact tame.onward stays
    | goesOn reaches moves later ih =>
        cases tame.onward reaches with
        | reaches follows =>
            cases ih with
            | fails => exact .fails
            | reaches followsToo => exact .reaches (follows.trans followsToo)

theorem Tame.repeatedOnce (tame : Tame input body) :
    Tame input (RepeatedOnce body) where
  comes start store := by
    obtain ⟨extent, comes⟩ := tame.comes start store
    cases extent with
    | fails last => exact ⟨_, .fails comes⟩
    | reaches middle next =>
        by_cases moves : middle = start
        · subst moves
          exact ⟨_, .stays comes⟩
        · obtain ⟨extent, later⟩ := tame.repeated.comes middle next
          exact ⟨extent, .goesOn comes moves later⟩
  onward
    | .fails fails => tame.onward fails
    | .stays stays => tame.onward stays
    | .goesOn reaches moves later => by
        cases tame.onward reaches with
        | reaches follows =>
            cases tame.repeated.onward later with
            | fails => exact .fails
            | reaches followsToo => exact .reaches (follows.trans followsToo)

end Tame

section Alike

/-- Two things fail alike, and match alike, if not up to the same offset; and
they leave the same store. -/
structure Alike (first later : Recognizer σ) : Prop where
  fails : ∀ start store last,
    first start store (.fails last) ↔ later start store (.fails last)
  reaches : ∀ start store last,
    (∃ finish, first start store (.reaches finish last)) ↔
      ∃ finish, later start store (.reaches finish last)

theorem Alike.symm (alike : Alike first later) : Alike later first where
  fails _ _ _ := (alike.fails _ _ _).symm
  reaches _ _ _ := (alike.reaches _ _ _).symm

theorem Alike.ahead (alike : Alike first later) {start : Nat} {store : Store σ}
    {extent : Extent σ} (ahead : Ahead first start store extent) :
    Ahead later start store extent := by
  cases ahead with
  | fails fails => exact .fails ((alike.fails _ _ _).mp fails)
  | stays reaches =>
      obtain ⟨finish, reaches⟩ := (alike.reaches _ _ _).mp ⟨_, reaches⟩
      exact .stays reaches

theorem Alike.notAhead (alike : Alike first later) {start : Nat}
    {store : Store σ} {extent : Extent σ}
    (notAhead : NotAhead first start store extent) :
    NotAhead later start store extent := by
  cases notAhead with
  | stays fails => exact .stays ((alike.fails _ _ _).mp fails)
  | fails reaches =>
      obtain ⟨finish, reaches⟩ := (alike.reaches _ _ _).mp ⟨_, reaches⟩
      exact .fails reaches

/-- A repetition never fails. -/
theorem exists_of_repeated {start : Nat} {store : Store σ} {extent : Extent σ}
    (repeated : Repeated body start store extent) :
    ∃ finish last, extent = .reaches finish last := by
  induction repeated with
  | ends | stays => exact ⟨_, _, rfl⟩
  | goesOn reaches moves later ih => exact ih

/-- Something tame matches once if it matches once or more. -/
theorem Tame.alike_repeatedOnce (tame : Tame input body) :
    Alike body (RepeatedOnce body) where
  fails start store last := by
    refine ⟨.fails, fun fails => ?_⟩
    cases fails with
    | fails fails => exact fails
    | goesOn reaches moves later =>
        obtain ⟨_, _, ⟨⟩⟩ := exists_of_repeated later
  reaches start store last := by
    constructor
    · rintro ⟨finish, reaches⟩
      by_cases moves : finish = start
      · exact ⟨start, .stays (moves ▸ reaches)⟩
      · cases tame.onward reaches
        obtain ⟨further, later⟩ := tame.repeated_comes finish store
        exact ⟨further, .goesOn reaches moves later⟩
    · rintro ⟨finish, once⟩
      cases once with
      | stays stays => exact ⟨_, stays⟩
      | goesOn reaches moves later =>
          cases tame.onward reaches
          cases tame.repeated.onward later
          exact ⟨_, reaches⟩

/-- Something tame never fails if it is optional or repeated. -/
theorem Tame.alike_repeated (tame : Tame input body) :
    Alike (Optional body) (Repeated body) where
  fails start store last := by
    refine iff_of_false nofun fun fails => ?_
    obtain ⟨_, _, ⟨⟩⟩ := exists_of_repeated fails
  reaches start store last := by
    constructor
    · rintro ⟨finish, reaches⟩
      cases tame.optional.onward reaches
      exact tame.repeated_comes start store
    · rintro ⟨finish, reaches⟩
      cases tame.repeated.onward reaches
      obtain ⟨extent, comes⟩ := tame.comes start store
      cases tame.onward comes with
      | fails => exact ⟨_, .stays comes⟩
      | reaches follows => exact ⟨_, .reaches comes⟩

end Alike

section Behind

/-- A lookahead, which may be a negative one. -/
def lookingAhead (isNegative : Bool) (body : Recognizer σ) : Recognizer σ :=
  if isNegative then NotAhead body else Ahead body

/-- Something behind lookaheads, the first of which applies to all the rest. -/
def behind (lookaheads : List Bool) (term : Recognizer σ) : Recognizer σ :=
  lookaheads.foldr lookingAhead term

variable {isNegative : Bool} {lookaheads : List Bool}

/-- How far something comes does not matter to a lookahead. -/
theorem Alike.lookingAhead_eq (alike : Alike first later) :
    lookingAhead isNegative first = lookingAhead isNegative later := by
  cases isNegative with
  | true => exact ext fun _ _ _ => ⟨alike.notAhead, alike.symm.notAhead⟩
  | false => exact ext fun _ _ _ => ⟨alike.ahead, alike.symm.ahead⟩

/-- A lookahead stays where it is. -/
theorem finish_of_lookingAhead {start finish : Nat} {store last : Store σ}
    (reaches : lookingAhead isNegative body start store
      (.reaches finish last)) : finish = start := by
  cases isNegative with
  | true => cases reaches with | stays => rfl
  | false => cases reaches with | stays => rfl

theorem repeatedOnce_lookingAhead :
    RepeatedOnce (lookingAhead isNegative body) =
      lookingAhead isNegative body := by
  refine ext fun start store extent => ⟨fun once => ?_, fun ahead => ?_⟩
  · cases once with
    | fails fails => exact fails
    | stays stays => exact stays
    | goesOn reaches moves later =>
        exact absurd (finish_of_lookingAhead reaches) moves
  · cases extent with
    | fails last => exact .fails ahead
    | reaches finish last =>
        obtain rfl := finish_of_lookingAhead ahead
        exact .stays ahead

theorem repeated_lookingAhead :
    Repeated (lookingAhead isNegative body) =
      Optional (lookingAhead isNegative body) := by
  refine ext fun start store extent => ⟨fun repeated => ?_, fun optional => ?_⟩
  · cases repeated with
    | ends fails => exact .stays fails
    | stays stays => exact .reaches stays
    | goesOn reaches moves later =>
        exact absurd (finish_of_lookingAhead reaches) moves
  · cases optional with
    | stays fails => exact .ends fails
    | reaches reaches =>
        obtain rfl := finish_of_lookingAhead reaches
        exact .stays reaches

/-- Being optional passes through a lookahead that is not negative. -/
theorem optional_ahead : Optional (Ahead body) = Ahead (Optional body) := by
  refine ext fun start store extent => ⟨fun optional => ?_, fun ahead => ?_⟩
  · cases optional with
    | stays fails =>
        cases fails with | fails fails => exact .stays (.stays fails)
    | reaches reaches =>
        cases reaches with | stays reaches => exact .stays (.reaches reaches)
  · cases ahead with
    | fails fails => cases fails
    | stays reaches =>
        cases reaches with
        | stays fails => exact .stays (.fails fails)
        | reaches reaches => exact .reaches (.stays reaches)

theorem Alike.behind_eq (alike : Alike first later)
    (nonempty : lookaheads ≠ []) :
    behind lookaheads first = behind lookaheads later := by
  induction lookaheads with
  | nil => exact absurd rfl nonempty
  | cons isNegative lookaheads ih =>
      cases lookaheads with
      | nil => exact alike.lookingAhead_eq
      | cons =>
          exact congrArg (lookingAhead isNegative) (ih (List.cons_ne_nil _ _))

/-- Being optional passes through lookaheads of which none is negative. -/
theorem optional_behind (positive : true ∉ lookaheads) :
    Optional (behind lookaheads body) = behind lookaheads (Optional body) := by
  induction lookaheads with
  | nil => rfl
  | cons isNegative lookaheads ih =>
      obtain ⟨apart, later⟩ := not_or.mp (mt List.mem_cons.mpr positive)
      obtain rfl : isNegative = false := by simpa using apart
      calc
        _ = Ahead (Optional (behind lookaheads body)) := optional_ahead
        _ = _ := congrArg Ahead (ih later)

/-- Being repeated, at least once, passes through any lookaheads. -/
theorem repeatedOnce_behind (tame : Tame input body) :
    RepeatedOnce (behind lookaheads body) =
      behind lookaheads (RepeatedOnce body) := by
  cases lookaheads with
  | nil => rfl
  | cons isNegative lookaheads =>
      calc
        _ = behind (isNegative :: lookaheads) body := repeatedOnce_lookingAhead
        _ = _ := tame.alike_repeatedOnce.behind_eq (List.cons_ne_nil _ _)

/-- Being repeated passes through lookaheads of which none is negative. -/
theorem repeated_behind (tame : Tame input body)
    (positive : true ∉ lookaheads) :
    Repeated (behind lookaheads body) =
      behind lookaheads (Repeated body) := by
  cases lookaheads with
  | nil => rfl
  | cons isNegative lookaheads =>
      calc
        _ = Optional (behind (isNegative :: lookaheads) body) :=
          repeated_lookingAhead
        _ = behind (isNegative :: lookaheads) (Optional body) :=
          optional_behind positive
        _ = _ := tame.alike_repeated.behind_eq (List.cons_ne_nil _ _)

end Behind

end Recognizer

namespace Expr

variable {α σ : Type}

/-- The lookaheads with which the writing of an expression begins, each given by
whether it is negative.  Suffixes are written behind what they apply to. -/
def lookaheads : Expr α σ → List Bool
  | .followedBy body => false :: body.lookaheads
  | .notFollowedBy body => true :: body.lookaheads
  | .zeroOrMore body | .oneOrMore body | .optional body => body.lookaheads
  | _ => []

/-- Suffixes do not apply to lookaheads, or it makes no difference whether they
do: being optional passes through lookaheads that are not negative, being
repeated passes through them if they look at something that runs no rule, and in
that case being repeated at least once passes through negative ones as well. -/
def Grouped : Expr α σ → Prop
  | .zeroOrMore body =>
    body.lookaheads = [] ∨ true ∉ body.lookaheads ∧ body.references = []
  | .oneOrMore body => body.lookaheads = [] ∨ body.references = []
  | .optional body => true ∉ body.lookaheads
  | _ => True

end Expr

namespace Grammar

variable {α σ : Type} {grammar : Grammar α σ} {input : ByteArray}

open Recognizer

theorem tame_literal (text : String) (ignoresCase : Bool) :
    Tame input (grammar.recognizer input (.literal text ignoresCase)) where
  comes start store := by
    by_cases spelled : ∃ finish,
        Decoded.Spelled input ignoresCase text.toList start finish
    · obtain ⟨finish, spelled⟩ := spelled
      exact ⟨_, _, .literal spelled, rfl⟩
    · exact ⟨_, _, .literalFails (not_exists.mp spelled), rfl⟩
  onward := by
    rintro start store _ ⟨_, derives, rfl⟩
    cases derives with
    | literal spelled => exact .reaches spelled.follows
    | literalFails differs => exact .fails

theorem tame_oneOf (charClass : CharClass) :
    Tame input (grammar.recognizer input (.oneOf charClass)) where
  comes start store := by
    by_cases next : ∃ char,
        (Decoded.ofBytesAt input start).codePoint = some char ∧
          charClass.accepts char = true
    · obtain ⟨char, read, accepted⟩ := next
      exact ⟨_, _, .oneOf read accepted, rfl⟩
    · refine ⟨_, _, .oneOfFails fun char read => ?_, rfl⟩
      exact Bool.eq_false_iff.mpr fun accepted => next ⟨char, read, accepted⟩
  onward := by
    rintro start store _ ⟨_, derives, rfl⟩
    cases derives with
    | oneOf read accepted =>
        exact .reaches (.single (Decoded.follows_of_read read))
    | oneOfFails rejected => exact .fails

theorem tame_any : Tame input (grammar.recognizer input .any) where
  comes start store := by
    cases read : (Decoded.ofBytesAt input start).codePoint with
    | some char => exact ⟨_, _, .any read, rfl⟩
    | none => exact ⟨_, _, .anyFails read, rfl⟩
  onward := by
    rintro start store _ ⟨_, derives, rfl⟩
    cases derives with
    | any read => exact .reaches (.single (Decoded.follows_of_read read))
    | anyFails atEnd => exact .fails

variable {exprs : List (Expr α σ)}

theorem tame_inTurn
    (tame : ∀ expr ∈ exprs, Tame input (grammar.recognizer input expr)) :
    Tame input (grammar.recognizerInTurn input exprs) := by
  induction exprs with
  | nil => exact tame_stays
  | cons expr exprs ih =>
      obtain ⟨first, later⟩ := List.forall_mem_cons.mp tame
      exact first.andThen (ih later)

theorem tame_ofFirst
    (tame : ∀ expr ∈ exprs, Tame input (grammar.recognizer input expr)) :
    Tame input (grammar.recognizerOfFirst input exprs) := by
  induction exprs with
  | nil => exact tame_never
  | cons expr exprs ih =>
      obtain ⟨first, later⟩ := List.forall_mem_cons.mp tame
      exact first.orElse (ih later)

/-- An expression is tame if it neither runs code itself nor refers to a rule
which might. -/
theorem tame_recognizer {expr : Expr α σ}
    (codeless : expr.Throughout Expr.Codeless)
    (isolated : expr.references = []) :
    Tame input (grammar.recognizer input expr) := by
  induction codeless with
  | @intro expr here members ih =>
      have ih := fun member isMember => ih member isMember
        (List.eq_nil_iff_forall_not_mem.mpr fun name refers =>
          List.eq_nil_iff_forall_not_mem.mp isolated name
            (Expr.mem_references_of_member isMember refers))
      cases expr with
      | literal text ignoresCase => exact tame_literal text ignoresCase
      | oneOf charClass => exact tame_oneOf charClass
      | any => exact tame_any
      | sequence exprs => exact tame_inTurn ih
      | choice exprs => exact tame_ofFirst ih
      | zeroOrMore body => exact (ih body (.head _)).repeated
      | oneOrMore body => exact (ih body (.head _)).repeatedOnce
      | optional body => exact (ih body (.head _)).optional
      | followedBy body => exact (ih body (.head _)).ahead
      | notFollowedBy body => exact (ih body (.head _)).notAhead
      | labeled label body => exact ih body (.head _)
      | reference name => cases isolated
      | action | require | forbid => exact here.elim

end Grammar

end PegEngine
