import PegEngine.Proofs.Places
import PegEngine.Proofs.Semantics

/-!
# What an expression recognizes

Values and labels aside, an expression either fails or comes to an offset, and
leaves a store in either case (`Extent`).  Without code of its own an expression
does not look at the labels around it (`Grammar.Derives.exists_extent`), so that
what it recognizes is a relation between an offset, a store, and an extent
(`Recognizer`), which is put together from those of its members: each operator
of the notation has its counterpart among recognizers, and the equations at the
end of this file say so.
-/

namespace PegEngine

/-- How far an expression comes: it fails, or it comes to an offset.  The store
is what it leaves. -/
inductive Extent (σ : Type) where
  | fails (store : Store σ)
  | reaches (finish : Nat) (store : Store σ)

def Reading.extent {α σ : Type} : Reading α σ → Extent σ
  | .fails store => .fails store
  | .succeeds _ finish _ store => .reaches finish store

/-- How far something may come from an offset, with a store. -/
abbrev Recognizer (σ : Type) := Nat → Store σ → Extent σ → Prop

namespace Recognizer

variable {σ : Type}

theorem ext {first second : Recognizer σ}
    (same : ∀ start store extent,
      first start store extent ↔ second start store extent) :
    first = second := by
  funext start store extent
  exact propext (same start store extent)

/-- Recognize nothing, and stay. -/
inductive Stays : Nat → Store σ → Extent σ → Prop
  | stays (start : Nat) (store : Store σ) :
      Stays start store (.reaches start store)

inductive Never : Nat → Store σ → Extent σ → Prop
  | fails (start : Nat) (store : Store σ) : Never start store (.fails store)

inductive AndThen (first later : Recognizer σ) : Nat → Store σ → Extent σ → Prop
  | fails {start : Nat} {store last : Store σ}
      (fails : first start store (.fails last)) :
      AndThen first later start store (.fails last)
  | goesOn {start middle : Nat} {store next : Store σ} {extent : Extent σ}
      (reaches : first start store (.reaches middle next))
      (goesOn : later middle next extent) :
      AndThen first later start store extent

inductive OrElse (first later : Recognizer σ) : Nat → Store σ → Extent σ → Prop
  | reaches {start finish : Nat} {store last : Store σ}
      (reaches : first start store (.reaches finish last)) :
      OrElse first later start store (.reaches finish last)
  | other {start : Nat} {store next : Store σ} {extent : Extent σ}
      (fails : first start store (.fails next))
      (other : later start next extent) :
      OrElse first later start store extent

/-- Recognize something over and over, until it fails or stays. -/
inductive Repeated (body : Recognizer σ) : Nat → Store σ → Extent σ → Prop
  | ends {start : Nat} {store last : Store σ}
      (fails : body start store (.fails last)) :
      Repeated body start store (.reaches start last)
  | stays {start : Nat} {store last : Store σ}
      (stays : body start store (.reaches start last)) :
      Repeated body start store (.reaches start last)
  | goesOn {start middle : Nat} {store next : Store σ} {extent : Extent σ}
      (reaches : body start store (.reaches middle next))
      (moves : middle ≠ start) (later : Repeated body middle next extent) :
      Repeated body start store extent

inductive RepeatedOnce (body : Recognizer σ) : Nat → Store σ → Extent σ → Prop
  | fails {start : Nat} {store last : Store σ}
      (fails : body start store (.fails last)) :
      RepeatedOnce body start store (.fails last)
  | stays {start : Nat} {store last : Store σ}
      (stays : body start store (.reaches start last)) :
      RepeatedOnce body start store (.reaches start last)
  | goesOn {start middle : Nat} {store next : Store σ} {extent : Extent σ}
      (reaches : body start store (.reaches middle next))
      (moves : middle ≠ start) (later : Repeated body middle next extent) :
      RepeatedOnce body start store extent

inductive Optional (body : Recognizer σ) : Nat → Store σ → Extent σ → Prop
  | stays {start : Nat} {store last : Store σ}
      (fails : body start store (.fails last)) :
      Optional body start store (.reaches start last)
  | reaches {start finish : Nat} {store last : Store σ}
      (reaches : body start store (.reaches finish last)) :
      Optional body start store (.reaches finish last)

inductive Ahead (body : Recognizer σ) : Nat → Store σ → Extent σ → Prop
  | fails {start : Nat} {store last : Store σ}
      (fails : body start store (.fails last)) :
      Ahead body start store (.fails last)
  | stays {start finish : Nat} {store last : Store σ}
      (reaches : body start store (.reaches finish last)) :
      Ahead body start store (.reaches start last)

inductive NotAhead (body : Recognizer σ) : Nat → Store σ → Extent σ → Prop
  | stays {start : Nat} {store last : Store σ}
      (fails : body start store (.fails last)) :
      NotAhead body start store (.reaches start last)
  | fails {start finish : Nat} {store last : Store σ}
      (reaches : body start store (.reaches finish last)) :
      NotAhead body start store (.fails last)

variable (first second third : Recognizer σ)

theorem andThen_stays : AndThen first Stays = first := by
  refine ext fun start store extent => ⟨fun holds => ?_, fun holds => ?_⟩
  · cases holds with
    | fails fails => exact fails
    | goesOn reaches goesOn =>
        cases goesOn
        exact reaches
  · cases extent with
    | fails last => exact .fails holds
    | reaches finish last => exact .goesOn holds (.stays _ _)

theorem orElse_never : OrElse first Never = first := by
  refine ext fun start store extent => ⟨fun holds => ?_, fun holds => ?_⟩
  · cases holds with
    | reaches reaches => exact reaches
    | other fails other =>
        cases other
        exact fails
  · cases extent with
    | fails last => exact .other holds (.fails _ _)
    | reaches finish last => exact .reaches holds

theorem andThen_assoc :
    AndThen (AndThen first second) third =
      AndThen first (AndThen second third) := by
  refine ext fun start store extent => ⟨fun holds => ?_, fun holds => ?_⟩
  · cases holds with
    | fails fails =>
        cases fails with
        | fails fails => exact .fails fails
        | goesOn reaches fails => exact .goesOn reaches (.fails fails)
    | goesOn both goesOn =>
        cases both with
        | goesOn reaches both => exact .goesOn reaches (.goesOn both goesOn)
  · cases holds with
    | fails fails => exact .fails (.fails fails)
    | goesOn reaches later =>
        cases later with
        | fails fails => exact .fails (.goesOn reaches fails)
        | goesOn both goesOn => exact .goesOn (.goesOn reaches both) goesOn

theorem orElse_assoc :
    OrElse (OrElse first second) third =
      OrElse first (OrElse second third) := by
  refine ext fun start store extent => ⟨fun holds => ?_, fun holds => ?_⟩
  · cases holds with
    | reaches either =>
        cases either with
        | reaches reaches => exact .reaches reaches
        | other fails reaches => exact .other fails (.reaches reaches)
    | other neither other =>
        cases neither with
        | other fails failsToo => exact .other fails (.other failsToo other)
  · cases holds with
    | reaches reaches => exact .reaches (.reaches reaches)
    | other fails later =>
        cases later with
        | reaches reaches => exact .reaches (.other fails reaches)
        | other failsToo other => exact .other (.other fails failsToo) other

end Recognizer

/-- Something holds of an expression and of all expressions in it. -/
inductive Expr.Throughout {α σ : Type} (holds : Expr α σ → Prop) :
    Expr α σ → Prop
  | intro {expr : Expr α σ} (here : holds expr)
      (members : ∀ member ∈ expr.members, Throughout holds member) :
      Throughout holds expr

namespace Expr

variable {α σ : Type} {expr : Expr α σ} {holds weaker : Expr α σ → Prop}

theorem Throughout.here (throughout : expr.Throughout holds) : holds expr := by
  cases throughout with
  | intro here members => exact here

theorem Throughout.member (throughout : expr.Throughout holds)
    {member : Expr α σ} (isMember : member ∈ expr.members) :
    member.Throughout holds := by
  cases throughout with
  | intro here members => exact members member isMember

theorem Throughout.mono (throughout : expr.Throughout holds)
    (weaken : ∀ part, holds part → weaker part) : expr.Throughout weaker := by
  induction throughout with
  | intro here members ih => exact .intro (weaken _ here) ih

/-- An expression that does not run code itself. -/
def Codeless : Expr α σ → Prop
  | .action _ _ | .require _ | .forbid _ => False
  | _ => True

end Expr

namespace Grammar

variable {α σ : Type} {grammar : Grammar α σ} {input : ByteArray}

/-- An expression comes as far as an extent, from an offset, with labels and a
store. -/
def Recognizes (grammar : Grammar α σ) (input : ByteArray) (expr : Expr α σ)
    (start : Nat) (labels : Frame α) (store : Store σ) (extent : Extent σ) :
    Prop :=
  ∃ reading, grammar.Derives input expr start labels store reading ∧
    reading.extent = extent

mutual

/-- What an expression recognizes: matchers and references by themselves, and
everything else by what its members recognize. -/
def recognizer (grammar : Grammar α σ) (input : ByteArray) :
    Expr α σ → Recognizer σ
  | .sequence members => recognizerInTurn grammar input members
  | .choice alternatives => recognizerOfFirst grammar input alternatives
  | .zeroOrMore body => .Repeated (recognizer grammar input body)
  | .oneOrMore body => .RepeatedOnce (recognizer grammar input body)
  | .optional body => .Optional (recognizer grammar input body)
  | .followedBy body => .Ahead (recognizer grammar input body)
  | .notFollowedBy body => .NotAhead (recognizer grammar input body)
  | .labeled _ body => recognizer grammar input body
  | expr => fun start store =>
    Recognizes grammar input expr start Frame.empty store

def recognizerInTurn (grammar : Grammar α σ) (input : ByteArray) :
    List (Expr α σ) → Recognizer σ
  | [] => .Stays
  | expr :: exprs =>
    .AndThen (recognizer grammar input expr)
      (recognizerInTurn grammar input exprs)

def recognizerOfFirst (grammar : Grammar α σ) (input : ByteArray) :
    List (Expr α σ) → Recognizer σ
  | [] => .Never
  | expr :: exprs =>
    .OrElse (recognizer grammar input expr)
      (recognizerOfFirst grammar input exprs)

end

/-- What an expression recognizes is told by its recognizer, whatever the labels
around it are. -/
def Accords (grammar : Grammar α σ) (input : ByteArray) (expr : Expr α σ) :
    Prop :=
  ∀ (start : Nat) (labels : Frame α) (store : Store σ) (extent : Extent σ),
    grammar.Recognizes input expr start labels store extent ↔
      grammar.recognizer input expr start store extent

section Operators

variable {body : Expr α σ}

/-- Whatever can be derived is recognized. -/
theorem Accords.recognized {expr : Expr α σ}
    (accords : grammar.Accords input expr) {start : Nat} {labels : Frame α}
    {store : Store σ} {reading : Reading α σ}
    (derives : grammar.Derives input expr start labels store reading) :
    grammar.recognizer input expr start store reading.extent :=
  (accords _ labels _ _).mp ⟨reading, derives, rfl⟩

/-- A failure that is recognized can be derived with any labels. -/
theorem Accords.fails {expr : Expr α σ} (accords : grammar.Accords input expr)
    {start : Nat} {store last : Store σ}
    (recognized : grammar.recognizer input expr start store (.fails last))
    (labels : Frame α) :
    grammar.Derives input expr start labels store (.fails last) := by
  obtain ⟨reading, derives, extent⟩ := (accords _ labels _ _).mpr recognized
  cases reading with
  | fails => cases extent; exact derives
  | succeeds => cases extent

/-- So can a match. -/
theorem Accords.reaches {expr : Expr α σ} (accords : grammar.Accords input expr)
    {start finish : Nat} {store last : Store σ}
    (recognized : grammar.recognizer input expr start store
      (.reaches finish last)) (labels : Frame α) :
    ∃ value bound, grammar.Derives input expr start labels store
      (.succeeds value finish bound last) := by
  obtain ⟨reading, derives, extent⟩ := (accords _ labels _ _).mpr recognized
  cases reading with
  | fails => cases extent
  | succeeds value finish bound last =>
      cases extent
      exact ⟨value, bound, derives⟩

/-- An expression without members accords if it does not look at its labels. -/
theorem accords_of_leaf {expr : Expr α σ}
    (isLeaf : grammar.recognizer input expr = fun start store =>
      grammar.Recognizes input expr start Frame.empty store)
    (ignoresLabels : ∀ (start : Nat) (labels other : Frame α) (store : Store σ)
      (reading : Reading α σ),
      grammar.Derives input expr start labels store reading →
        grammar.Recognizes input expr start other store reading.extent) :
    grammar.Accords input expr := by
  intro start labels store extent
  rw [isLeaf]
  constructor
  · rintro ⟨reading, derives, rfl⟩
    exact ignoresLabels _ _ _ _ _ derives
  · rintro ⟨reading, derives, rfl⟩
    exact ignoresLabels _ _ _ _ _ derives

theorem accords_literal (text : String) (ignoresCase : Bool) :
    grammar.Accords input (.literal text ignoresCase) :=
  accords_of_leaf rfl fun _ _ _ _ _ derives => by
    cases derives with
    | literal spelled => exact ⟨_, .literal spelled, rfl⟩
    | literalFails differs => exact ⟨_, .literalFails differs, rfl⟩

theorem accords_oneOf (charClass : CharClass) :
    grammar.Accords input (.oneOf charClass) :=
  accords_of_leaf rfl fun _ _ _ _ _ derives => by
    cases derives with
    | oneOf read accepted => exact ⟨_, .oneOf read accepted, rfl⟩
    | oneOfFails rejected => exact ⟨_, .oneOfFails rejected, rfl⟩

theorem accords_any : grammar.Accords input .any :=
  accords_of_leaf rfl fun _ _ _ _ _ derives => by
    cases derives with
    | any read => exact ⟨_, .any read, rfl⟩
    | anyFails atEnd => exact ⟨_, .anyFails atEnd, rfl⟩

/-- The body of a rule has labels of its own. -/
theorem accords_reference (name : String) :
    grammar.Accords input (.reference name) :=
  accords_of_leaf rfl fun _ _ _ _ _ derives => by
    cases derives with
    | reference target holds => exact ⟨_, .reference target holds, rfl⟩
    | referenceFails target fails =>
        exact ⟨_, .referenceFails target fails, rfl⟩

theorem Derives.list_of_sequence {exprs : List (Expr α σ)} {start finish : Nat}
    {value : Value α} {labels bound : Frame α} {store last : Store σ}
    (derives : grammar.Derives input (.sequence exprs) start labels store
      (.succeeds value finish bound last)) :
    ∃ values, value = .list values := by
  cases derives with
  | sequenceNil => exact ⟨_, rfl⟩
  | sequenceCons => exact ⟨_, rfl⟩

theorem accords_sequence {exprs : List (Expr α σ)}
    (members : ∀ expr ∈ exprs, grammar.Accords input expr) :
    grammar.Accords input (.sequence exprs) := by
  intro start labels store extent
  change _ ↔ grammar.recognizerInTurn input exprs start store extent
  induction exprs generalizing start labels store extent with
  | nil =>
      constructor
      · rintro ⟨reading, ⟨⟩, rfl⟩
        exact .stays _ _
      · rintro ⟨⟩
        exact ⟨_, .sequenceNil _ _ _, rfl⟩
  | cons expr exprs ih =>
      have first := members expr (.head _)
      have later : grammar.Accords input (.sequence exprs) :=
        ih fun other isOther => members other (.tail _ isOther)
      constructor
      · rintro ⟨reading, derives, rfl⟩
        cases derives with
        | sequenceFails fails =>
            exact .fails (first.recognized fails)
        | sequenceLaterFails holds fails =>
            exact .goesOn (first.recognized holds)
              (later.recognized fails)
        | sequenceCons holds holdsToo =>
            have rest := later.recognized holdsToo
            exact .goesOn (first.recognized holds) rest
      · intro both
        cases both with
        | fails fails =>
            exact ⟨_, .sequenceFails (first.fails fails _), rfl⟩
        | goesOn reaches goesOn =>
            obtain ⟨value, bound, holds⟩ :=
              first.reaches reaches labels
            obtain ⟨reading, derives, rfl⟩ := (later _ bound _ _).mpr goesOn
            cases reading with
            | fails last => exact ⟨_, .sequenceLaterFails holds derives, rfl⟩
            | succeeds value finish final last =>
                obtain ⟨values, rfl⟩ := derives.list_of_sequence
                exact ⟨_, .sequenceCons holds derives, rfl⟩

theorem accords_choice {exprs : List (Expr α σ)}
    (members : ∀ expr ∈ exprs, grammar.Accords input expr) :
    grammar.Accords input (.choice exprs) := by
  intro start labels store extent
  change _ ↔ grammar.recognizerOfFirst input exprs start store extent
  induction exprs generalizing store with
  | nil =>
      constructor
      · rintro ⟨reading, ⟨⟩, rfl⟩
        exact .fails _ _
      · rintro ⟨⟩
        exact ⟨_, .choiceNil _ _ _, rfl⟩
  | cons expr exprs ih =>
      have first := members expr (.head _)
      have later := ih fun other isOther => members other (.tail _ isOther)
      constructor
      · rintro ⟨reading, derives, rfl⟩
        cases derives with
        | choiceFirst holds =>
            exact .reaches (first.recognized holds)
        | choiceLater fails derives =>
            exact .other (first.recognized fails)
              ((later _).mp ⟨_, derives, rfl⟩)
      · intro either
        cases either with
        | reaches reaches =>
            obtain ⟨value, bound, holds⟩ :=
              first.reaches reaches Frame.empty
            exact ⟨_, .choiceFirst holds, rfl⟩
        | other fails other =>
            obtain ⟨reading, derives, rfl⟩ := (later _).mpr other
            exact ⟨reading, .choiceLater (first.fails fails _) derives, rfl⟩

variable (member : grammar.Accords input body)
include member

theorem repeated_of_derives {start : Nat} {labels : Frame α} {store : Store σ}
    {reading : Reading α σ}
    (derives : grammar.Derives input (.zeroOrMore body) start labels store
      reading) :
    Recognizer.Repeated (grammar.recognizer input body) start store
      reading.extent := by
  generalize isRepetition : Expr.zeroOrMore body = expr at derives
  induction derives with
  | zeroOrMoreEnds fails =>
      cases isRepetition
      exact .ends (member.recognized fails)
  | zeroOrMoreStays stays =>
      cases isRepetition
      exact .stays (member.recognized stays)
  | zeroOrMoreCons first moves later _ ih =>
      cases isRepetition
      exact .goesOn (member.recognized first) moves (ih rfl)
  | _ => cases isRepetition

theorem derives_of_repeated {start : Nat} {store : Store σ} {extent : Extent σ}
    (repeated : Recognizer.Repeated (grammar.recognizer input body) start store
      extent) (labels : Frame α) :
    ∃ values finish last,
      grammar.Derives input (.zeroOrMore body) start labels store
        (.succeeds (.list values) finish labels last) ∧
      extent = .reaches finish last := by
  induction repeated with
  | ends fails =>
      exact ⟨_, _, _, .zeroOrMoreEnds (member.fails fails _), rfl⟩
  | stays stays =>
      obtain ⟨value, bound, stays⟩ :=
        member.reaches stays Frame.empty
      exact ⟨_, _, _, .zeroOrMoreStays stays, rfl⟩
  | goesOn reaches moves later ih =>
      obtain ⟨value, bound, first⟩ :=
        member.reaches reaches Frame.empty
      obtain ⟨values, finish, last, rest, rfl⟩ := ih
      exact ⟨_, _, _, .zeroOrMoreCons first moves rest, rfl⟩

theorem accords_zeroOrMore : grammar.Accords input (.zeroOrMore body) := by
  intro start labels store extent
  constructor
  · rintro ⟨reading, derives, rfl⟩
    exact repeated_of_derives member derives
  · intro repeated
    obtain ⟨values, finish, last, derives, rfl⟩ :=
      derives_of_repeated member repeated labels
    exact ⟨_, derives, rfl⟩

theorem accords_oneOrMore : grammar.Accords input (.oneOrMore body) := by
  intro start labels store extent
  constructor
  · rintro ⟨reading, derives, rfl⟩
    cases derives with
    | oneOrMoreFails fails =>
        exact .fails (member.recognized fails)
    | oneOrMoreStays stays =>
        exact .stays (member.recognized stays)
    | oneOrMoreCons first moves later =>
        have rest := repeated_of_derives member later
        exact .goesOn (member.recognized first) moves rest
  · intro repeated
    cases repeated with
    | fails fails =>
        exact ⟨_, .oneOrMoreFails (member.fails fails _), rfl⟩
    | stays stays =>
        obtain ⟨value, bound, stays⟩ :=
          member.reaches stays Frame.empty
        exact ⟨_, .oneOrMoreStays stays, rfl⟩
    | goesOn reaches moves later =>
        obtain ⟨value, bound, first⟩ :=
          member.reaches reaches Frame.empty
        obtain ⟨values, finish, last, rest, rfl⟩ :=
          derives_of_repeated member later labels
        exact ⟨_, .oneOrMoreCons first moves rest, rfl⟩

theorem accords_optional : grammar.Accords input (.optional body) := by
  intro start labels store extent
  constructor
  · rintro ⟨reading, derives, rfl⟩
    cases derives with
    | optionalNone fails =>
        exact .stays (member.recognized fails)
    | optionalSome holds =>
        exact .reaches (member.recognized holds)
  · intro optional
    cases optional with
    | stays fails =>
        exact ⟨_, .optionalNone (member.fails fails _), rfl⟩
    | reaches reaches =>
        obtain ⟨value, bound, holds⟩ :=
          member.reaches reaches Frame.empty
        exact ⟨_, .optionalSome holds, rfl⟩

theorem accords_followedBy : grammar.Accords input (.followedBy body) := by
  intro start labels store extent
  constructor
  · rintro ⟨reading, derives, rfl⟩
    cases derives with
    | followedBy holds =>
        exact .stays (member.recognized holds)
    | followedByFails fails =>
        exact .fails (member.recognized fails)
  · intro ahead
    cases ahead with
    | fails fails =>
        exact ⟨_, .followedByFails (member.fails fails _), rfl⟩
    | stays reaches =>
        obtain ⟨value, bound, holds⟩ :=
          member.reaches reaches Frame.empty
        exact ⟨_, .followedBy holds, rfl⟩

theorem accords_notFollowedBy :
    grammar.Accords input (.notFollowedBy body) := by
  intro start labels store extent
  constructor
  · rintro ⟨reading, derives, rfl⟩
    cases derives with
    | notFollowedBy fails =>
        exact .stays (member.recognized fails)
    | notFollowedByFails holds =>
        exact .fails (member.recognized holds)
  · intro notAhead
    cases notAhead with
    | stays fails =>
        exact ⟨_, .notFollowedBy (member.fails fails _), rfl⟩
    | fails reaches =>
        obtain ⟨value, bound, holds⟩ :=
          member.reaches reaches Frame.empty
        exact ⟨_, .notFollowedByFails holds, rfl⟩

theorem accords_labeled (label : String) :
    grammar.Accords input (.labeled label body) := by
  intro start labels store extent
  constructor
  · rintro ⟨reading, derives, rfl⟩
    cases derives with
    | labeled holds =>
        have recognized := member.recognized holds
        exact recognized
    | labeledFails fails => exact member.recognized fails
  · intro recognized
    obtain ⟨reading, derives, rfl⟩ :=
      (member _ Frame.empty _ _).mpr recognized
    cases reading with
    | fails last => exact ⟨_, .labeledFails derives, rfl⟩
    | succeeds value finish bound last => exact ⟨_, .labeled derives, rfl⟩

end Operators

/-- What an expression without code of its own recognizes is what its members
recognize, put together. -/
theorem accords_of_codeless {expr : Expr α σ}
    (codeless : expr.Throughout Expr.Codeless) :
    grammar.Accords input expr := by
  induction codeless with
  | @intro expr here members ih =>
      cases expr with
      | literal text ignoresCase => exact accords_literal text ignoresCase
      | oneOf charClass => exact accords_oneOf charClass
      | any => exact accords_any
      | sequence exprs => exact accords_sequence ih
      | choice exprs => exact accords_choice ih
      | zeroOrMore body => exact accords_zeroOrMore (ih _ (.head _))
      | oneOrMore body => exact accords_oneOrMore (ih _ (.head _))
      | optional body => exact accords_optional (ih _ (.head _))
      | followedBy body => exact accords_followedBy (ih _ (.head _))
      | notFollowedBy body => exact accords_notFollowedBy (ih _ (.head _))
      | labeled label body => exact accords_labeled (ih _ (.head _)) label
      | reference name => exact accords_reference name
      | action | require | forbid => exact here.elim

end Grammar

end PegEngine
