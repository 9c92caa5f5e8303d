import PegEngine.Proofs.Spans

/-!
# The meaning of expressions

What an expression means does not depend on how it is evaluated.
`Grammar.Derives` says, for an expression, an offset, the labels that are bound
and a store, whether the expression fails or matches there, and what it leaves:
ordered choice commits to the first alternative that matches, a repetition goes
on as long as its body matches and consumes something, lookaheads consume
nothing, and code sees the labels of its scope and the store that the code
before it has left, also where that code belongs to a failed attempt.
-/

namespace PegEngine

/-- What an expression comes to at an offset: it fails and leaves a store, or it
succeeds with a value, up to another offset, and leaves labels and a store. -/
inductive Reading (α σ : Type) where
  | fails (store : Store σ)
  | succeeds (value : Value α) (finish : Nat) (labels : Frame α)
    (store : Store σ)

/-- The labels after one has been bound; the empty label binds nothing. -/
def Frame.bindNamed {α : Type} (frame : Frame α) (label : String)
    (value : Value α) : Frame α :=
  if label.isEmpty then frame else frame.bind label value

namespace Grammar

variable {α σ : Type}

/-- What code sees of a match between two offsets. -/
def contextOf (input : ByteArray) (start finish : Nat) (value : Value α)
    (labels : Frame α) (store : Store σ) : MatchContext α σ :=
  ⟨Position.ofOffset input start, input.extract start finish, value,
    labels.toMap, store⟩

/-- The semantics of expressions.  Every alternative, every round of a
repetition, every optional part, lookahead, labelled part and rule body begins
without labels, and the labels that it binds are forgotten. -/
inductive Derives (grammar : Grammar α σ) (input : ByteArray) :
    Expr α σ → Nat → Frame α → Store σ → Reading α σ → Prop
  | literal {text : String} {ignoresCase : Bool} {start finish : Nat}
      {labels : Frame α} {store : Store σ}
      (spelled : Decoded.Spelled input ignoresCase text.toList start finish) :
      Derives grammar input (.literal text ignoresCase) start labels store
        (.succeeds (.text (input.extract start finish)) finish labels store)
  | literalFails {text : String} {ignoresCase : Bool} {start : Nat}
      {labels : Frame α} {store : Store σ}
      (differs : ∀ finish,
        ¬ Decoded.Spelled input ignoresCase text.toList start finish) :
      Derives grammar input (.literal text ignoresCase) start labels store
        (.fails store)
  | oneOf {charClass : CharClass} {start : Nat} {char : Char}
      {labels : Frame α} {store : Store σ}
      (read : (Decoded.ofBytesAt input start).codePoint = some char)
      (accepted : charClass.accepts char = true) :
      Derives grammar input (.oneOf charClass) start labels store
        (.succeeds
          (.text (input.extract start
            (start + (Decoded.ofBytesAt input start).width)))
          (start + (Decoded.ofBytesAt input start).width) labels store)
  | oneOfFails {charClass : CharClass} {start : Nat} {labels : Frame α}
      {store : Store σ}
      (rejected : ∀ char, (Decoded.ofBytesAt input start).codePoint =
        some char → charClass.accepts char = false) :
      Derives grammar input (.oneOf charClass) start labels store (.fails store)
  | any {start : Nat} {char : Char} {labels : Frame α} {store : Store σ}
      (read : (Decoded.ofBytesAt input start).codePoint = some char) :
      Derives grammar input .any start labels store
        (.succeeds
          (.text (input.extract start
            (start + (Decoded.ofBytesAt input start).width)))
          (start + (Decoded.ofBytesAt input start).width) labels store)
  | anyFails {start : Nat} {labels : Frame α} {store : Store σ}
      (atEnd : (Decoded.ofBytesAt input start).codePoint = none) :
      Derives grammar input .any start labels store (.fails store)
  | sequenceNil (start : Nat) (labels : Frame α) (store : Store σ) :
      Derives grammar input (.sequence []) start labels store
        (.succeeds (.list []) start labels store)
  | sequenceFails {expr : Expr α σ} {exprs : List (Expr α σ)} {start : Nat}
      {labels : Frame α} {store last : Store σ}
      (first : Derives grammar input expr start labels store (.fails last)) :
      Derives grammar input (.sequence (expr :: exprs)) start labels store
        (.fails last)
  | sequenceLaterFails {expr : Expr α σ} {exprs : List (Expr α σ)}
      {start middle : Nat} {value : Value α} {labels bound : Frame α}
      {store next last : Store σ}
      (first : Derives grammar input expr start labels store
        (.succeeds value middle bound next))
      (later : Derives grammar input (.sequence exprs) middle bound next
        (.fails last)) :
      Derives grammar input (.sequence (expr :: exprs)) start labels store
        (.fails last)
  | sequenceCons {expr : Expr α σ} {exprs : List (Expr α σ)}
      {start middle finish : Nat} {value : Value α} {values : List (Value α)}
      {labels bound final : Frame α} {store next last : Store σ}
      (first : Derives grammar input expr start labels store
        (.succeeds value middle bound next))
      (later : Derives grammar input (.sequence exprs) middle bound next
        (.succeeds (.list values) finish final last)) :
      Derives grammar input (.sequence (expr :: exprs)) start labels store
        (.succeeds (.list (value :: values)) finish final last)
  | choiceNil (start : Nat) (labels : Frame α) (store : Store σ) :
      Derives grammar input (.choice []) start labels store (.fails store)
  | choiceFirst {expr : Expr α σ} {exprs : List (Expr α σ)} {start finish : Nat}
      {value : Value α} {labels inner : Frame α} {store last : Store σ}
      (first : Derives grammar input expr start Frame.empty store
        (.succeeds value finish inner last)) :
      Derives grammar input (.choice (expr :: exprs)) start labels store
        (.succeeds value finish labels last)
  | choiceLater {expr : Expr α σ} {exprs : List (Expr α σ)} {start : Nat}
      {labels : Frame α} {store next : Store σ} {reading : Reading α σ}
      (first : Derives grammar input expr start Frame.empty store (.fails next))
      (later : Derives grammar input (.choice exprs) start labels next
        reading) :
      Derives grammar input (.choice (expr :: exprs)) start labels store reading
  | zeroOrMoreEnds {body : Expr α σ} {start : Nat} {labels : Frame α}
      {store last : Store σ}
      (fails : Derives grammar input body start Frame.empty store
        (.fails last)) :
      Derives grammar input (.zeroOrMore body) start labels store
        (.succeeds (.list []) start labels last)
  | zeroOrMoreStays {body : Expr α σ} {start : Nat} {value : Value α}
      {labels inner : Frame α} {store last : Store σ}
      (stays : Derives grammar input body start Frame.empty store
        (.succeeds value start inner last)) :
      Derives grammar input (.zeroOrMore body) start labels store
        (.succeeds (.list [value]) start labels last)
  | zeroOrMoreCons {body : Expr α σ} {start middle finish : Nat}
      {value : Value α} {values : List (Value α)} {labels inner : Frame α}
      {store next last : Store σ}
      (first : Derives grammar input body start Frame.empty store
        (.succeeds value middle inner next))
      (moves : middle ≠ start)
      (later : Derives grammar input (.zeroOrMore body) middle labels next
        (.succeeds (.list values) finish labels last)) :
      Derives grammar input (.zeroOrMore body) start labels store
        (.succeeds (.list (value :: values)) finish labels last)
  | oneOrMoreFails {body : Expr α σ} {start : Nat} {labels : Frame α}
      {store last : Store σ}
      (fails : Derives grammar input body start Frame.empty store
        (.fails last)) :
      Derives grammar input (.oneOrMore body) start labels store (.fails last)
  | oneOrMoreStays {body : Expr α σ} {start : Nat} {value : Value α}
      {labels inner : Frame α} {store last : Store σ}
      (stays : Derives grammar input body start Frame.empty store
        (.succeeds value start inner last)) :
      Derives grammar input (.oneOrMore body) start labels store
        (.succeeds (.list [value]) start labels last)
  | oneOrMoreCons {body : Expr α σ} {start middle finish : Nat}
      {value : Value α} {values : List (Value α)} {labels inner : Frame α}
      {store next last : Store σ}
      (first : Derives grammar input body start Frame.empty store
        (.succeeds value middle inner next))
      (moves : middle ≠ start)
      (later : Derives grammar input (.zeroOrMore body) middle labels next
        (.succeeds (.list values) finish labels last)) :
      Derives grammar input (.oneOrMore body) start labels store
        (.succeeds (.list (value :: values)) finish labels last)
  | optionalNone {body : Expr α σ} {start : Nat} {labels : Frame α}
      {store last : Store σ}
      (fails : Derives grammar input body start Frame.empty store
        (.fails last)) :
      Derives grammar input (.optional body) start labels store
        (.succeeds .nil start labels last)
  | optionalSome {body : Expr α σ} {start finish : Nat} {value : Value α}
      {labels inner : Frame α} {store last : Store σ}
      (holds : Derives grammar input body start Frame.empty store
        (.succeeds value finish inner last)) :
      Derives grammar input (.optional body) start labels store
        (.succeeds value finish labels last)
  | followedBy {body : Expr α σ} {start finish : Nat} {value : Value α}
      {labels inner : Frame α} {store last : Store σ}
      (holds : Derives grammar input body start Frame.empty store
        (.succeeds value finish inner last)) :
      Derives grammar input (.followedBy body) start labels store
        (.succeeds .nil start labels last)
  | followedByFails {body : Expr α σ} {start : Nat} {labels : Frame α}
      {store last : Store σ}
      (fails : Derives grammar input body start Frame.empty store
        (.fails last)) :
      Derives grammar input (.followedBy body) start labels store (.fails last)
  | notFollowedBy {body : Expr α σ} {start : Nat} {labels : Frame α}
      {store last : Store σ}
      (fails : Derives grammar input body start Frame.empty store
        (.fails last)) :
      Derives grammar input (.notFollowedBy body) start labels store
        (.succeeds .nil start labels last)
  | notFollowedByFails {body : Expr α σ} {start finish : Nat} {value : Value α}
      {labels inner : Frame α} {store last : Store σ}
      (holds : Derives grammar input body start Frame.empty store
        (.succeeds value finish inner last)) :
      Derives grammar input (.notFollowedBy body) start labels store
        (.fails last)
  | labeled {label : String} {body : Expr α σ} {start finish : Nat}
      {value : Value α} {labels inner : Frame α} {store last : Store σ}
      (holds : Derives grammar input body start Frame.empty store
        (.succeeds value finish inner last)) :
      Derives grammar input (.labeled label body) start labels store
        (.succeeds value finish (labels.bindNamed label value) last)
  | labeledFails {label : String} {body : Expr α σ} {start : Nat}
      {labels : Frame α} {store last : Store σ}
      (fails : Derives grammar input body start Frame.empty store
        (.fails last)) :
      Derives grammar input (.labeled label body) start labels store
        (.fails last)
  | reference {name : String} {rule : Rule α σ} {index start finish : Nat}
      {value : Value α} {labels inner : Frame α} {store last : Store σ}
      (target : grammar.target? name = some (rule, index))
      (holds : Derives grammar input rule.body start Frame.empty store
        (.succeeds value finish inner last)) :
      Derives grammar input (.reference name) start labels store
        (.succeeds value finish labels last)
  | referenceFails {name : String} {rule : Rule α σ} {index start : Nat}
      {labels : Frame α} {store last : Store σ}
      (target : grammar.target? name = some (rule, index))
      (fails : Derives grammar input rule.body start Frame.empty store
        (.fails last)) :
      Derives grammar input (.reference name) start labels store (.fails last)
  | action {body : Expr α σ} {run : Action α σ} {start finish : Nat}
      {value result : Value α} {labels bound : Frame α}
      {store next last : Store σ}
      (holds : Derives grammar input body start labels store
        (.succeeds value finish bound next))
      (answers : run (contextOf input start finish value bound next) =
        (.answer result, last)) :
      Derives grammar input (.action body run) start labels store
        (.succeeds result finish bound last)
  | actionComplains {body : Expr α σ} {run : Action α σ} {start finish : Nat}
      {value : Value α} {message : String} {labels bound : Frame α}
      {store next last : Store σ}
      (holds : Derives grammar input body start labels store
        (.succeeds value finish bound next))
      (complains : run (contextOf input start finish value bound next) =
        (.complaint message, last)) :
      Derives grammar input (.action body run) start labels store
        (.succeeds .nil finish bound last)
  | actionFails {body : Expr α σ} {run : Action α σ} {start : Nat}
      {labels : Frame α} {store last : Store σ}
      (fails : Derives grammar input body start labels store (.fails last)) :
      Derives grammar input (.action body run) start labels store (.fails last)
  | require {test : Predicate α σ} {start : Nat} {labels : Frame α}
      {store last : Store σ}
      (holds : test (contextOf input start start .nil labels store) =
        (.answer true, last)) :
      Derives grammar input (.require test) start labels store
        (.succeeds .nil start labels last)
  | requireFails {test : Predicate α σ} {start : Nat} {labels : Frame α}
      {store last : Store σ}
      (refuses : test (contextOf input start start .nil labels store) =
        (.answer false, last)) :
      Derives grammar input (.require test) start labels store (.fails last)
  | requireComplains {test : Predicate α σ} {start : Nat} {message : String}
      {labels : Frame α} {store last : Store σ}
      (complains : test (contextOf input start start .nil labels store) =
        (.complaint message, last)) :
      Derives grammar input (.require test) start labels store
        (.succeeds .nil start labels last)
  | forbid {test : Predicate α σ} {start : Nat} {labels : Frame α}
      {store last : Store σ}
      (refuses : test (contextOf input start start .nil labels store) =
        (.answer false, last)) :
      Derives grammar input (.forbid test) start labels store
        (.succeeds .nil start labels last)
  | forbidFails {test : Predicate α σ} {start : Nat} {labels : Frame α}
      {store last : Store σ}
      (holds : test (contextOf input start start .nil labels store) =
        (.answer true, last)) :
      Derives grammar input (.forbid test) start labels store (.fails last)
  | forbidComplains {test : Predicate α σ} {start : Nat} {message : String}
      {labels : Frame α} {store last : Store σ}
      (complains : test (contextOf input start start .nil labels store) =
        (.complaint message, last)) :
      Derives grammar input (.forbid test) start labels store
        (.succeeds .nil start labels last)

/-- Every match that can be derived has a shape that the grammar allows. -/
theorem Derives.spans {grammar : Grammar α σ} {input : ByteArray}
    {expr : Expr α σ} {start finish : Nat} {labels bound : Frame α}
    {store last : Store σ} {value : Value α}
    (derives : Derives grammar input expr start labels store
      (.succeeds value finish bound last)) :
    grammar.Spans input expr start value finish := by
  generalize isReading : Reading.succeeds value finish bound last = reading
    at derives
  induction derives generalizing value finish bound last with
  | literal spelled =>
      cases isReading
      exact .literal spelled
  | oneOf read accepted =>
      cases isReading
      exact .oneOf read accepted
  | any read =>
      cases isReading
      exact .any read
  | sequenceNil =>
      cases isReading
      exact .sequenceNil _
  | sequenceCons first later firstIH laterIH =>
      cases isReading
      exact .sequenceCons (firstIH rfl) (laterIH rfl)
  | choiceFirst first ih =>
      cases isReading
      exact .choice (.head _) (ih rfl)
  | choiceLater first later firstIH laterIH =>
      cases laterIH isReading with
      | choice isAlternative spans =>
          exact .choice (.tail _ isAlternative) spans
  | zeroOrMoreEnds =>
      cases isReading
      exact .zeroOrMoreNil _ _
  | zeroOrMoreStays stays ih =>
      cases isReading
      exact .zeroOrMoreCons (ih rfl) (.zeroOrMoreNil _ _)
  | zeroOrMoreCons first moves later firstIH laterIH =>
      cases isReading
      exact .zeroOrMoreCons (firstIH rfl) (laterIH rfl)
  | oneOrMoreStays stays ih =>
      cases isReading
      exact .oneOrMore (ih rfl) (.zeroOrMoreNil _ _)
  | oneOrMoreCons first moves later firstIH laterIH =>
      cases isReading
      exact .oneOrMore (firstIH rfl) (laterIH rfl)
  | optionalNone =>
      cases isReading
      exact .optionalNone _ _
  | optionalSome holds ih =>
      cases isReading
      exact .optionalSome (ih rfl)
  | followedBy =>
      cases isReading
      exact .followedBy _ _
  | notFollowedBy =>
      cases isReading
      exact .notFollowedBy _ _
  | labeled holds ih =>
      cases isReading
      exact .labeled (ih rfl)
  | reference target holds ih =>
      cases isReading
      exact .reference target (ih rfl)
  | action holds answers ih =>
      cases isReading
      exact .answered (ih rfl) rfl rfl (by rw [answers])
  | actionComplains holds complains ih =>
      cases isReading
      exact .complained (ih rfl)
  | require =>
      cases isReading
      exact .require _ _
  | requireComplains =>
      cases isReading
      exact .require _ _
  | forbid =>
      cases isReading
      exact .forbid _ _
  | forbidComplains =>
      cases isReading
      exact .forbid _ _
  | literalFails | oneOfFails | anyFails | sequenceFails | sequenceLaterFails
  | choiceNil | oneOrMoreFails | followedByFails | notFollowedByFails
  | labeledFails | referenceFails | actionFails | requireFails | forbidFails =>
      cases isReading

end Grammar

end PegEngine
