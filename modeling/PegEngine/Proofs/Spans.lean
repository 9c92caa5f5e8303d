import PegEngine.Proofs.Boundaries
import PegEngine.Proofs.Places

/-!
# What a match can look like

Read as a context-free grammar, without the order of alternatives, without
greed and without lookaheads, a grammar allows more matches than a parse ever
comes to.  `Grammar.Spans` is this reading: which values an expression can have
between two offsets.  It leaves open what the code of the grammar sees beyond
the match itself, so it does not depend on labels, on the store, or on whether
results were kept, and holds of every match alike.

`Grammar.Calls` tells accordingly which other expressions may have to be
evaluated at which offsets in order to evaluate one.
-/

namespace PegEngine

namespace Decoded

/-- The code points between two offsets are the given characters, after
lowering if case is ignored. -/
inductive Spelled (bytes : ByteArray) (ignoresCase : Bool) :
    List Char → Nat → Nat → Prop
  | nil (offset : Nat) : Spelled bytes ignoresCase [] offset offset
  | cons {char found : Char} {chars : List Char} {offset finish : Nat}
      (read : (ofBytesAt bytes offset).codePoint = some found)
      (folds : CharClass.fold ignoresCase found = char)
      (later : Spelled bytes ignoresCase chars
        (offset + (ofBytesAt bytes offset).width) finish) :
      Spelled bytes ignoresCase (char :: chars) offset finish

theorem width_pos_of_read {bytes : ByteArray} {offset : Nat} {char : Char}
    (read : (ofBytesAt bytes offset).codePoint = some char) :
    0 < (ofBytesAt bytes offset).width :=
  width_ofBytesAt_pos (codePoint_isSome_iff.mp (by simp [read]))

theorem follows_of_read {bytes : ByteArray} {offset : Nat} {char : Char}
    (read : (ofBytesAt bytes offset).codePoint = some char) :
    Follows bytes offset (offset + (ofBytesAt bytes offset).width) :=
  ⟨codePoint_isSome_iff.mp (by simp [read]), rfl⟩

theorem Spelled.follows {bytes : ByteArray} {ignoresCase : Bool}
    {chars : List Char} {offset finish : Nat}
    (spelled : Spelled bytes ignoresCase chars offset finish) :
    Relation.ReflTransGen (Follows bytes) offset finish := by
  induction spelled with
  | nil => exact .refl
  | cons read folds later ih => exact .head (follows_of_read read) ih

theorem Spelled.le {bytes : ByteArray} {ignoresCase : Bool} {chars : List Char}
    {offset finish : Nat}
    (spelled : Spelled bytes ignoresCase chars offset finish) :
    offset ≤ finish :=
  le_of_follows spelled.follows

/-- A text is spelled up to one offset only. -/
theorem Spelled.unique {bytes : ByteArray} {ignoresCase : Bool}
    {chars : List Char} {offset finish other : Nat}
    (spelled : Spelled bytes ignoresCase chars offset finish)
    (again : Spelled bytes ignoresCase chars offset other) :
    finish = other := by
  induction spelled with
  | nil offset =>
      cases again
      rfl
  | cons read folds later ih =>
      cases again with
      | cons readAgain foldsAgain laterAgain => exact ih laterAgain

/-- Only the empty text is spelled by nothing. -/
theorem Spelled.eq_nil {bytes : ByteArray} {ignoresCase : Bool}
    {chars : List Char} {offset : Nat}
    (spelled : Spelled bytes ignoresCase chars offset offset) : chars = [] := by
  cases spelled with
  | nil => rfl
  | cons read folds later =>
      have forward := width_pos_of_read read
      have atMost := later.le
      omega

end Decoded

namespace Grammar

variable {α σ : Type}

/-- An expression can have a value from one offset to another. -/
inductive Spans (grammar : Grammar α σ) (input : ByteArray) :
    Expr α σ → Nat → Value α → Nat → Prop
  | literal {text : String} {ignoresCase : Bool} {start finish : Nat}
      (spelled : Decoded.Spelled input ignoresCase text.toList start finish) :
      Spans grammar input (.literal text ignoresCase) start
        (.text (input.extract start finish)) finish
  | oneOf {charClass : CharClass} {start : Nat} {char : Char}
      (read : (Decoded.ofBytesAt input start).codePoint = some char)
      (accepted : charClass.accepts char = true) :
      Spans grammar input (.oneOf charClass) start
        (.text (input.extract start
          (start + (Decoded.ofBytesAt input start).width)))
        (start + (Decoded.ofBytesAt input start).width)
  | any {start : Nat} {char : Char}
      (read : (Decoded.ofBytesAt input start).codePoint = some char) :
      Spans grammar input .any start
        (.text (input.extract start
          (start + (Decoded.ofBytesAt input start).width)))
        (start + (Decoded.ofBytesAt input start).width)
  | sequenceNil (start : Nat) :
      Spans grammar input (.sequence []) start (.list []) start
  | sequenceCons {expr : Expr α σ} {exprs : List (Expr α σ)}
      {start middle finish : Nat} {value : Value α} {values : List (Value α)}
      (first : Spans grammar input expr start value middle)
      (later : Spans grammar input (.sequence exprs) middle (.list values)
        finish) :
      Spans grammar input (.sequence (expr :: exprs)) start
        (.list (value :: values)) finish
  | choice {alternatives : List (Expr α σ)} {expr : Expr α σ}
      {start finish : Nat} {value : Value α}
      (isAlternative : expr ∈ alternatives)
      (spans : Spans grammar input expr start value finish) :
      Spans grammar input (.choice alternatives) start value finish
  | zeroOrMoreNil (body : Expr α σ) (start : Nat) :
      Spans grammar input (.zeroOrMore body) start (.list []) start
  | zeroOrMoreCons {body : Expr α σ} {start middle finish : Nat}
      {value : Value α} {values : List (Value α)}
      (first : Spans grammar input body start value middle)
      (later : Spans grammar input (.zeroOrMore body) middle (.list values)
        finish) :
      Spans grammar input (.zeroOrMore body) start (.list (value :: values))
        finish
  | oneOrMore {body : Expr α σ} {start middle finish : Nat} {value : Value α}
      {values : List (Value α)}
      (first : Spans grammar input body start value middle)
      (later : Spans grammar input (.zeroOrMore body) middle (.list values)
        finish) :
      Spans grammar input (.oneOrMore body) start (.list (value :: values))
        finish
  | optionalNone (body : Expr α σ) (start : Nat) :
      Spans grammar input (.optional body) start .nil start
  | optionalSome {body : Expr α σ} {start finish : Nat} {value : Value α}
      (spans : Spans grammar input body start value finish) :
      Spans grammar input (.optional body) start value finish
  | followedBy (body : Expr α σ) (start : Nat) :
      Spans grammar input (.followedBy body) start .nil start
  | notFollowedBy (body : Expr α σ) (start : Nat) :
      Spans grammar input (.notFollowedBy body) start .nil start
  | labeled {label : String} {body : Expr α σ} {start finish : Nat}
      {value : Value α} (spans : Spans grammar input body start value finish) :
      Spans grammar input (.labeled label body) start value finish
  | reference {name : String} {rule : Rule α σ} {index start finish : Nat}
      {value : Value α} (target : grammar.target? name = some (rule, index))
      (spans : Spans grammar input rule.body start value finish) :
      Spans grammar input (.reference name) start value finish
  | answered {body : Expr α σ} {run : Action α σ} {start finish : Nat}
      {value result : Value α} {context : MatchContext α σ}
      (spans : Spans grammar input body start value finish)
      (sameText : context.text = input.extract start finish)
      (sameValue : context.value = value)
      (answers : (run context).1 = .answer result) :
      Spans grammar input (.action body run) start result finish
  | complained {body : Expr α σ} {run : Action α σ} {start finish : Nat}
      {value : Value α} (spans : Spans grammar input body start value finish) :
      Spans grammar input (.action body run) start .nil finish
  | require (test : Predicate α σ) (start : Nat) :
      Spans grammar input (.require test) start .nil start
  | forbid (test : Predicate α σ) (start : Nat) :
      Spans grammar input (.forbid test) start .nil start

/-- A match goes from code point to code point. -/
theorem Spans.follows {grammar : Grammar α σ} {input : ByteArray}
    {expr : Expr α σ} {start finish : Nat} {value : Value α}
    (spans : Spans grammar input expr start value finish) :
    Relation.ReflTransGen (Decoded.Follows input) start finish := by
  induction spans with
  | literal spelled => exact spelled.follows
  | oneOf read accepted => exact .single (Decoded.follows_of_read read)
  | any read => exact .single (Decoded.follows_of_read read)
  | sequenceCons first later firstIH laterIH
  | zeroOrMoreCons first later firstIH laterIH =>
      exact firstIH.trans laterIH
  | oneOrMore first later firstIH laterIH => exact firstIH.trans laterIH
  | choice isAlternative spans ih => exact ih
  | optionalSome spans ih => exact ih
  | labeled spans ih => exact ih
  | reference target spans ih => exact ih
  | answered spans sameText sameValue answers ih => exact ih
  | complained spans ih => exact ih
  | sequenceNil | zeroOrMoreNil | optionalNone | followedBy | notFollowedBy
  | require | forbid => exact .refl

/-- A match never moves backwards. -/
theorem Spans.le {grammar : Grammar α σ} {input : ByteArray} {expr : Expr α σ}
    {start finish : Nat} {value : Value α}
    (spans : Spans grammar input expr start value finish) :
    start ≤ finish :=
  Decoded.le_of_follows spans.follows

/-- Evaluating the expression at a place, from an offset on, may come to
evaluating the expression at another place from some offset on: a member behind
a match of those that precede it, or the body of a rule. -/
inductive Calls (grammar : Grammar α σ) (input : ByteArray) (place : ExprPlace)
    (start : Nat) : Expr α σ → ExprPlace → Expr α σ → Nat → Prop
  | sequence {exprs earlier later : List (Expr α σ)} {expr : Expr α σ}
      {values : List (Value α)} {middle : Nat}
      (split : exprs = earlier ++ expr :: later)
      (spans : Spans grammar input (.sequence earlier) start (.list values)
        middle) :
      Calls grammar input place start (.sequence exprs)
        (place.member earlier.length) expr middle
  | choice {alternatives : List (Expr α σ)} {expr : Expr α σ} {index : Nat}
      (isAlternative : alternatives[index]? = some expr) :
      Calls grammar input place start (.choice alternatives)
        (place.member index) expr start
  | zeroOrMore {body : Expr α σ} {values : List (Value α)} {middle : Nat}
      (spans : Spans grammar input (.zeroOrMore body) start (.list values)
        middle) :
      Calls grammar input place start (.zeroOrMore body) (place.member 0) body
        middle
  | oneOrMore {body : Expr α σ} {values : List (Value α)} {middle : Nat}
      (spans : Spans grammar input (.zeroOrMore body) start (.list values)
        middle) :
      Calls grammar input place start (.oneOrMore body) (place.member 0) body
        middle
  | optional (body : Expr α σ) :
      Calls grammar input place start (.optional body) (place.member 0) body
        start
  | followedBy (body : Expr α σ) :
      Calls grammar input place start (.followedBy body) (place.member 0) body
        start
  | notFollowedBy (body : Expr α σ) :
      Calls grammar input place start (.notFollowedBy body) (place.member 0)
        body start
  | labeled (label : String) (body : Expr α σ) :
      Calls grammar input place start (.labeled label body) (place.member 0)
        body start
  | action (body : Expr α σ) (run : Action α σ) :
      Calls grammar input place start (.action body run) (place.member 0) body
        start
  | reference {name : String} {rule : Rule α σ} {index : Nat}
      (target : grammar.target? name = some (rule, index)) :
      Calls grammar input place start (.reference name) (.body index) rule.body
        start

section Calls

variable {grammar : Grammar α σ} {input : ByteArray} {place callee : ExprPlace}
  {expr called : Expr α σ} {start middle : Nat}

theorem Calls.placed
    (calls : grammar.Calls input place start expr callee called middle)
    (found : grammar.exprAt? place = some expr) :
    grammar.exprAt? callee = some called := by
  cases calls with
  | sequence split spans =>
      exact exprAt?_member found (by simp [Expr.members, split])
  | choice isAlternative => exact exprAt?_member found isAlternative
  | reference target => exact exprAt?_body (rule_of_target? target)
  | zeroOrMore | oneOrMore | optional | followedBy | notFollowedBy | labeled
  | action => exact exprAt?_onlyMember found rfl

theorem Calls.le
    (calls : grammar.Calls input place start expr callee called middle) :
    start ≤ middle := by
  cases calls with
  | sequence split spans => exact spans.le
  | zeroOrMore spans => exact spans.le
  | oneOrMore spans => exact spans.le
  | choice | optional | followedBy | notFollowedBy | labeled | action
  | reference => exact Nat.le_refl _

end Calls

end Grammar

end PegEngine
