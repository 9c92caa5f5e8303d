import PegEngine.Proofs.Frames

/-!
# The texts of a value

Without actions, the value of a match holds everything that was matched: the
texts in it, from left to right, are the bytes from the start of the match to
its end (`Grammar.Spans.joined`).  This is so for every evaluation in a state
that a parse reaches, and the texts of the value of a whole parse are what the
input starts with (`Session.joined_texts`).
-/

namespace PegEngine

namespace Value

variable {α σ : Type}

mutual

/-- The texts in a value, from left to right. -/
def texts : Value α → List ByteArray
  | .nil | .node _ => []
  | .text bytes => [bytes]
  | .list members => textsOfAll members

def textsOfAll : List (Value α) → List ByteArray
  | [] => []
  | value :: values => value.texts ++ textsOfAll values

end

/-- The texts in a value put together. -/
def joined (value : Value α) : ByteArray :=
  value.texts.foldr (· ++ ·) ByteArray.empty

theorem foldr_append (first second : List ByteArray) :
    (first ++ second).foldr (· ++ ·) ByteArray.empty =
      first.foldr (· ++ ·) ByteArray.empty ++
        second.foldr (· ++ ·) ByteArray.empty := by
  induction first with
  | nil => simp
  | cons bytes first ih =>
      simp only [List.cons_append, List.foldr_cons, ih, ByteArray.append_assoc]

theorem joined_nil : (nil : Value α).joined = ByteArray.empty := by
  simp [joined, texts]

theorem joined_text (bytes : ByteArray) :
    (text bytes : Value α).joined = bytes := by
  simp [joined, texts]

theorem joined_list_nil : (list [] : Value α).joined = ByteArray.empty := by
  simp [joined, texts, textsOfAll]

theorem joined_list_cons (value : Value α) (values : List (Value α)) :
    (list (value :: values)).joined = value.joined ++ (list values).joined := by
  simp only [joined, texts, textsOfAll, foldr_append]

end Value

namespace Expr

variable {α σ : Type}

mutual

/-- Test whether there is an action in an expression. -/
def hasAction : Expr α σ → Bool
  | .literal _ _ | .oneOf _ | .any | .reference _ | .require _ | .forbid _ =>
    false
  | .sequence members => anyHasAction members
  | .choice alternatives => anyHasAction alternatives
  | .zeroOrMore body | .oneOrMore body | .optional body | .followedBy body
  | .notFollowedBy body | .labeled _ body => body.hasAction
  | .action _ _ => true

def anyHasAction : List (Expr α σ) → Bool
  | [] => false
  | expr :: exprs => expr.hasAction || anyHasAction exprs

end

theorem anyHasAction_eq_false {exprs : List (Expr α σ)} :
    anyHasAction exprs = false ↔ ∀ expr ∈ exprs, expr.hasAction = false := by
  induction exprs with
  | nil => simp [anyHasAction]
  | cons expr exprs ih => simp [anyHasAction, ih]

theorem hasAction_member {expr member : Expr α σ}
    (free : expr.hasAction = false) (isMember : member ∈ expr.members) :
    member.hasAction = false := by
  cases expr with
  | sequence exprs => exact anyHasAction_eq_false.mp free member isMember
  | choice exprs => exact anyHasAction_eq_false.mp free member isMember
  | zeroOrMore body | oneOrMore body | optional body | followedBy body
  | notFollowedBy body | labeled label body =>
      obtain rfl := List.mem_singleton.mp isMember
      exact free
  | action body run => cases free
  | literal text ignoresCase | oneOf charClass | any | reference name
  | require test | forbid test => cases isMember

end Expr

namespace Grammar

variable {α σ : Type} {grammar : Grammar α σ}

/-- There is no action in a grammar. -/
def ActionFree (grammar : Grammar α σ) : Prop :=
  ∀ rule ∈ grammar.rules, rule.body.hasAction = false

instance : DecidablePred (ActionFree (α := α) (σ := σ)) :=
  fun grammar => inferInstanceAs
    (Decidable (∀ rule ∈ grammar.rules, rule.body.hasAction = false))

theorem ActionFree.nodeExpr? {node : NodeKey} {expr : Expr α σ}
    (free : grammar.ActionFree) (isNode : grammar.nodeExpr? node = some expr) :
    expr.hasAction = false := by
  cases node with
  | rule index =>
      obtain ⟨rule, isRule, rfl⟩ := Option.map_eq_some_iff.mp isNode
      exact free rule (List.mem_of_getElem? isRule)
  | expression place =>
      exact @of_exprAt? α σ grammar (fun part => part.hasAction = false) _ _
        free Expr.hasAction_member isNode

/-- What lies between three offsets is what lies between the outer ones. -/
theorem extract_append {input : ByteArray} {start middle finish : Nat}
    (before : start ≤ middle) (behind : middle ≤ finish) :
    input.extract start middle ++ input.extract middle finish =
      input.extract start finish := by
  rw [ByteArray.extract_append_extract, Nat.min_eq_left before,
    Nat.max_eq_right behind]

/-- The texts in a value are all that was matched. -/
theorem Spans.joined {input : ByteArray} {expr : Expr α σ} {start finish : Nat}
    {value : Value α} (free : grammar.ActionFree)
    (exprFree : expr.hasAction = false)
    (spans : grammar.Spans input expr start value finish) :
    value.joined = input.extract start finish := by
  induction spans with
  | literal spelled => exact Value.joined_text _
  | oneOf read accepted => exact Value.joined_text _
  | any read => exact Value.joined_text _
  | sequenceNil start | zeroOrMoreNil body start =>
      rw [Value.joined_list_nil, ByteArray.extract_same]
  | sequenceCons first later firstIH laterIH =>
      obtain ⟨firstFree, laterFree⟩ := Bool.or_eq_false_iff.mp exprFree
      rw [Value.joined_list_cons, firstIH firstFree, laterIH laterFree,
        extract_append first.le later.le]
  | zeroOrMoreCons first later firstIH laterIH
  | oneOrMore first later firstIH laterIH =>
      rw [Value.joined_list_cons, firstIH exprFree, laterIH exprFree,
        extract_append first.le later.le]
  | choice isAlternative spans ih =>
      exact ih (Expr.hasAction_member exprFree isAlternative)
  | optionalSome spans ih => exact ih exprFree
  | labeled spans ih => exact ih exprFree
  | reference target spans ih =>
      exact ih (free _ (List.mem_of_getElem? (rule_of_target? target)))
  | answered | complained => cases exprFree
  | optionalNone | followedBy | notFollowedBy | require | forbid =>
      rw [Value.joined_nil, ByteArray.extract_same]

end Grammar

namespace Session

variable {α σ : Type} {session : Session α σ}

/-- In a grammar without actions, the texts of a value are the bytes that were
matched, wherever a parse comes to evaluate something; and the texts of the
value of a parse are what the input starts with. -/
theorem joined_texts (session : Session α σ)
    (free : session.grammar.ActionFree) :
    (∀ (state : ParseState α σ) (depth : Nat) (node : NodeKey)
      (value : Value α) (after : ParseState α σ), session.Reaches state →
        Eval.evalKeyed session depth node state = .ok (.matched value) after →
          value.joined =
            session.input.extract state.cursor.offset after.cursor.offset) ∧
      ∀ (parsed : Parsed α) (log : Array LogEntry) (value : Value α),
        session.Gives ⟨.parsed parsed, log⟩ → parsed.value = some value →
          ∃ rest, value.joined ++ rest = session.input := by
  refine ⟨?_, ?_⟩
  · intro state depth node value after reaches run
    obtain ⟨expr, isNode⟩ := exists_nodeExpr? run
    obtain ⟨outer, before, finish, -, ⟨-, diagnostics, rfl⟩, settled⟩ :=
      reaches.exists_settled isNode run
    exact settled.describes.1.joined free (free.nodeExpr? isNode)
  · intro parsed log value gives isValue
    obtain ⟨entry, depth, after, starts, valid, run⟩ :=
      exists_matched_of_gives gives isValue
    have settled := (entering_settles starts valid depth).result run
    have isRule := Grammar.entry_of_start? starts
    have joined := settled.describes.1.joined free
      (free entry (List.mem_of_getElem? isRule))
    refine ⟨session.input.extract after.cursor.offset session.input.size, ?_⟩
    rw [joined, offset_opening,
      Grammar.extract_append (Nat.zero_le _)
        settled.sound.stands.boundary.le_size,
      ByteArray.extract_zero_size]

end Session

namespace Grammar

/-- A grammar of a word, in capitals or not, before something else than a
period. -/
def spelling : Grammar Unit :=
  ⟨[⟨"Spelling", "",
      .sequence
        [.labeled "word" (.ignoringCase "ab"),
          .notFollowedBy (.exactly "."), .reference "Rest"]⟩,
    ⟨"Rest", "", .optional (.oneOrMore .any)⟩]⟩

/-- A parse of a word with a malformed byte behind it. -/
def spellingSession : Session Unit :=
  .ofSettings spelling "" ⟨#[0x61, 0x42, 0xFF, 0x7A]⟩ [.memoize true]

set_option maxRecDepth 2048 in
/-- The texts in the value of the rest are the bytes behind the word, and those
in the value of the parse are the whole input. -/
theorem spelling_joined_texts :
    spelling.ActionFree ∧
      (∃ state value after, spellingSession.Reaches state ∧
        Eval.evalKeyed spellingSession 8 (.rule 1) state =
          .ok (.matched value) after ∧
        state.cursor.offset = 2 ∧ after.cursor.offset = 4 ∧
        value.joined = spellingSession.input.extract state.cursor.offset
          after.cursor.offset) ∧
      ∃ parsed log value, spellingSession.Gives ⟨.parsed parsed, log⟩ ∧
        parsed.value = some value ∧
          ∃ rest, value.joined ++ rest = spellingSession.input := by
  have reaches : spellingSession.Reaches _ :=
    ⟨rfl, _, 8, rfl, _, List.mem_of_getElem? (i := 7) rfl, rfl⟩
  have free : spelling.ActionFree := by decide
  have texts := spellingSession.joined_texts free
  have gives : spellingSession.Gives _ := ⟨8, rfl⟩
  exact ⟨free,
    ⟨_, _, _, reaches, rfl, rfl, rfl,
      texts.1 _ 8 (.rule 1) _ _ reaches rfl⟩,
    _, _, _, gives, rfl, texts.2 _ _ _ gives rfl⟩

end Grammar

end PegEngine
