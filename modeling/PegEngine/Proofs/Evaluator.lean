import PegEngine.Proofs.ArithmeticTrees
import PegEngine.Proofs.Passages

/-!
# The arithmetic grammar evaluates what it parses

A parse with the arithmetic grammar reports nothing exactly if the input is the
text of a sum that has a value, and that value is the value of the parse
(`Arithmetic.evaluates`).  In one direction, the rules pass the text of a phrase
if nothing stands behind it that would go on with it, by induction on the phrase
(`Arithmetic.passes_tree`).  In the other direction, whatever a rule matches
without complaints is the text of a phrase with a value, by induction on the
number of characters ahead (`Arithmetic.recognizes_sum`).
-/

namespace PegEngine

namespace Decoded

/-- The text of encoded characters. -/
theorem fromUTF8?_utf8Encode (chars : List Char) :
    String.fromUTF8? chars.utf8Encode = some (String.ofList chars) :=
  dif_pos ByteArray.isValidUTF8_utf8Encode

end Decoded

namespace Arithmetic

/-- The operators of a joint, as the class of the grammar has them. -/
def Joint.symbols : Joint → String
  | .sum => "+-"
  | .product => "*/"

/-- The rule for the phrases of a level. -/
def Level.name : Level → String
  | .joined .sum => "Sum"
  | .joined .product => "Product"
  | .term => "Term"

/-- The operators with which a phrase of a level can go on. -/
def Level.operators : Level → List Char
  | .joined .sum => ['+', '-', '*', '/']
  | .joined .product => ['*', '/']
  | .term => []

/-- What stands behind a phrase does not go on with it. -/
def Level.Ends (level : Level) (later : List Char) : Prop :=
  ∀ char ∈ later.head?, char.isDigit = false ∧ char ∉ level.operators

/-- One round of a repetition. -/
def round (joint : Joint) : Expr Int :=
  .sequence
    [.oneOf (.ofSteps [.chars joint.symbols]), .reference joint.operand.name]

/-- A sum between parentheses. -/
def bracketed : Expr Int :=
  .action
    (.sequence [.exactly "(", .labeled "sum" (.reference "Sum"), .exactly ")"])
    innerSum

section Rules

theorem target?_joined (joint : Joint) :
    ∃ index, grammar.target? (Level.joined joint).name =
      some (⟨(Level.joined joint).name, "",
        joined joint.operand.name joint.symbols⟩, index) := by
  cases joint <;> exact ⟨_, rfl⟩

theorem target?_term :
    grammar.target? "Term" =
      some (⟨"Term", "", .choice [bracketed, .reference "Number"]⟩, 3) :=
  rfl

theorem target?_number :
    grammar.target? "Number" =
      some (⟨"Number", "\"number\"",
        .action (.oneOrMore (.oneOf (.ofSteps [.range '0' '9'])))
          readNumber⟩, 4) :=
  rfl

theorem accepts_symbols (joint : Joint) (char : Char) :
    (CharClass.ofSteps [.chars joint.symbols]).accepts char =
      joint.operators.contains char := by
  rw [CharClass.accepts_chars]
  cases joint <;> rfl

theorem accepts_digits (char : Char) :
    (CharClass.ofSteps [.range '0' '9']).accepts char = char.isDigit := by
  rw [CharClass.accepts_range, Bool.eq_iff_iff, isDigit_iff, Bool.and_eq_true,
    decide_eq_true_eq, decide_eq_true_eq]

end Rules

section Ends

variable {level : Level} {joint : Joint} {later : List Char}

theorem ends_nil : level.Ends [] :=
  nofun

theorem ends_bracket : level.Ends (')' :: later) := by
  rintro _ ⟨⟩
  rcases level with (_ | _) | _ <;> decide

theorem operators_joined (joint : Joint) :
    (Level.joined joint).operators =
      joint.operators ++ joint.operand.operators := by
  cases joint <;> rfl

/-- Whatever does not go on with a phrase does not go on with its operands. -/
theorem Level.Ends.operand (ends : (Level.joined joint).Ends later) :
    joint.operand.Ends later := by
  intro char isNext
  obtain ⟨noDigit, noOperator⟩ := ends char isNext
  rw [operators_joined] at noOperator
  exact ⟨noDigit, fun isOperator =>
    noOperator (List.mem_append_right _ isOperator)⟩

theorem ends_operator {operator : Char}
    (isOperator : operator ∈ joint.operators) :
    joint.operand.Ends (operator :: later) := by
  rintro _ ⟨⟩
  cases joint with
  | sum =>
      obtain rfl | rfl : operator = '+' ∨ operator = '-' := by
        simpa [Joint.operators] using isOperator
      all_goals decide
  | product =>
      obtain rfl | rfl : operator = '*' ∨ operator = '/' := by
        simpa [Joint.operators] using isOperator
      all_goals decide

theorem Level.Ends.rejected (ends : (Level.joined joint).Ends later) :
    ∀ char ∈ later.head?,
      (CharClass.ofSteps [.chars joint.symbols]).accepts char = false := by
  intro char isNext
  obtain ⟨-, noOperator⟩ := ends char isNext
  rw [operators_joined] at noOperator
  rw [accepts_symbols, ← Bool.not_eq_true, List.contains_iff_mem]
  exact fun isOperator => noOperator (List.mem_append_left _ isOperator)

end Ends

section Passing

variable {joint : Joint} {later : List Char} {labels : Frame Int}

theorem readNumber_eq {digits : List Char} (isNonempty : digits ≠ [])
    (areDigits : ∀ char ∈ digits, char.isDigit = true) (position : Position)
    (value : Value Int) (bound : LabelMap Int) (store : Store) :
    readNumber ⟨position, digits.utf8Encode, value, bound, store⟩ =
      (if fitsWord (Nat.ofDigitChars 10 digits 0) then
        .answer (.node (Nat.ofDigitChars 10 digits 0))
      else .complaint NumeralError.tooLarge.message, store) := by
  have isText : MatchContext.string?
      ⟨position, digits.utf8Encode, value, bound, store⟩ =
        some (String.ofList digits) :=
    Decoded.fromUTF8?_utf8Encode digits
  simp only [readNumber, Code.pure, isText, Option.getD_some,
    String.toList_ofList, read_eq isNonempty areDigits]
  split
  case h_1 number read => split at read <;> simp_all
  case h_2 error read => split at read <;> simp_all

theorem innerSum_eq {context : MatchContext Int} {frame : Frame Int}
    {value : Value Int}
    (isBound : context.labels = (frame.bindNamed "sum" value).toMap) :
    innerSum context = (.answer value, context.store) := by
  have isSum := MatchContext.label?_of_bound isBound rfl
  simp only [innerSum, Code.pure, isSum, Option.getD_some]

theorem evaluate_eq {context : MatchContext Int} {frame : Frame Int}
    {head : Value Int} {tail : List (Value Int)}
    (isBound : context.labels =
      ((frame.bindNamed "head" head).bindNamed "tail" (.list tail)).toMap) :
    evaluate context = (operateAll (number head) tail, context.store) := by
  have isHead : context.label? "head" = some head := by
    rw [MatchContext.label?, isBound, Frame.getElem?_toMap,
      Frame.get?_bindNamed rfl, if_neg (by decide), Frame.get?_bindNamed rfl,
      if_pos rfl]
  have isTail := MatchContext.label?_of_bound isBound rfl
  simp only [evaluate, Code.pure, isHead, isTail, Option.getD_some]
  rfl

theorem passes_number {digits : List Char} {value : Int}
    (isNonempty : digits ≠ [])
    (areDigits : ∀ char ∈ digits, char.isDigit = true)
    (isValue : inRange (Nat.ofDigitChars 10 digits 0) = some value)
    (ends : Level.term.Ends later) :
    grammar.Passes (.reference "Number") labels digits later (.node value)
      labels := by
  refine (Grammar.Passes.action (Grammar.passes_oneOrMore_oneOf
    (fun char isChar => ?_) (fun char isNext => ?_) isNonempty)
    fun position store => ?_).reference target?_number
  · rw [accepts_digits, areDigits char isChar]
  · rw [accepts_digits, (ends char isNext).1]
  · rw [readNumber_eq isNonempty areDigits]
    unfold inRange at isValue
    split at isValue
    case isTrue fits =>
      cases isValue
      rw [if_pos fits]
    case isFalse => cases isValue

theorem refuses_bracketed {chars : List Char}
    (noBracket : ∀ char ∈ chars.head?, char ≠ '(') :
    grammar.Refuses bracketed labels chars := by
  refine Grammar.Refuses.action (Grammar.Refuses.sequence
    (Grammar.refuses_exactly fun isPrefix => ?_)) innerSum
  obtain ⟨rest, rfl⟩ := isPrefix
  exact noBracket '(' rfl rfl

/-- Behind an operand there are the operations that follow, or what does not go
on with the phrase. -/
theorem Level.Ends.operations (operations : Operations joint)
    (ends : (Level.joined joint).Ends later) :
    joint.operand.Ends (operations.text ++ later) := by
  cases operations with
  | none => exact ends.operand
  | operation operator isOperator operand others =>
      exact ends_operator isOperator

mutual

/-- A rule passes the text of a phrase that has a value, if nothing goes on with
it. -/
theorem passes_tree {level : Level} {later : List Char} {labels : Frame Int}
    {value : Int} (tree : Tree level) (isValue : tree.value? = some value)
    (ends : level.Ends later) :
    grammar.Passes (.reference level.name) labels tree.text later (.node value)
      labels :=
  match tree with
  | .numeral digits isNonempty areDigits => by
    have noBracket : ∀ char ∈ (digits ++ later).head?, char ≠ '(' := by
      obtain ⟨first, others, rfl⟩ := List.exists_cons_of_ne_nil isNonempty
      rintro _ ⟨⟩ rfl
      cases areDigits _ List.mem_cons_self
    exact ((passes_number isNonempty areDigits isValue ends).choice.choice_later
      (refuses_bracketed noBracket)).reference target?_term
  | .bracketed sum => by
    have inside : grammar.Passes (.reference "Sum") Frame.empty sum.text
        (")".toList ++ later) (.node value) Frame.empty :=
      passes_tree sum isValue ends_bracket
    have whole : grammar.Passes
        (.sequence
          [.exactly "(", .labeled "sum" (.reference "Sum"), .exactly ")"])
        Frame.empty ("(".toList ++ (sum.text ++ ")".toList)) later _ _ :=
      (Grammar.passes_exactly "(").cons
        ((inside.labeled "sum").cons (Grammar.passes_exactly ")").only)
    exact (whole.action fun position store =>
      innerSum_eq rfl).choice.reference target?_term
  | .joined joint first operations => by
    obtain ⟨left, isLeft, isResult⟩ := Option.bind_eq_some_iff.mp isValue
    obtain ⟨index, target⟩ := target?_joined joint
    obtain ⟨values, rounds, isReply⟩ :=
      passes_operations operations isResult ends
    have head : grammar.Passes (.reference joint.operand.name) Frame.empty
        first.text (operations.text ++ later) (.node left) Frame.empty :=
      passes_tree first isLeft (ends.operations operations)
    have whole : grammar.Passes
        (.sequence
          [.labeled "head" (.reference joint.operand.name),
            .labeled "tail" (.zeroOrMore (round joint))])
        Frame.empty (first.text ++ operations.text) later _ _ :=
      (head.labeled "head").cons ((rounds Frame.empty).labeled "tail").only
    exact (whole.action fun position store => by
      rw [evaluate_eq rfl]
      exact congrArg (·, store) isReply).reference target

theorem passes_operations {joint : Joint} {later : List Char}
    {left value : Int} (operations : Operations joint)
    (isValue : operations.value? left = some value)
    (ends : (Level.joined joint).Ends later) :
    ∃ values,
      (∀ labels, grammar.Passes (.zeroOrMore (round joint)) labels
        operations.text later (.list values) labels) ∧
      operateAll left values = .answer (.node value) :=
  match operations with
  | .none => by
    obtain rfl := Option.some.inj isValue
    have refuses : grammar.Refuses (round joint) Frame.empty later :=
      .sequence (Grammar.refuses_oneOf ends.rejected)
    exact ⟨[], fun _ => refuses.zeroOrMore, rfl⟩
  | .operation operator isOperator operand others => by
    obtain ⟨middle, isMiddle, isResult⟩ := Option.bind_eq_some_iff.mp isValue
    obtain ⟨right, isRight, applied⟩ := Option.bind_eq_some_iff.mp isMiddle
    obtain ⟨values, rounds, isReply⟩ := passes_operations others isResult ends
    have accepted : (CharClass.ofSteps [.chars joint.symbols]).accepts
        operator = true := by
      rw [accepts_symbols, List.contains_iff_mem]
      exact isOperator
    have isOperand : grammar.Passes (.reference joint.operand.name) Frame.empty
        operand.text (others.text ++ later) (.node right) Frame.empty :=
      passes_tree operand isRight (ends.operations others)
    have oneRound : grammar.Passes (round joint) Frame.empty
        ([operator] ++ operand.text) (others.text ++ later) _ _ :=
      (Grammar.passes_oneOf accepted).cons isOperand.only
    refine ⟨_, fun labels =>
      oneRound.zeroOrMore (List.cons_ne_nil _ _) (rounds labels), ?_⟩
    have isText : (Value.text (α := Int) [operator].utf8Encode).string? =
        some (String.ofList [operator]) :=
      Decoded.fromUTF8?_utf8Encode _
    rw [operateAll, isText, show number (.node right) = right from rfl,
      (operate_eq_answer_iff isOperator).mpr applied]
    exact isReply

end

end Passing

section Recognition

variable {input : ByteArray} {start finish : Nat} {labels bound : Frame Int}
  {store last : Store} {value : Value Int} {chars : List Char}

/-- What is matched are the first of the characters ahead, and they are the text
of a phrase with the value that is found. -/
def Recognized (input : ByteArray) (level : Level) (chars : List Char)
    (value : Value Int) (finish : Nat) : Prop :=
  ∃ (tree : Tree level) (later : List Char) (result : Int),
    chars = tree.text ++ later ∧ Decoded.Ahead input finish later ∧
      value = .node result ∧ tree.value? = some result

/-- Whatever the rule for a level matches without complaints where no more than
some number of characters is ahead is a phrase of that level. -/
def Recognizes (input : ByteArray) (level : Level) (limit : Nat) : Prop :=
  ∀ (chars : List Char) (start finish : Nat) (labels bound : Frame Int)
    (store last : Store) (value : Value Int),
    chars.length ≤ limit → Decoded.Ahead input start chars →
      (grammar.taken .exacting).Derives input (.reference level.name) start
          labels store (.succeeds value finish bound last) →
        Recognized input level chars value finish

theorem recognized_number (ahead : Decoded.Ahead input start chars)
    (derives : (grammar.taken .exacting).Derives input (.reference "Number")
      start labels store (.succeeds value finish bound last)) :
    Recognized input .term chars value finish := by
  obtain ⟨-, _, body⟩ := derives.exists_body target?_number
  obtain ⟨inner, next, holds, answers⟩ := body.exists_answer
  obtain ⟨digits, later, rfl, isNonempty, areAccepted, rfl⟩ :=
    Grammar.Derives.exists_accepted_of_oneOrMore holds ahead
  have areDigits : ∀ char ∈ digits, char.isDigit = true :=
    fun char isChar => accepts_digits char ▸ areAccepted char isChar
  obtain ⟨passed, spans⟩ := ahead.pass
  simp only [Grammar.contextOf, spans, readNumber_eq isNonempty areDigits]
    at answers
  split at answers
  case isTrue fits =>
    cases answers
    exact ⟨.numeral digits isNonempty areDigits, later, _, rfl, passed, rfl,
      if_pos fits⟩
  case isFalse => cases answers

theorem recognized_bracketed {limit : Nat}
    (shorter : ∀ fewer < limit, Recognizes input (.joined .sum) fewer)
    (short : chars.length ≤ limit) (ahead : Decoded.Ahead input start chars)
    (derives : (grammar.taken .exacting).Derives input
      (bracketed.taken .exacting) start labels store
      (.succeeds value finish bound last)) :
    Recognized input .term chars value finish := by
  obtain ⟨inner, next, holds, answers⟩ := derives.exists_answer
  obtain ⟨_, _, _, _, _, rfl, opens, rest⟩ := Grammar.Derives.exists_cons holds
  obtain ⟨_, _, _, _, _, ⟨⟩, sum, closes⟩ := Grammar.Derives.exists_pair rest
  obtain ⟨rfl, _, isSum⟩ := Grammar.Derives.exists_labeled sum
  obtain ⟨inside, rfl, rfl, rfl⟩ := Grammar.Derives.exists_exactly opens ahead
  obtain ⟨tree, rest, result, rfl, behind, rfl, isValue⟩ :=
    shorter inside.length short inside _ _ _ _ _ _ _ (Nat.le_refl _)
      ahead.pass.1 isSum
  obtain ⟨later, rfl, rfl, rfl⟩ :=
    Grammar.Derives.exists_exactly closes behind
  rw [innerSum_eq rfl] at answers
  cases answers
  exact ⟨.bracketed tree, later, result, by simp [Tree.text], behind.pass.1,
    rfl, isValue⟩

theorem recognizes_term {limit : Nat}
    (shorter : ∀ fewer < limit, Recognizes input (.joined .sum) fewer) :
    Recognizes input .term limit := by
  intro chars start finish labels bound store last value short ahead derives
  obtain ⟨-, _, body⟩ := derives.exists_body target?_term
  cases body with
  | choiceFirst holds =>
      exact recognized_bracketed shorter short ahead holds
  | choiceLater fails later =>
      cases later with
      | choiceFirst holds => exact recognized_number ahead holds
      | choiceLater fails later => cases later

/-- A round of a repetition matches an operator and an operand. -/
theorem recognized_round {joint : Joint} {limit : Nat}
    (operands : Recognizes input joint.operand limit)
    (short : chars.length ≤ limit) (ahead : Decoded.Ahead input start chars)
    (derives : (grammar.taken .exacting).Derives input
      ((round joint).taken .exacting) start labels store
      (.succeeds value finish bound last)) :
    ∃ operator ∈ joint.operators, ∃ (operand : Tree joint.operand)
      (later : List Char) (right : Int),
      chars = operator :: operand.text ++ later ∧
        Decoded.Ahead input finish later ∧ start < finish ∧
        value = .list [.text [operator].utf8Encode, .node right] ∧
        operand.value? = some right := by
  obtain ⟨_, _, _, _, _, rfl, symbol, holds⟩ :=
    Grammar.Derives.exists_pair derives
  obtain ⟨operator, inside, rfl, accepted, rfl, rfl, rfl⟩ :=
    Grammar.Derives.exists_char symbol ahead
  have isOperator : operator ∈ joint.operators := by
    rwa [accepts_symbols, List.contains_iff_mem] at accepted
  have forward := Decoded.size_utf8Encode_pos (List.cons_ne_nil operator [])
  have onward := holds.spans.le
  obtain ⟨operand, later, right, rfl, behind, rfl, isRight⟩ :=
    operands inside _ _ _ _ _ _ _ (Nat.le_of_succ_le short) ahead.pass_one.1
      holds
  exact ⟨operator, isOperator, operand, later, right, rfl, behind, by omega,
    rfl, isRight⟩

/-- Rounds match operations, and what the code makes of their values is what the
operations come to. -/
theorem recognized_operations {joint : Joint} {limit : Nat}
    {values : List (Value Int)} {left : Int} {result : Value Int}
    (operands : Recognizes input joint.operand limit)
    (short : chars.length ≤ limit) (ahead : Decoded.Ahead input start chars)
    (derives : (grammar.taken .exacting).Derives input
      ((Expr.zeroOrMore (round joint)).taken .exacting) start labels store
      (.succeeds (.list values) finish bound last))
    (answers : operateAll left values = .answer result) :
    ∃ (operations : Operations joint) (later : List Char) (number : Int),
      chars = operations.text ++ later ∧ Decoded.Ahead input finish later ∧
        result = .node number ∧ operations.value? left = some number := by
  induction values generalizing chars start left store with
  | nil =>
      cases derives
      cases answers
      exact ⟨.none, chars, left, rfl, ahead, rfl, rfl⟩
  | cons first values ih =>
      cases derives with
      | zeroOrMoreStays stays =>
          obtain ⟨_, _, _, _, _, _, _, moves, -⟩ :=
            recognized_round operands short ahead stays
          omega
      | zeroOrMoreCons holds moves rest =>
          obtain ⟨operator, isOperator, operand, inside, right, rfl, behind, -,
            rfl, isRight⟩ := recognized_round operands short ahead holds
          have isText :
              (Value.text (α := Int) [operator].utf8Encode).string? =
                some (String.ofList [operator]) :=
            Decoded.fromUTF8?_utf8Encode _
          simp only [operateAll, isText, show number (.node right) = right
            from rfl] at answers
          split at answers
          case h_1 middle applied =>
            have shorter : inside.length ≤ limit := by
              simp only [List.length_append, List.length_cons] at short
              omega
            obtain ⟨operations, later, number, rfl, after, rfl, isValue⟩ :=
              ih shorter behind rest answers
            refine ⟨.operation operator isOperator operand operations, later,
              number, ?_, after, rfl, ?_⟩
            · simp [Operations.text]
            · have isMiddle := (operate_eq_answer_iff isOperator).mp applied
              simp [Operations.value?, isRight, isMiddle, isValue]
          case h_2 => cases answers
          case h_3 => cases answers

theorem recognizes_joined {joint : Joint} {limit : Nat}
    (operands : Recognizes input joint.operand limit) :
    Recognizes input (.joined joint) limit := by
  intro chars start finish labels bound store last value short ahead derives
  obtain ⟨index, target⟩ := target?_joined joint
  obtain ⟨-, _, body⟩ := derives.exists_body target
  obtain ⟨inner, next, holds, answers⟩ := body.exists_answer
  obtain ⟨_, _, _, _, _, rfl, head, tail⟩ := Grammar.Derives.exists_pair holds
  obtain ⟨rfl, _, first⟩ := Grammar.Derives.exists_labeled head
  obtain ⟨rfl, _, rounds⟩ := Grammar.Derives.exists_labeled tail
  obtain ⟨tree, behind, left, rfl, reached, rfl, isLeft⟩ :=
    operands chars _ _ _ _ _ _ _ short ahead first
  obtain ⟨values, rfl⟩ := Grammar.Derives.exists_list rounds
  rw [evaluate_eq rfl] at answers
  have shorter : behind.length ≤ limit := by
    simp only [List.length_append] at short
    omega
  obtain ⟨operations, later, result, rfl, after, rfl, isValue⟩ :=
    recognized_operations operands shorter reached rounds
      (congrArg Prod.fst answers)
  refine ⟨.joined joint tree operations, later, result, ?_, after, rfl, ?_⟩
  · simp [Tree.text]
  · simp only [Tree.value?, isLeft, Option.bind_some]
    exact isValue

/-- Whatever the rule for sums matches without complaints is a sum. -/
theorem recognizes_sum (input : ByteArray) (limit : Nat) :
    Recognizes input (.joined .sum) limit := by
  -- Only a bracketed sum leads back here, and it has fewer characters ahead.
  induction limit using Nat.strong_induction_on with
  | h limit ih =>
      have terms : Recognizes input .term limit := recognizes_term ih
      have products : Recognizes input (.joined .product) limit :=
        recognizes_joined terms
      exact recognizes_joined products

end Recognition

/-- The entry rule matches sums up to the end of the input. -/
def entry : Rule Int :=
  ⟨"Expr", "",
    .action (.sequence [.labeled "sum" (.reference "Sum"), .ending]) innerSum⟩

section Parses

theorem exists_gives (fileName : String) (input : ByteArray) :
    ∃ parsed log, (Session.ofSettings grammar fileName input []).Gives
      ⟨.parsed parsed, log⟩ := by
  have starts : (Session.ofSettings grammar fileName input []).grammar.start? =
      some entry := rfl
  obtain ⟨depth, settles⟩ := Session.exists_entering_settles starts
    error?_grammar not_leftRecursive
  obtain ⟨report, gives⟩ := Session.gives_of_ends starts error?_grammar settles
  obtain ⟨parsed, log, rfl⟩ := gives.exists_parsed rfl
  exact ⟨parsed, log, gives⟩

/-- The parse of a sum with a value reports nothing and has that value. -/
theorem gives_of_value (fileName : String) {sum : Tree (.joined .sum)}
    {result : Int}
    (isValue : sum.value? = some result) :
    ∃ parsed log,
      (Session.ofSettings grammar fileName sum.text.utf8Encode []).Gives
          ⟨.parsed parsed, log⟩ ∧
        parsed.value = some (.node result) ∧ parsed.diagnostics = .empty := by
  have isSum : grammar.Passes (.reference "Sum") Frame.empty sum.text [] _ _ :=
    passes_tree sum isValue ends_nil
  have whole : grammar.Passes
      (.sequence [.labeled "sum" (.reference "Sum"), .ending]) Frame.empty
      (sum.text ++ []) [] _ _ :=
    (isSum.labeled "sum").cons Grammar.passes_ending.only
  have passes : grammar.Passes entry.body Frame.empty (sum.text ++ []) []
      (.node result) _ :=
    whole.action fun position store => innerSum_eq rfl
  have starts : (Session.ofSettings grammar fileName sum.text.utf8Encode
      []).grammar.start? = some entry := rfl
  obtain ⟨depth, after, run, none, -⟩ := Grammar.Passes.entering starts
    error?_grammar rfl rfl (by simp [Session.ofSettings]) passes
  exact ⟨_, _, Session.gives_of_matched starts error?_grammar run, rfl, none⟩

/-- If the parse reports nothing, the input is a sum with a value. -/
theorem exists_sum_of_clean {fileName : String} {input : ByteArray}
    {parsed : Parsed Int} {log : Array LogEntry}
    (gives : (Session.ofSettings grammar fileName input []).Gives
      ⟨.parsed parsed, log⟩)
    (clean : parsed.diagnostics.isEmpty = true) :
    ∃ (sum : Tree (.joined .sum)) (result : Int),
      input = sum.text.utf8Encode ∧ sum.value? = some result ∧
        parsed.value = some (.node result) := by
  obtain ⟨rule, value, finish, labels, last, starts, derives, -, isText,
    isValue⟩ := gives.exactly rfl rfl clean
  cases starts
  obtain ⟨inner, next, holds, answers⟩ := derives.exists_answer
  obtain ⟨_, _, _, _, _, rfl, sum, ends⟩ := Grammar.Derives.exists_pair holds
  obtain ⟨rfl, _, matched⟩ := Grammar.Derives.exists_labeled sum
  obtain ⟨rfl, rfl, atEnd⟩ := Grammar.Derives.size_le_of_ending ends
  rw [← Nat.max_eq_left atEnd, ByteArray.extract_zero_max_size] at isText
  obtain ⟨chars, rfl⟩ := isText
  obtain ⟨tree, later, result, rfl, reached, rfl, isResult⟩ :=
    recognizes_sum chars.utf8Encode chars.length chars _ _ _ _ _ _ _
      (Nat.le_refl _) (Decoded.ahead_zero chars) matched
  obtain rfl := reached.eq_nil atEnd
  rw [innerSum_eq rfl] at answers
  cases answers
  exact ⟨tree, result, by rw [List.append_nil], isResult, isValue⟩

/-- Every parse with the arithmetic grammar ends.  It reports nothing and has a
number as its value exactly if the input is a sum with that value; and if the
input is no sum, or one without a value, something is reported. -/
theorem evaluates (fileName : String) (input : ByteArray) :
    ∃ parsed log,
      (Session.ofSettings grammar fileName input []).Gives
          ⟨.parsed parsed, log⟩ ∧
        (∀ result, parsed.isClean = true ∧
            parsed.value = some (.node result) ↔
          ∃ sum : Tree (.joined .sum),
            input = sum.text.utf8Encode ∧ sum.value? = some result) ∧
        ((¬ ∃ (sum : Tree (.joined .sum)) (result : Int),
            input = sum.text.utf8Encode ∧ sum.value? = some result) →
          parsed.diagnostics.isEmpty = false) := by
  obtain ⟨parsed, log, gives⟩ := exists_gives fileName input
  refine ⟨parsed, log, gives, fun result => ⟨?_, ?_⟩, ?_⟩
  · rintro ⟨clean, isResult⟩
    have unreported := (Bool.and_eq_true_iff.mp clean).2
    obtain ⟨sum, found, isText, isValue, isFound⟩ :=
      exists_sum_of_clean gives unreported
    cases isResult.symm.trans isFound
    exact ⟨sum, isText, isValue⟩
  · rintro ⟨sum, rfl, isValue⟩
    obtain ⟨other, _, again, isResult, none⟩ := gives_of_value fileName isValue
    cases gives.unique again
    rw [Parsed.isClean, isResult, none]
    exact ⟨rfl, rfl⟩
  · intro noSum
    by_contra reported
    obtain ⟨sum, result, isText, isValue, -⟩ :=
      exists_sum_of_clean gives (by simpa using reported)
    exact noSum ⟨sum, result, isText, isValue⟩

end Parses

end Arithmetic

end PegEngine
