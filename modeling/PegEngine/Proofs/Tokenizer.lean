import PegEngine.Proofs.SampleScanner
import PegEngine.Proofs.Termination

/-!
# The sample grammar follows its scanner

Each rule of the sample grammar passes what a part of the scanner takes, and
refuses where that part finds nothing, so a parse takes the steps of the
scanner.  Hence the tokens of a sample are those that the scanner finds, and a
sample is rejected exactly if the scanner takes no step at all
(`Sample.tokenizes`).
-/

namespace PegEngine

namespace Replacement

/-- Characters that are encoded are shown as they are. -/
theorem charsFrom_of_ahead {bytes : ByteArray} {offset : Nat}
    {chars : List Char} (ahead : Decoded.Ahead bytes offset chars) :
    charsFrom bytes offset = chars := by
  induction chars generalizing offset with
  | nil =>
      have atEnd := ahead.ofBytesAt_nil.1
      rw [charsFrom, dif_neg (by omega)]
  | cons char chars ih =>
      have decodes := ahead.ofBytesAt_cons
      have found := Decoded.utf8DecodeChar?_of_scalar decodes
      have beforeEnd := ByteArray.lt_size_of_isSome_utf8DecodeChar?
        (Option.isSome_iff_exists.mpr ⟨char, found⟩)
      have later := ahead.tail
      rw [decodes] at later
      rw [charsFrom, dif_pos beforeEnd, found]
      exact congrArg (char :: ·) (ih later)

theorem text_utf8Encode (chars : List Char) :
    text chars.utf8Encode = String.ofList chars :=
  congrArg String.ofList (charsFrom_of_ahead (Decoded.ahead_zero chars))

end Replacement

namespace Sample

/-- A line break or a tab. -/
def isWhitespace (char : Char) : Bool :=
  char == '\t' || char == '\r' || char == '\n'

section Classes

theorem accepts_wordClass (char : Char) :
    wordClass.accepts char = isPunctuation char := by
  have members : wordClass.contains char = !isPunctuation char := by
    rw [Bool.eq_iff_iff]
    simp [wordClass, CharClass.ofSteps, CharClass.extend, CharClass.empty,
      CharClass.contains, CharClass.fold, CharClass.foldRange, isPunctuation]
    tauto
  rw [CharClass.accepts, members]
  exact (Bool.xor_true _).trans (Bool.not_not _)

theorem accepts_tokenClass (char : Char) :
    tokenClass.accepts char = isPlain char := by
  rw [Bool.eq_iff_iff]
  simp [tokenClass, CharClass.ofSteps, CharClass.extend, CharClass.empty,
    CharClass.accepts, CharClass.contains, CharClass.fold, isPlain, isSpacing,
    and_assoc]

theorem accepts_whitespace (char : Char) :
    (CharClass.ofSteps [.chars "\t\r\n"]).accepts char =
      isWhitespace char := by
  rw [Bool.eq_iff_iff, CharClass.accepts_chars]
  simp [isWhitespace, or_assoc]

end Classes

variable {labels : Frame Token} {exprs : List (Expr Token)}

section Identifiers

theorem follows_text {charClass : CharClass} {belongs : Char → Bool}
    (accepts : ∀ char, charClass.accepts char = belongs char) :
    grammar.Follows (.action (.oneOrMore (.oneOf charClass)) onText) labels
      (Scanner.run belongs)
      (fun text value _ => value = .node ⟨false, String.ofList text⟩) := by
  refine (Grammar.follows_oneOf accepts).run.action ?_
  rintro chars text first later value bound finds rfl -
  obtain rfl : first = text :=
    List.append_cancel_right (Scanner.append_of_run finds)
  refine ⟨_, rfl, fun position store => ?_⟩
  simp only [onText, Code.pure, Replacement.text_utf8Encode]

theorem follows_identifier :
    grammar.Follows (.reference "Identifier") labels identifier?
      (fun text value bound => bound = labels ∧
        value = .node ⟨false, String.ofList text⟩) := by
  have punctuation : grammar.Follows (.reference "Punct") Frame.empty
      (Scanner.run isPunctuation) (fun text value bound =>
        bound = Frame.empty ∧ value = .node ⟨false, String.ofList text⟩) :=
    (follows_text accepts_wordClass).reference rfl
  exact (punctuation.value.choice
    (follows_text accepts_tokenClass).only).value.reference rfl

end Identifiers

section Spacing

/-- What the rule for spacing takes at once. -/
def spaces? : Scanner (List Char) := fun chars =>
  (Scanner.run (· == ' ') chars).or (Scanner.run isWhitespace chars)

theorem follows_spaces :
    grammar.Follows (.reference "Spacing") labels spaces?
      (fun _ value bound => bound = labels ∧
        ∃ values, value = .list values) := by
  have space : grammar.Follows (.reference "Space") Frame.empty _ _ :=
    (Grammar.follows_exactly rfl).value.reference rfl
  have whitespace : grammar.Follows (.reference "_") Frame.empty _ _ :=
    (Grammar.follows_oneOf accepts_whitespace).value.reference rfl
  exact (space.run.value.choice whitespace.run.value.only).value.reference rfl

theorem isSpacing_eq (char : Char) :
    isSpacing char = (char == ' ' || isWhitespace char) := by
  simp [isSpacing, isWhitespace, Bool.or_assoc]

theorem dropWhile_of_run {belongs : Char → Bool}
    {chars run later : List Char}
    (finds : Scanner.run belongs chars = some (run, later))
    (areSpacing : ∀ char, belongs char = true → isSpacing char = true) :
    later.length < chars.length ∧
      later.dropWhile isSpacing = chars.dropWhile isSpacing := by
  refine ⟨Scanner.length_of_run finds, ?_⟩
  obtain ⟨rfl, -, -⟩ := Scanner.run_eq_some.mp finds
  rw [Scanner.append_of_run finds, List.dropWhile_append_of_pos]
  exact fun char isMember =>
    areSpacing char (List.all_eq_true.mp List.all_takeWhile char isMember)

theorem dropWhile_of_spaces {chars run later : List Char}
    (finds : spaces? chars = some (run, later)) :
    later.length < chars.length ∧
      later.dropWhile isSpacing = chars.dropWhile isSpacing := by
  rcases Option.or_eq_some_iff.mp finds with finds | ⟨-, finds⟩
  · exact dropWhile_of_run finds fun char isSpace => by
      rw [isSpacing_eq, isSpace, Bool.true_or]
  · exact dropWhile_of_run finds fun char isWhite => by
      rw [isSpacing_eq, isWhite, Bool.or_true]

/-- Taking spaces and whitespace by turns takes all spacing. -/
theorem exists_steps_spaces (chars : List Char) :
    ∃ found, Scanner.Steps spaces? chars found (chars.dropWhile isSpacing) := by
  -- A step leaves fewer characters, and the same ones behind their spacing.
  induction length : chars.length using Nat.strong_induction_on
    generalizing chars with
  | h bound ih =>
      cases finds : spaces? chars with
      | none =>
          obtain ⟨noSpace, noWhitespace⟩ := Option.or_eq_none_iff.mp finds
          have same : chars.dropWhile isSpacing = chars := by
            apply Scanner.dropWhile_of_run_eq_none
            rw [Scanner.run_eq_none] at noSpace noWhitespace ⊢
            intro char isNext
            rw [isSpacing_eq, noSpace char isNext, noWhitespace char isNext]
            rfl
          exact ⟨[], same.symm ▸ .stops finds⟩
      | some result =>
          obtain ⟨run, later⟩ := result
          obtain ⟨shorter, same⟩ := dropWhile_of_spaces finds
          obtain ⟨found, steps⟩ := ih _ (length ▸ shorter) later rfl
          exact ⟨run :: found, same ▸ .step finds shorter steps⟩

theorem follows_spacing :
    grammar.Follows spacing labels (Scanner.run isSpacing)
      (fun _ value bound => bound = labels ∧ ∃ values, value = .list values) :=
  follows_spaces.oneOrMore exists_steps_spaces

/-- Spacing, where it is wanted. -/
def spaced (wanted : Bool) : List (Expr Token) :=
  if wanted then [spacing] else []

theorem follows_spaced {β : Type} {scanner : Scanner β}
    {fits : β → Frame Token → Prop}
    (follows : grammar.Follows (.sequence exprs) labels scanner
      fun found _ bound => fits found bound) (wanted : Bool) :
    grammar.Follows (.sequence (spaced wanted ++ exprs)) labels
      (fun chars => (spacing? wanted chars).bind
        fun (_, later) => scanner later)
      (fun found _ bound => fits found bound) := by
  cases wanted with
  | false => exact follows
  | true => exact follows_spacing.skip follows

end Spacing

section Keywords

theorem follows_closed (behind : Bool) (text : List Char) :
    grammar.Follows (.sequence (spaced behind ++ [.exactly "\x7d"])) labels
      (closed? behind text)
      (fun token _ bound => token = ⟨true, String.ofList text⟩ ∧
        bound = labels) :=
  follows_spaced ((Grammar.follows_exactly rfl).skip (Grammar.follows_nil _))
    behind

/-- Once the brace is closed, the identifier is found under its label. -/
theorem follows_named (behind : Bool) :
    grammar.Follows
      (.sequence (identifier :: (spaced behind ++ [.exactly "\x7d"]))) labels
      (fun chars => (identifier? chars).bind fun (text, following) =>
        closed? behind text following)
      (fun (token : Token) _ bound => token.isKeyword = true ∧
        bound.get? "v" = some (.node ⟨false, token.text⟩)) := by
  refine (follows_identifier.value.labeled "v").cons (closed? behind) ?_
  rintro text _ _ ⟨rfl, rfl⟩
  refine (follows_closed behind text).mono ?_
  rintro _ value _ ⟨rfl, rfl⟩
  exact ⟨rfl, by rw [Frame.get?_bindNamed rfl, if_pos rfl]⟩

theorem follows_braced (before behind : Bool) :
    grammar.Follows (keyword (spaced before ++ identifier :: spaced behind))
      labels (braced? before behind)
      (fun token value _ => value = .node token) := by
  have opened : grammar.Follows
      (.sequence (.exactly "\x7b" :: (spaced before ++
        identifier :: (spaced behind ++ [.exactly "\x7d"]))))
      labels (braced? before behind) _ :=
    (Grammar.follows_exactly rfl).skip
      (follows_spaced (follows_named behind) before)
  have same :
      .exactly "\x7b" :: (spaced before ++ identifier :: spaced behind) ++
          [.exactly "\x7d"] =
        .exactly "\x7b" :: (spaced before ++
          identifier :: (spaced behind ++ [.exactly "\x7d"])) := by
    simp
  rw [keyword, same]
  refine opened.action ?_
  rintro chars ⟨_, text⟩ first later value bound - - ⟨rfl, isName⟩
  refine ⟨_, rfl, fun position store => ?_⟩
  have named : MatchContext.label?
      ⟨position, first.utf8Encode, value, bound.toMap, store⟩ "v" = _ :=
    (bound.getElem?_toMap "v").trans isName
  simp only [onKeyword, Code.pure, named]
  rfl

theorem follows_keyword :
    grammar.Follows (.reference "Keyword") labels keyword?
      (fun token value bound => bound = labels ∧ value = .node token) :=
  ((follows_braced true false).choice ((follows_braced false true).choice
    ((follows_braced true true).choice
      (follows_braced false false).only))).value.reference rfl

end Keywords

/-- Where there is no identifier, spacing starts with a space. -/
theorem spaces_of_not_identifier {chars : List Char}
    (nothing : identifier? chars = none) :
    spaces? chars = Scanner.run (· == ' ') chars := by
  have noPunctuation := (Option.or_eq_none_iff.mp nothing).1
  have noWhitespace : Scanner.run isWhitespace chars = none := by
    rw [Scanner.run_eq_none] at noPunctuation ⊢
    intro char isNext
    by_contra isWhite
    have differs := noPunctuation char isNext
    simp only [isWhitespace, Bool.or_eq_true, beq_iff_eq,
      Bool.not_eq_false] at isWhite
    rcases isWhite with (rfl | rfl) | rfl <;> cases differs
  rw [spaces?, noWhitespace, Option.or_none]

/-- What is tried in turn in a sample. -/
def alternatives : List (Expr Token) :=
  [.reference "Identifier", .reference "Keyword", .reference "Spacing"]

theorem follows_step :
    grammar.Follows (.choice alternatives) labels step?
      (fun token value bound => bound = labels ∧ value.node? = token) := by
  have identifiers : grammar.Follows (.reference "Identifier") Frame.empty
      (fun chars => (identifier? chars).map
        (Prod.map (fun text => some (⟨false, String.ofList text⟩ : Token)) id))
      (fun token value _ => value.node? = token) := by
    refine follows_identifier.value.map ?_
    rintro text _ _ rfl
    rfl
  have keywords : grammar.Follows (.reference "Keyword") Frame.empty
      (fun chars => (keyword? chars).map (Prod.map some id))
      (fun token value _ => value.node? = token) := by
    refine follows_keyword.value.map ?_
    rintro token _ _ rfl
    rfl
  have spacing : grammar.Follows (.reference "Spacing") Frame.empty
      (fun chars => (spaces? chars).map (Prod.map (fun _ => none) id))
      (fun token value _ => value.node? = token) := by
    refine follows_spaces.value.map ?_
    rintro spaces _ _ ⟨values, rfl⟩
    rfl
  have same : step? = fun chars =>
      ((identifier? chars).map
        (Prod.map (fun text => some ⟨false, String.ofList text⟩) id)).or
      (((keyword? chars).map (Prod.map some id)).or
        ((spaces? chars).map (Prod.map (fun _ => none) id))) := by
    funext chars
    rw [step?]
    cases identifies : identifier? chars with
    | none => rw [spaces_of_not_identifier identifies]
    | some found => rfl
  rw [same]
  exact identifiers.choice (keywords.choice spacing.only)

/-- The entry rule takes all steps of the scanner. -/
def entry : Rule Token :=
  ⟨"Sample", "\"sample\"",
    .action (.labeled "vs" (.zeroOrMore (.choice alternatives))) onSample⟩

section Parses

theorem error?_grammar : grammar.error? = none := by
  decide

theorem nestsWithin_entry : grammar.nestsWithin 15 entry.body = true := by
  decide

/-- The parse of a sample. -/
def session (number : Nat) (input : ByteArray) : Session Token :=
  .ofSettings grammar (name number) input []

theorem start?_session (number : Nat) (input : ByteArray) :
    (session number input).grammar.start? = some entry :=
  rfl

/-- What the entry rule matches decides on the tokens. -/
theorem tokens?_of_matched {number depth : Nat} {input : ByteArray}
    {value : Value Token} {after : ParseState Token}
    (run : (session number input).entering depth entry =
      .ok (.matched value) after) :
    tokens? number input [] =
      some (tokensOf (name number)
        ⟨(some value).filter fun value => !value.isNil, after.diagnostics,
          after.expressions⟩) := by
  have starts := start?_session number input
  have gives := Session.gives_of_matched starts error?_grammar run
  obtain ⟨other, within⟩ :=
    Session.exists_report_of_nestsWithin starts error?_grammar nestsWithin_entry
  have parsed := Session.parseWithin_eq_of_le _
    (show 15 ≤ Session.defaultDepth by decide) within
  obtain rfl := Session.Gives.unique ⟨_, within⟩ gives
  change (session number input).parse.bind _ = _
  rw [Session.parse, parsed]
  rfl

theorem filterMap_nodesOnly (values : List (Value Token)) :
    (nodesOnly values).filterMap Value.node? =
      values.filterMap Value.node? := by
  rw [nodesOnly, List.filterMap_filter]
  refine List.filterMap_congr fun value _ => ?_
  cases value.node? <;> rfl

theorem onSample_nil {context : MatchContext Token} {frame : Frame Token}
    (isBound : context.labels = (frame.bindNamed "vs" (.list [])).toMap) :
    onSample context = (.complaint "empty sample", context.store) := by
  have isList := MatchContext.label?_of_bound isBound rfl
  simp only [onSample, Code.pure, isList]
  rfl

theorem onSample_cons {context : MatchContext Token} {frame : Frame Token}
    {value : Value Token} {values : List (Value Token)}
    (isBound : context.labels =
      (frame.bindNamed "vs" (.list (value :: values))).toMap) :
    onSample context =
      (.answer (.list (nodesOnly (value :: values))), context.store) := by
  have isList := MatchContext.label?_of_bound isBound rfl
  simp only [onSample, Code.pure, isList]
  rfl

/-- The entry rule without its code passes what the scanner takes. -/
theorem exists_passes (chars : List Char) :
    ∃ first values, chars = first ++ (scan chars).2 ∧
      grammar.Passes (.labeled "vs" (.zeroOrMore (.choice alternatives)))
        Frame.empty first (scan chars).2 (.list values)
        (Frame.empty.bindNamed "vs" (.list values)) ∧
      values.map Value.node? = (scan chars).1 := by
  obtain ⟨first, values, isAhead, passes, hold⟩ :=
    follows_step.value.zeroOrMore (scan_steps chars)
  refine ⟨first, values, isAhead, passes.labeled "vs", ?_⟩
  have same : List.Forall₂ (· = ·) (scan chars).1 (values.map Value.node?) :=
    List.forall₂_map_right_iff.mpr (hold.imp fun _ _ isToken => isToken.symm)
  exact (List.forall₂_eq_eq_eq ▸ same).symm

/-- The parse of a sample matches up to where some characters are ahead. -/
def EndsBefore (number : Nat) (input : ByteArray) (rest : List Char) : Prop :=
  ∃ depth value after,
    (session number input).entering depth entry =
        .ok (.matched value) after ∧
      Decoded.Ahead input after.cursor.offset rest

variable {first rest : List Char} {values : List (Value Token)}
  (number : Nat)
  (passes : grammar.Passes (.labeled "vs" (.zeroOrMore (.choice alternatives)))
    Frame.empty first rest (.list values)
    (Frame.empty.bindNamed "vs" (.list values)))
include passes

/-- A sample in which something is passed has the tokens that are passed. -/
theorem tokens_of_passes (isNonempty : values ≠ []) :
    tokens? number (first ++ rest).utf8Encode [] =
        some (.ok (values.filterMap Value.node?)) ∧
      EndsBefore number (first ++ rest).utf8Encode rest := by
  obtain ⟨value, others, rfl⟩ := List.exists_cons_of_ne_nil isNonempty
  have whole : grammar.Passes entry.body Frame.empty first rest
      (.list (nodesOnly (value :: others))) _ :=
    passes.action fun position store => onSample_cons rfl
  obtain ⟨depth, after, run, unreported, atRest⟩ :=
    whole.entering (start?_session number (first ++ rest).utf8Encode)
      error?_grammar rfl rfl rfl
  refine ⟨?_, depth, _, after, run, atRest ▸ Decoded.ahead_append first rest⟩
  rw [tokens?_of_matched run, unreported, ← filterMap_nodesOnly]
  rfl

/-- A sample in which nothing is passed is rejected for being empty. -/
theorem complains_of_passes (isEmpty : values = []) :
    (∃ diagnostics,
      tokens? number (first ++ rest).utf8Encode [] =
          some (.error diagnostics) ∧
        diagnostics.toList.map Diagnostic.render =
          [name number ++ ": empty sample"]) ∧
      EndsBefore number (first ++ rest).utf8Encode rest := by
  subst isEmpty
  obtain ⟨depth, after, diagnostic, run, atRest, reported, isError⟩ :=
    passes.entering_complains
      (start?_session number (first ++ rest).utf8Encode) error?_grammar rfl
      rfl rfl rfl fun position store => onSample_nil rfl
  refine ⟨⟨.ofList [{ diagnostic with location := name number }], ?_, ?_⟩,
    depth, _, after, run, atRest ▸ Decoded.ahead_append first rest⟩
  · have isReported : after.diagnostics.isEmpty = false := by
      rw [Diagnostics.isEmpty, reported]
      rfl
    rw [tokens?_of_matched run]
    simp [tokensOf, isReported, renamed, reported]
  · have isMessage : diagnostic.error.message = "empty sample" := by
      rw [isError]
      rfl
    simp only [Diagnostics.ofList, Diagnostics.push, Diagnostics.empty,
      List.foldl_cons, List.foldl_nil, List.any_nil, Bool.false_eq_true,
      if_false, List.nil_append, List.map_cons, List.map_nil, Diagnostic.render,
      Diagnostic.message, isMessage, String.append_assoc]
    rfl

end Parses

/-- The tokens of a sample are those that the scanner finds, if it takes a step
at all; if it takes none, the sample is rejected, and that is the only report.
The parse stops where the scanner does, which is at a brace or at the end. -/
theorem tokenizes (number : Nat) (text : String) :
    ((scan text.toList).1 ≠ [] →
      tokens? number text.toUTF8 [] =
        some (.ok ((scan text.toList).1.filterMap id))) ∧
    ((scan text.toList).1 = [] →
      ∃ diagnostics,
        tokens? number text.toUTF8 [] = some (.error diagnostics) ∧
          diagnostics.toList.map Diagnostic.render =
            ["sample#" ++ toString number ++ ": empty sample"]) ∧
    EndsBefore number text.toUTF8 (scan text.toList).2 ∧
    ((scan text.toList).2 = [] ∨
      ∃ brace later, (scan text.toList).2 = brace :: later ∧
        (brace = '{' ∨ brace = '}')) := by
  obtain ⟨first, values, isText, passes, isFound⟩ := exists_passes text.toList
  have isInput : text.toUTF8 = (first ++ (scan text.toList).2).utf8Encode := by
    rw [← isText]
    exact String.utf8Encode_toList.symm
  have isToken : values.filterMap Value.node? =
      (scan text.toList).1.filterMap id := by
    rw [← isFound, List.filterMap_map]
    rfl
  have isEmpty : values = [] ↔ (scan text.toList).1 = [] := by
    rw [← isFound, List.map_eq_nil_iff]
  rw [isInput, ← isToken, ← isEmpty]
  by_cases nothing : values = []
  · obtain ⟨rejected, ends⟩ := complains_of_passes number passes nothing
    exact ⟨fun some => absurd (isEmpty.mp nothing) some, fun _ => rejected,
      ends, scan_stops text.toList⟩
  · obtain ⟨accepted, ends⟩ := tokens_of_passes number passes nothing
    exact ⟨fun _ => accepted, fun none => absurd none nothing, ends,
      scan_stops text.toList⟩

end Sample

end PegEngine
