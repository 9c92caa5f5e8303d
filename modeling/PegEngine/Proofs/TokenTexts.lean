import PegEngine.Proofs.Tokenizer

/-!
# What the texts of tokens are made of

The text of a token is that of an identifier, be it by itself or between braces,
and an identifier is matched by one of two classes that are repeated.  So it can
be told from the derivation of a match, for inputs of any bytes, what a text
looks like (`Sample.texts_of_tokens`): it stands in the input, it is not empty,
and it has neither braces nor spaces.  Tabs and line breaks are spacing too, but
they are no exception from punctuation, and punctuation is tried first.
-/

namespace PegEngine

namespace Sample

/-- A piece of the input that an identifier may match: some punctuation, or some
characters that are neither braces nor spacing. -/
structure Names (input : ByteArray) (text : List Char) : Prop where
  nonempty : text ≠ []
  uniform : (∀ char ∈ text, isPunctuation char = true) ∨
    ∀ char ∈ text, isPlain char = true
  isPiece : ∃ start finish, input.extract start finish = text.utf8Encode

section Derivations

variable {input : ByteArray} {start finish : Nat} {labels bound : Frame Token}
  {store last : Store} {value : Value Token}

theorem onKeyword_of_named {context : MatchContext Token} {frame : Frame Token}
    {token : Token}
    (isBound : context.labels = (frame.bindNamed "v" (.node token)).toMap) :
    onKeyword context =
      (.answer (.node ⟨true, token.text⟩), context.store) := by
  have isToken := MatchContext.label?_of_bound isBound rfl
  simp only [onKeyword, Code.pure, isToken]
  rfl

/-- Behind spacing, where it is wanted, goes on the rest of a sequence. -/
theorem exists_unspaced {exprs : List (Expr Token)} (wanted : Bool)
    (derives : (grammar.taken .exacting).Derives input
      ((Expr.sequence (spaced wanted ++ exprs)).taken .exacting) start labels
      store (.succeeds value finish bound last)) :
    ∃ middle next rest,
      Relation.ReflTransGen (Decoded.Follows input) start middle ∧
        (grammar.taken .exacting).Derives input
          ((Expr.sequence exprs).taken .exacting) middle labels next
          (.succeeds rest finish bound last) := by
  cases wanted with
  | false => exact ⟨_, _, _, .refl, derives⟩
  | true =>
      obtain ⟨_, _, _, _, _, rfl, spaces, later⟩ :=
        Grammar.Derives.exists_cons derives
      obtain ⟨-, rfl⟩ := Grammar.Derives.exists_list_of_oneOrMore spaces
      exact ⟨_, _, _, spaces.spans.follows, later⟩

/-- Spacing has no token. -/
theorem node?_of_spacing
    (derives : (grammar.taken .exacting).Derives input (.reference "Spacing")
      start labels store (.succeeds value finish bound last)) :
    value.node? = none := by
  obtain ⟨-, _, body⟩ := derives.exists_body rfl
  obtain ⟨run, isRun, _, _, holds⟩ := Grammar.Derives.exists_alternative body
  simp only [Expr.allTaken, List.mem_cons, List.not_mem_nil, or_false] at isRun
  rcases isRun with rfl | rfl
  all_goals
    obtain ⟨⟨values, rfl⟩, -⟩ :=
      Grammar.Derives.exists_list_of_oneOrMore holds
    rfl

variable (boundary : Decoded.Boundary input start)
  (wellFormed : ∀ offset < finish, ¬ Decoded.Malformed input offset)
include boundary wellFormed

theorem exists_text {charClass : CharClass} {belongs : Char → Bool}
    (accepts : ∀ char, charClass.accepts char = belongs char)
    (derives : (grammar.taken .exacting).Derives input
      ((Expr.action (.oneOrMore (.oneOf charClass)) onText).taken .exacting)
      start labels store (.succeeds value finish bound last)) :
    ∃ text, value = .node ⟨false, String.ofList text⟩ ∧ text ≠ [] ∧
      (∀ char ∈ text, belongs char = true) ∧
      input.extract start finish = text.utf8Encode := by
  obtain ⟨inner, next, holds, answers⟩ := derives.exists_answer
  obtain ⟨text, spelled, isNonempty, areAccepted⟩ :=
    Grammar.Derives.exists_spelled_of_oneOrMore holds
  have encodes := spelled.encodes boundary wellFormed
  simp only [onText, Code.pure, Grammar.contextOf, encodes,
    Replacement.text_utf8Encode] at answers
  cases answers
  exact ⟨text, rfl, isNonempty,
    fun char isChar => accepts char ▸ areAccepted char isChar, encodes⟩

theorem exists_names
    (derives : (grammar.taken .exacting).Derives input
      (.reference "Identifier") start labels store
      (.succeeds value finish bound last)) :
    ∃ text, value = .node ⟨false, String.ofList text⟩ ∧ Names input text := by
  obtain ⟨-, _, body⟩ := derives.exists_body rfl
  obtain ⟨form, isForm, _, _, holds⟩ := Grammar.Derives.exists_alternative body
  simp only [Expr.allTaken, List.mem_cons, List.not_mem_nil, or_false] at isForm
  rcases isForm with rfl | rfl
  · obtain ⟨-, _, punctuation⟩ := Grammar.Derives.exists_body holds rfl
    obtain ⟨text, isValue, isNonempty, all, isPiece⟩ :=
      exists_text boundary wellFormed accepts_wordClass punctuation
    exact ⟨text, isValue, isNonempty, .inl all, _, _, isPiece⟩
  · obtain ⟨text, isValue, isNonempty, all, isPiece⟩ :=
      exists_text boundary wellFormed accepts_tokenClass holds
    exact ⟨text, isValue, isNonempty, .inr all, _, _, isPiece⟩

/-- The text of a keyword is that of the identifier in it. -/
theorem exists_names_of_form (before behind : Bool)
    (derives : (grammar.taken .exacting).Derives input
      ((keyword (spaced before ++ identifier :: spaced behind)).taken .exacting)
      start labels store (.succeeds value finish bound last)) :
    ∃ text, value = .node ⟨true, String.ofList text⟩ ∧ Names input text := by
  obtain ⟨inner, next, holds, answers⟩ := derives.exists_answer
  rw [List.cons_append, List.append_assoc, List.cons_append] at holds
  obtain ⟨_, _, _, _, _, rfl, opens, opened⟩ :=
    Grammar.Derives.exists_cons holds
  obtain ⟨_, _, _, skips, inside⟩ := exists_unspaced before opened
  obtain ⟨_, _, _, _, _, rfl, named, behindName⟩ :=
    Grammar.Derives.exists_cons inside
  obtain ⟨rfl, _, isName⟩ := Grammar.Derives.exists_labeled named
  obtain ⟨_, _, _, -, closing⟩ := exists_unspaced behind behindName
  obtain ⟨_, _, _, _, _, rfl, closes, ends⟩ :=
    Grammar.Derives.exists_cons closing
  -- Nothing behind the identifier binds a label, so its own is still there.
  obtain rfl := Grammar.Derives.bound_eq_of_exactly closes
  obtain ⟨-, rfl, rfl, rfl⟩ := Grammar.Derives.eq_of_nil ends
  have within := behindName.spans.le
  obtain ⟨text, rfl, names⟩ := exists_names
    (boundary.trans (opens.spans.follows.trans skips))
    (fun offset before => wellFormed offset (by omega)) isName
  rw [onKeyword_of_named rfl] at answers
  cases answers
  exact ⟨text, rfl, names⟩

theorem exists_names_of_keyword
    (derives : (grammar.taken .exacting).Derives input (.reference "Keyword")
      start labels store (.succeeds value finish bound last)) :
    ∃ text, value = .node ⟨true, String.ofList text⟩ ∧ Names input text := by
  obtain ⟨-, _, body⟩ := derives.exists_body rfl
  obtain ⟨form, isForm, _, _, holds⟩ := Grammar.Derives.exists_alternative body
  simp only [Expr.allTaken, List.mem_cons, List.not_mem_nil, or_false] at isForm
  rcases isForm with rfl | rfl | rfl | rfl
  · exact exists_names_of_form boundary wellFormed true false holds
  · exact exists_names_of_form boundary wellFormed false true holds
  · exact exists_names_of_form boundary wellFormed true true holds
  · exact exists_names_of_form boundary wellFormed false false holds

/-- What is tried in turn in a sample has tokens with names only. -/
theorem names_of_alternatives {token : Token}
    (derives : (grammar.taken .exacting).Derives input
      ((Expr.choice alternatives).taken .exacting) start labels store
      (.succeeds value finish bound last))
    (isToken : value.node? = some token) : Names input token.text.toList := by
  obtain ⟨form, isForm, _, _, holds⟩ :=
    Grammar.Derives.exists_alternative derives
  simp only [alternatives, Expr.allTaken, List.mem_cons, List.not_mem_nil,
    or_false] at isForm
  rcases isForm with rfl | rfl | rfl
  · obtain ⟨text, rfl, names⟩ := exists_names boundary wellFormed holds
    cases isToken
    exact String.toList_ofList ▸ names
  · obtain ⟨text, rfl, names⟩ :=
      exists_names_of_keyword boundary wellFormed holds
    cases isToken
    exact String.toList_ofList ▸ names
  · exact absurd ((node?_of_spacing holds).symm.trans isToken) nofun

end Derivations

/-- A sample that is not rejected has the tokens of what is found in it. -/
theorem exists_values_of_ok {number : Nat} {input : ByteArray}
    {tokens : List Token}
    (isOk : tokens? number input [] = some (.ok tokens)) :
    ∃ values finish labels store last,
      (grammar.taken .exacting).Derives input
          ((Expr.zeroOrMore (.choice alternatives)).taken .exacting) 0
          Frame.empty store (.succeeds (.list values) finish labels last) ∧
        (∀ offset ≤ finish, ¬ Decoded.Malformed input offset) ∧
        tokens = values.filterMap Value.node? := by
  obtain ⟨⟨outcome, log⟩, parses, isTokens⟩ := Option.bind_eq_some_iff.mp isOk
  cases outcome with
  | escaped fault => cases isTokens
  | parsed parsed =>
      have tokenized := Option.some.inj isTokens
      unfold tokensOf at tokenized
      split at tokenized
      case isFalse => cases tokenized
      case isTrue clean =>
        have gives : (session number input).Gives ⟨.parsed parsed, log⟩ :=
          ⟨_, parses⟩
        obtain ⟨rule, value, finish, labels, last, starts, derives, wellFormed,
          -, isValue⟩ := gives.exactly rfl rfl clean
        cases starts
        obtain ⟨inner, next, holds, answers⟩ := derives.exists_answer
        obtain ⟨rfl, labels, rounds⟩ := Grammar.Derives.exists_labeled holds
        obtain ⟨values, rfl⟩ := Grammar.Derives.exists_list rounds
        refine ⟨values, finish, labels, _, _, rounds, wellFormed, ?_⟩
        cases values with
        | nil =>
            rw [onSample_nil rfl] at answers
            cases answers
        | cons head values =>
            rw [onSample_cons rfl] at answers
            cases answers
            rw [isValue] at tokenized
            cases tokenized
            exact filterMap_nodesOnly (head :: values)

theorem names_of_tokens {number : Nat} {input : ByteArray}
    {tokens : List Token}
    (isOk : tokens? number input [] = some (.ok tokens)) :
    ∀ token ∈ tokens, Names input token.text.toList := by
  obtain ⟨values, finish, labels, store, last, rounds, wellFormed, rfl⟩ :=
    exists_values_of_ok isOk
  intro token isToken
  obtain ⟨value, isMember, isNode⟩ := List.mem_filterMap.mp isToken
  obtain ⟨_, _, _, _, _, follows, within, holds⟩ :=
    Grammar.Derives.exists_round rounds isMember
  exact names_of_alternatives follows
    (fun offset before => wellFormed offset (by omega)) holds isNode

theorem isPunctuation_ne {char : Char}
    (belongs : isPunctuation char = true) :
    char ≠ ' ' ∧ char ≠ '{' ∧ char ≠ '}' := by
  simp only [isPunctuation, Bool.not_eq_true', Bool.or_eq_false_iff,
    beq_eq_false_iff_ne] at belongs
  exact ⟨belongs.2, belongs.1.1.2, belongs.1.2⟩

theorem isPlain_ne {char : Char} (belongs : isPlain char = true) :
    (char ≠ ' ' ∧ char ≠ '{' ∧ char ≠ '}') ∧ isSpacing char = false := by
  simp only [isPlain, Bool.not_eq_true', Bool.or_eq_false_iff,
    beq_eq_false_iff_ne] at belongs
  obtain ⟨⟨isOpening, isClosing⟩, spacing⟩ := belongs
  have apart := spacing
  simp only [isSpacing, Bool.or_eq_false_iff, beq_eq_false_iff_ne] at apart
  exact ⟨⟨apart.1.1.1, isOpening, isClosing⟩, spacing⟩

/-- The text of every token is a piece of the input, which is not empty and has
neither spaces nor braces.  Other spacing is in it only if it is punctuation
throughout. -/
theorem texts_of_tokens {number : Nat} {input : ByteArray}
    {tokens : List Token}
    (isOk : tokens? number input [] = some (.ok tokens))
    {token : Token} (isToken : token ∈ tokens) :
    token.text ≠ "" ∧
      (∀ char ∈ token.text.toList, char ≠ ' ' ∧ char ≠ '{' ∧ char ≠ '}') ∧
      ((∀ char ∈ token.text.toList, isSpacing char = false) ∨
        ∀ char ∈ token.text.toList, isPunctuation char = true) ∧
      ∃ start finish, input.extract start finish = token.text.toUTF8 := by
  obtain ⟨isNonempty, uniform, start, finish, isPiece⟩ :=
    names_of_tokens isOk token isToken
  have named : token.text ≠ "" := fun isEmpty =>
    isNonempty (String.toList_eq_nil_iff.mpr isEmpty)
  have spelled : input.extract start finish = token.text.toUTF8 :=
    isPiece.trans String.utf8Encode_toList
  rcases uniform with punctuation | plain
  · exact ⟨named,
      fun char isChar => isPunctuation_ne (punctuation char isChar),
      .inr punctuation, start, finish, spelled⟩
  · exact ⟨named, fun char isChar => (isPlain_ne (plain char isChar)).1,
      .inl fun char isChar => (isPlain_ne (plain char isChar)).2,
      start, finish, spelled⟩

/-- A text in which the scanner finds something has the tokens that it finds. -/
theorem tokens?_of_scan (number : Nat) {text : String}
    {found : List (Option Token)} {later : List Char}
    (scans : scan text.toList = (found, later)) (isNonempty : found ≠ []) :
    tokens? number text.toUTF8 [] = some (.ok (found.filterMap id)) := by
  obtain ⟨first, values, isText, passes, isFound⟩ := exists_passes text.toList
  rw [scans] at isText passes isFound
  obtain rfl : values.map Value.node? = found := isFound
  have isInput : text.toUTF8 = (first ++ later).utf8Encode := by
    rw [← isText]
    exact String.utf8Encode_toList.symm
  have isFilled : values ≠ [] := by
    rintro rfl
    exact isNonempty rfl
  rw [isInput, (tokens_of_passes number passes isFilled).1, List.filterMap_map]
  rfl

/-- A keyword, and a word. -/
theorem texts_of_tokens_of_greeting :
    tokens? 1 "\x7b hello \x7d world".toUTF8 [] =
        some (.ok [⟨true, "hello"⟩, ⟨false, "world"⟩]) ∧
      (⟨true, "hello"⟩ : Token) ∈
        ([⟨true, "hello"⟩, ⟨false, "world"⟩] : List Token) ∧
      "hello" ≠ "" ∧
      (∀ char ∈ "hello".toList, char ≠ ' ' ∧ char ≠ '{' ∧ char ≠ '}') ∧
      ((∀ char ∈ "hello".toList, isSpacing char = false) ∨
        ∀ char ∈ "hello".toList, isPunctuation char = true) ∧
      ∃ start finish,
        "\x7b hello \x7d world".toUTF8.extract start finish =
          "hello".toUTF8 :=
  have isOk : tokens? 1 "\x7b hello \x7d world".toUTF8 [] =
      some (.ok [⟨true, "hello"⟩, ⟨false, "world"⟩]) :=
    tokens?_of_scan 1 (show scan "\x7b hello \x7d world".toList =
      ([some ⟨true, "hello"⟩, none, some ⟨false, "world"⟩], []) by
        decide +kernel) nofun
  ⟨isOk, .head _, texts_of_tokens isOk (.head _)⟩

/-- A tab between two words is itself a token. -/
theorem tokens_of_tab :
    tokens? 1 "a\tb".toUTF8 [] =
        some (.ok [⟨false, "a"⟩, ⟨false, "\t"⟩, ⟨false, "b"⟩]) ∧
      '\t' ∈ "\t".toList :=
  have isOk := tokens?_of_scan 1 (show scan "a\tb".toList =
    ([some ⟨false, "a"⟩, some ⟨false, "\t"⟩, some ⟨false, "b"⟩], []) by
      decide +kernel) nofun
  ⟨isOk, by decide⟩

end Sample

end PegEngine
