import PegEngine.Grammar.Rendering

/-!
# Reading escaped text

Literals and character classes are written with escapes, so that one can tell
from the text where they end and what they are (`Quoted.literal_cut`,
`CharClass.generated_cut`).  Both ways of escaping consist of the same units
(`Escape`), and a unit can be told from the text that begins with it.
-/

namespace PegEngine

/-- Up to the first of some marks, two texts agree. -/
theorem run_cut (marks : List Char) {first second left right : List Char}
    (unmarked : ∀ char ∈ first, char ∉ marks)
    (unmarkedToo : ∀ char ∈ second, char ∉ marks)
    (leftStarts : ∀ char, left.head? = some char → char ∈ marks)
    (rightStarts : ∀ char, right.head? = some char → char ∈ marks)
    (same : first ++ left = second ++ right) :
    first = second ∧ left = right := by
  have run : ∀ text rest : List Char, (∀ char ∈ text, char ∉ marks) →
      (∀ char, rest.head? = some char → char ∈ marks) →
        (text ++ rest).takeWhile (· ∉ marks) = text := by
    intro text rest unmarked starts
    rw [List.takeWhile_append_of_pos (by simpa using unmarked)]
    cases rest with
    | nil => simp
    | cons char rest => simp [starts char rfl]
  have sameRun : first = second := by
    rw [← run first left unmarked leftStarts, same,
      run second right unmarkedToo rightStarts]
  subst sameRun
  exact ⟨rfl, List.append_cancel_left same⟩

/-- Texts that are put together of texts which can be told apart, and do not
begin with the mark behind them, can be told apart. -/
theorem flatMap_cut {β : Type} {text : β → List Char} {mark : Char}
    (cut : ∀ {first second : β} {left right : List Char},
      text first ++ left = text second ++ right →
        first = second ∧ left = right)
    (starts : ∀ item, ∃ char chars, text item = char :: chars ∧ char ≠ mark)
    {items others : List β} {left right : List Char}
    (same : items.flatMap text ++ mark :: left =
      others.flatMap text ++ mark :: right) :
    items = others ∧ left = right := by
  induction items generalizing others with
  | nil =>
      cases others with
      | nil => exact ⟨rfl, (List.cons.inj same).2⟩
      | cons other others =>
          obtain ⟨char, chars, isText, differs⟩ := starts other
          simp only [List.flatMap_nil, List.flatMap_cons, isText] at same
          exact absurd (List.cons.inj same).1.symm differs
  | cons item items ih =>
      cases others with
      | nil =>
          obtain ⟨char, chars, isText, differs⟩ := starts item
          simp only [List.flatMap_nil, List.flatMap_cons, isText] at same
          exact absurd (List.cons.inj same).1 differs
      | cons other others =>
          simp only [List.flatMap_cons, List.append_assoc] at same
          obtain ⟨rfl, behind⟩ := cut same
          obtain ⟨rfl, rfl⟩ := ih behind
          exact ⟨rfl, rfl⟩

/-- A flag can be told from what stands behind it, if that does not begin like
the flag. -/
theorem flag_cut {first second : Bool} {left right : List Char}
    (leftStarts : left.head? ≠ some 'i') (rightStarts : right.head? ≠ some 'i')
    (same : (if first then ['i'] else []) ++ left =
      (if second then ['i'] else []) ++ right) :
    first = second ∧ left = right := by
  cases first <;> cases second
  · exact ⟨rfl, same⟩
  · exact absurd (congrArg List.head? same) leftStarts
  · exact absurd (congrArg List.head? same).symm rightStarts
  · exact ⟨rfl, (List.cons.inj same).2⟩

/-- A unit of escaped text: a character for itself, a backslash and a character,
or a backslash and a letter with something in braces. -/
inductive Escape where
  | plain (char : Char)
  | marked (mark : Char)
  | braced (letter : Char) (body : List Char)

namespace Escape

def text : Escape → List Char
  | .plain char => [char]
  | .marked mark => ['\\', mark]
  | .braced letter body => '\\' :: letter :: '{' :: body ++ ['}']

/-- A backslash does not stand for itself, one letter stands in front of braces
only, and what is in braces does not close them. -/
inductive Proper (letter : Char) : Escape → Prop
  | plain {char : Char} (differs : char ≠ '\\') : Proper letter (.plain char)
  | marked {mark : Char} (differs : mark ≠ letter) :
      Proper letter (.marked mark)
  | braced {body : List Char} (unclosed : ∀ char ∈ body, char ≠ '}') :
      Proper letter (.braced letter body)

/-- A proper unit can be told from the text that begins with it. -/
theorem Proper.cut {letter : Char} {first second : Escape}
    {left right : List Char} (proper : first.Proper letter)
    (properToo : second.Proper letter)
    (same : first.text ++ left = second.text ++ right) :
    first = second ∧ left = right := by
  cases proper with
  | plain differs =>
      cases properToo with
      | plain => simpa [text] using same
      | marked | braced => exact absurd (List.cons.inj same).1 differs
  | marked differs =>
      cases properToo with
      | plain differs => exact absurd (List.cons.inj same).1.symm differs
      | marked => simpa [text] using same
      | braced =>
          exact absurd (List.cons.inj (List.cons.inj same).2).1 differs
  | braced unclosed =>
      cases properToo with
      | plain differs => exact absurd (List.cons.inj same).1.symm differs
      | marked differs =>
          exact absurd (List.cons.inj (List.cons.inj same).2).1.symm differs
      | braced unclosedToo =>
          simp only [text, List.cons_append, List.append_assoc,
            List.nil_append, List.cons.injEq, true_and] at same
          obtain ⟨rfl, behind⟩ := run_cut ['}']
            (by simpa using unclosed) (by simpa using unclosedToo) (by simp)
            (by simp) same
          exact ⟨rfl, (List.cons.inj behind).2⟩

/-- The unit for a character: what a table has for it, or else something that
depends on the character. -/
def ofChar (table : List (Char × Char)) (otherwise : Char → Escape)
    (char : Char) : Escape :=
  match table.lookup char with
  | some mark => .marked mark
  | none => otherwise char

variable {table : List (Char × Char)} {otherwise : Char → Escape}

theorem ofChar_cases (table : List (Char × Char)) (otherwise : Char → Escape)
    (char : Char) :
    (∃ mark, (char, mark) ∈ table ∧
        ofChar table otherwise char = .marked mark) ∨
      (char ∉ table.map Prod.fst ∧
        ofChar table otherwise char = otherwise char) := by
  unfold ofChar
  cases found : table.lookup char with
  | some mark =>
      obtain ⟨before, behind, rfl, -⟩ := List.lookup_eq_some_iff.mp found
      exact .inl ⟨mark, by simp, rfl⟩
  | none =>
      refine .inr ⟨fun isMarked => ?_, rfl⟩
      obtain ⟨entry, isEntry, rfl⟩ := List.mem_map.mp isMarked
      simpa using List.lookup_eq_none_iff.mp found entry isEntry

theorem proper_ofChar {letter : Char}
    (marks : ∀ entry ∈ table, entry.2 ≠ letter)
    (others : ∀ char, char ∉ table.map Prod.fst →
      (otherwise char).Proper letter) (char : Char) :
    (ofChar table otherwise char).Proper letter := by
  rcases ofChar_cases table otherwise char with
    ⟨mark, isEntry, same⟩ | ⟨unmarked, same⟩
  · rw [same]
    exact .marked (marks _ isEntry)
  · rw [same]
    exact others char unmarked

theorem ofChar_injective
    (marks : ∀ first ∈ table, ∀ second ∈ table, first.2 = second.2 →
      first.1 = second.1)
    (others : ∀ {first second}, otherwise first = otherwise second →
      first = second)
    (apart : ∀ char mark, otherwise char ≠ .marked mark)
    {first second : Char}
    (same : ofChar table otherwise first = ofChar table otherwise second) :
    first = second := by
  rcases ofChar_cases table otherwise first with
    ⟨mark, isEntry, isFirst⟩ | ⟨-, isFirst⟩
  · rcases ofChar_cases table otherwise second with
      ⟨other, isOther, isSecond⟩ | ⟨-, isSecond⟩
    · rw [isFirst, isSecond] at same
      exact marks _ isEntry _ isOther (Escape.marked.inj same)
    · rw [isFirst, isSecond] at same
      exact absurd same.symm (apart second mark)
  · rcases ofChar_cases table otherwise second with
      ⟨other, isOther, isSecond⟩ | ⟨-, isSecond⟩
    · rw [isFirst, isSecond] at same
      exact absurd same (apart first other)
    · rw [isFirst, isSecond] at same
      exact others same

end Escape

namespace Quoted

theorem digit_of_mem_toDigits {char : Char} {number : Nat}
    (isDigit : char ∈ Nat.toDigits 16 number) :
    ∃ digit < 16, char = Nat.digitChar digit := by
  induction number using Nat.strongRecOn with
  | ind number ih =>
      rw [Nat.toDigits_eq_if (by decide)] at isDigit
      split at isDigit
      case isTrue small =>
        exact ⟨number, small, List.mem_singleton.mp isDigit⟩
      case isFalse large =>
        rcases List.mem_append.mp isDigit with earlier | last
        · exact ih (number / 16) (by omega) earlier
        · exact ⟨number % 16, Nat.mod_lt _ (by decide),
            List.mem_singleton.mp last⟩

theorem digitChar_injective : ∀ first < 16, ∀ second < 16,
    Nat.digitChar first = Nat.digitChar second → first = second := by
  decide

theorem digitChar_ne : ∀ digit < 16, Nat.digitChar digit ≠ '}' := by
  decide

/-- A number can be told from its digits. -/
theorem toDigits_injective {first second : Nat}
    (same : Nat.toDigits 16 first = Nat.toDigits 16 second) :
    first = second := by
  induction first using Nat.strongRecOn generalizing second with
  | ind first ih =>
      rw [Nat.toDigits_eq_if (by decide),
        Nat.toDigits_eq_if (n := second) (by decide)] at same
      split at same <;> split at same
      case isTrue.isTrue small smallToo =>
        exact digitChar_injective first small second smallToo
          (List.cons.inj same).1
      case isTrue.isFalse =>
        exact absurd (congrArg List.length same) (by
          have some := Nat.length_toDigits_pos (b := 16) (n := second / 16)
          simp only [List.length_append, List.length_singleton]
          omega)
      case isFalse.isTrue =>
        exact absurd (congrArg List.length same) (by
          have some := Nat.length_toDigits_pos (b := 16) (n := first / 16)
          simp only [List.length_append, List.length_singleton]
          omega)
      case isFalse.isFalse large largeToo =>
        obtain ⟨front, last⟩ := List.append_inj' same rfl
        have quotient := ih (first / 16) (by omega) front
        have remainder := digitChar_injective _ (Nat.mod_lt first (by decide))
          _ (Nat.mod_lt second (by decide)) (List.cons.inj last).1
        omega

/-- The characters that are written with a backslash between quotes. -/
def marks : List (Char × Char) :=
  [('\x00', '0'), ('\t', 't'), ('\r', 'r'), ('\n', 'n'), ('\\', '\\'),
    ('"', '"')]

/-- The unit for a character that is written without one. -/
def unmarked (char : Char) : Escape :=
  if isHidden char then .braced 'u' (Nat.toDigits 16 char.toNat)
  else .plain char

theorem text_ofChar (char : Char) :
    (Escape.ofChar marks unmarked char).text = escaped '"' char := by
  by_cases isMarked : char ∈ marks.map Prod.fst
  · simp only [marks, List.map_cons, List.map_nil, List.mem_cons,
      List.not_mem_nil, or_false] at isMarked
    rcases isMarked with rfl | rfl | rfl | rfl | rfl | rfl <;> rfl
  · rcases Escape.ofChar_cases marks unmarked char with
      ⟨mark, isEntry, -⟩ | ⟨-, same⟩
    · exact absurd (List.mem_map_of_mem isEntry) isMarked
    · rw [same]
      simp only [marks, List.map_cons, List.map_nil, List.mem_cons,
        List.not_mem_nil, or_false, not_or] at isMarked
      simp only [escaped, unmarked, isMarked, if_false, or_self]
      split <;> rfl

theorem unmarked_injective {first second : Char}
    (same : unmarked first = unmarked second) : first = second := by
  unfold unmarked at same
  split at same <;> split at same
  · exact Char.toNat_inj.mp (toDigits_injective (Escape.braced.inj same).2)
  · cases same
  · cases same
  · exact Escape.plain.inj same

theorem proper_unmarked {char : Char} (isOther : char ∉ marks.map Prod.fst) :
    (unmarked char).Proper 'u' := by
  unfold unmarked
  split
  · refine .braced fun digit isDigit => ?_
    obtain ⟨value, small, rfl⟩ := digit_of_mem_toDigits isDigit
    exact digitChar_ne value small
  · refine .plain ?_
    rintro rfl
    exact isOther (by decide)

/-- A quoted character can be told from the text that begins with it. -/
theorem escaped_cut {first second : Char} {left right : List Char}
    (same : escaped '"' first ++ left = escaped '"' second ++ right) :
    first = second ∧ left = right := by
  rw [← text_ofChar, ← text_ofChar] at same
  have proper : ∀ char, (Escape.ofChar marks unmarked char).Proper 'u' :=
    Escape.proper_ofChar (by decide) fun _ => proper_unmarked
  obtain ⟨sameUnit, behind⟩ := (proper first).cut (proper second) same
  refine ⟨Escape.ofChar_injective (by decide +kernel) unmarked_injective ?_
    sameUnit, behind⟩
  intro char mark isMarked
  unfold unmarked at isMarked
  split at isMarked <;> cases isMarked

theorem escaped_starts (char : Char) :
    ∃ first later, escaped '"' char = first :: later ∧ first ≠ '"' := by
  rw [← text_ofChar]
  rcases Escape.ofChar_cases marks unmarked char with
    ⟨mark, -, same⟩ | ⟨isOther, same⟩
  · rw [same]
    exact ⟨_, _, rfl, by decide⟩
  · rw [same, unmarked]
    split
    · exact ⟨_, _, rfl, by decide⟩
    · refine ⟨char, [], rfl, ?_⟩
      rintro rfl
      exact isOther (by decide)

/-- A quoted string can be told from the text that begins with it. -/
theorem text_cut {first second : String} {left right : List Char}
    (same : (text first).toList ++ left = (text second).toList ++ right) :
    first = second ∧ left = right := by
  simp only [text, String.toList_ofList, List.cons_append, List.append_assoc,
    List.nil_append, List.cons.injEq, true_and] at same
  obtain ⟨sameChars, behind⟩ := flatMap_cut escaped_cut escaped_starts same
  exact ⟨String.toList_inj.mp sameChars, behind⟩

/-- A literal can be told from the text that begins with its description, unless
what stands behind it begins like a flag. -/
theorem literal_cut {first second : String} {ignores ignoresToo : Bool}
    {left right : List Char}
    (leftStarts : left.head? ≠ some 'i') (rightStarts : right.head? ≠ some 'i')
    (same : (Expr.literalDescriptor first ignores).toList ++ left =
      (Expr.literalDescriptor second ignoresToo).toList ++ right) :
    first = second ∧ ignores = ignoresToo ∧ left = right := by
  have flag : ∀ ignores : Bool, (if ignores then "i" else "").toList =
      if ignores then ['i'] else [] := by
    decide
  simp only [Expr.literalDescriptor, String.toList_append, flag,
    List.append_assoc] at same
  obtain ⟨rfl, flagged⟩ := text_cut same
  exact ⟨rfl, flag_cut leftStarts rightStarts flagged⟩

end Quoted

namespace CharClass

/-- A piece of a class in writing: a character, the dash of a range, or a
category. -/
inductive Piece where
  | single (char : Char)
  | dash
  | named (category : UnicodeClass)

/-- The characters that are written with a backslash between brackets. -/
def marks : List (Char × Char) :=
  [('\t', 't'), ('\r', 'r'), ('\n', 'n'), ('\\', '\\'), (']', ']'),
    ('-', '-'), ('^', '^')]

namespace Piece

def unit : Piece → Escape
  | .single char => .ofChar marks .plain char
  | .dash => .plain '-'
  | .named category => .braced 'p' category.name.toList

def text (piece : Piece) : List Char := piece.unit.text

theorem text_single (char : Char) : text (.single char) = escaped char := by
  change (Escape.ofChar marks .plain char).text = escaped char
  by_cases isMarked : char ∈ marks.map Prod.fst
  · simp only [marks, List.map_cons, List.map_nil, List.mem_cons,
      List.not_mem_nil, or_false] at isMarked
    rcases isMarked with rfl | rfl | rfl | rfl | rfl | rfl | rfl <;> rfl
  · rcases Escape.ofChar_cases marks .plain char with
      ⟨mark, isEntry, -⟩ | ⟨-, same⟩
    · exact absurd (List.mem_map_of_mem isEntry) isMarked
    · rw [same]
      simp only [marks, List.map_cons, List.map_nil, List.mem_cons,
        List.not_mem_nil, or_false, not_or] at isMarked
      simp only [escaped, isMarked, if_false, or_self]
      rfl

theorem text_named (category : UnicodeClass) :
    text (.named category) = category.descriptor.toList := by
  simp [text, unit, Escape.text, UnicodeClass.descriptor]

theorem name_injective {first second : UnicodeClass}
    (same : first.name = second.name) : first = second := by
  revert same
  cases first <;> cases second <;> decide

theorem not_mem_name (category : UnicodeClass) :
    '}' ∉ category.name.toList := by
  cases category <;> decide

theorem proper (piece : Piece) : piece.unit.Proper 'p' := by
  cases piece with
  | single char =>
      refine Escape.proper_ofChar (by decide) (fun other isOther => ?_) char
      refine .plain ?_
      rintro rfl
      exact isOther (by decide)
  | dash => exact .plain (by decide)
  | named category =>
      refine .braced fun char isChar => ?_
      rintro rfl
      exact not_mem_name category isChar

/-- A character that is written without a backslash is not the dash, and one
that is written with a backslash is not a category. -/
theorem ofChar_ne (char : Char) :
    Escape.ofChar marks .plain char ≠ .plain '-' ∧
      ∀ letter body, Escape.ofChar marks .plain char ≠ .braced letter body := by
  rcases Escape.ofChar_cases marks .plain char with
    ⟨mark, -, same⟩ | ⟨isOther, same⟩
  · rw [same]
    exact ⟨nofun, nofun⟩
  · rw [same]
    refine ⟨fun isDash => ?_, nofun⟩
    cases Escape.plain.inj isDash
    exact isOther (by decide)

theorem unit_injective {first second : Piece}
    (same : first.unit = second.unit) : first = second := by
  cases first with
  | single char =>
      cases second with
      | single other =>
          rw [Escape.ofChar_injective (by decide +kernel) Escape.plain.inj
            nofun same]
      | dash => exact absurd same (ofChar_ne char).1
      | named => exact absurd same ((ofChar_ne char).2 _ _)
  | dash =>
      cases second with
      | single char => exact absurd same.symm (ofChar_ne char).1
      | dash => rfl
      | named => cases same
  | named first =>
      cases second with
      | single char => exact absurd same.symm ((ofChar_ne char).2 _ _)
      | dash => cases same
      | named second =>
          rw [name_injective (String.toList_inj.mp (Escape.braced.inj same).2)]

theorem text_cut {first second : Piece} {left right : List Char}
    (same : first.text ++ left = second.text ++ right) :
    first = second ∧ left = right := by
  obtain ⟨sameUnit, behind⟩ := first.proper.cut second.proper same
  exact ⟨unit_injective sameUnit, behind⟩

/-- No piece begins with what closes the brackets or inverts the class. -/
theorem text_starts (piece : Piece) :
    ∃ first later, piece.text = first :: later ∧ first ≠ ']' ∧ first ≠ '^' := by
  have backslash : ∀ later : List Char, ∃ first others,
      '\\' :: later = first :: others ∧ first ≠ ']' ∧ first ≠ '^' :=
    fun later => ⟨_, _, rfl, by decide, by decide⟩
  cases piece with
  | single char =>
      change ∃ first later, (Escape.ofChar marks .plain char).text =
        first :: later ∧ first ≠ ']' ∧ first ≠ '^'
      rcases Escape.ofChar_cases marks .plain char with
        ⟨mark, -, same⟩ | ⟨isOther, same⟩
      · rw [same]
        exact backslash _
      · rw [same]
        refine ⟨char, [], rfl, ?_, ?_⟩
        all_goals
          rintro rfl
          exact isOther (by decide)
  | dash => exact ⟨_, _, rfl, by decide, by decide⟩
  | named category => exact backslash _

/-- The characters, the ranges and the categories among pieces. -/
def sorted : List Piece → List Char × List (Char × Char) × List UnicodeClass
  | .single first :: .dash :: .single last :: pieces =>
    let ⟨chars, ranges, categories⟩ := sorted pieces
    ⟨chars, (first, last) :: ranges, categories⟩
  | .single char :: pieces =>
    let ⟨chars, ranges, categories⟩ := sorted pieces
    ⟨char :: chars, ranges, categories⟩
  | .named category :: pieces =>
    let ⟨chars, ranges, categories⟩ := sorted pieces
    ⟨chars, ranges, category :: categories⟩
  | .dash :: pieces => sorted pieces
  | [] => ([], [], [])

end Piece

/-- The pieces of a class, from left to right. -/
def pieces (charClass : CharClass) : List Piece :=
  charClass.chars.map .single ++
    charClass.ranges.flatMap
      (fun range => [.single range.1, .dash, .single range.2]) ++
    charClass.categories.map .named

/-- A class in writing is its pieces in brackets. -/
theorem generatedDescription_eq (charClass : CharClass) :
    charClass.generatedDescription.toList =
      '[' :: (if charClass.isInverted then ['^'] else []) ++
        charClass.pieces.flatMap Piece.text ++
        ']' :: (if charClass.ignoresCase then ['i'] else []) := by
  have dash : Piece.dash.text = ['-'] := rfl
  simp [generatedDescription, pieces, List.flatMap_assoc, List.flatMap_map,
    Piece.text_single, Piece.text_named, dash]
  rfl

/-- Pieces are sorted into the parts of the class they are the pieces of. -/
theorem sorted_pieces (charClass : CharClass) :
    Piece.sorted charClass.pieces =
      (charClass.chars, charClass.ranges, charClass.categories) := by
  obtain ⟨chars, ranges, categories, _, _, _⟩ := charClass
  unfold pieces
  induction chars with
  | cons char chars ih =>
      cases chars with
      | cons other chars => simp_all [Piece.sorted]
      | nil =>
          cases ranges with
          | cons range ranges => simp_all [Piece.sorted]
          | nil => cases categories <;> simp_all [Piece.sorted]
  | nil =>
      induction ranges with
      | cons range ranges ih => simp_all [Piece.sorted]
      | nil =>
          induction categories with
          | cons category categories ih => simp_all [Piece.sorted]
          | nil => rfl

/-- A class can be told from its pieces and its flags. -/
theorem eq_of_pieces {first second : CharClass}
    (pieces : first.pieces = second.pieces)
    (isInverted : first.isInverted = second.isInverted)
    (ignoresCase : first.ignoresCase = second.ignoresCase)
    (description : first.description = second.description) :
    first = second := by
  have sorted := congrArg Piece.sorted pieces
  simp only [sorted_pieces, Prod.mk.injEq] at sorted
  obtain ⟨chars, ranges, categories⟩ := sorted
  cases first
  cases second
  simp_all

/-- What stands in front of the pieces of a class can be told from them. -/
theorem inverted_cut {first second : Bool} {pieces others : List Piece}
    {left right : List Char}
    (same : (if first then ['^'] else []) ++
        (pieces.flatMap Piece.text ++ ']' :: left) =
      (if second then ['^'] else []) ++
        (others.flatMap Piece.text ++ ']' :: right)) :
    first = second ∧ pieces.flatMap Piece.text ++ ']' :: left =
      others.flatMap Piece.text ++ ']' :: right := by
  have starts : ∀ (pieces : List Piece) (behind later : List Char),
      pieces.flatMap Piece.text ++ ']' :: behind ≠ '^' :: later := by
    intro pieces behind later same
    cases pieces with
    | nil => exact absurd (List.cons.inj same).1 (by decide)
    | cons piece pieces =>
        obtain ⟨char, chars, isText, -, differs⟩ := piece.text_starts
        simp only [List.flatMap_cons, isText, List.cons_append] at same
        exact differs (List.cons.inj same).1
  cases first <;> cases second
  · exact ⟨rfl, same⟩
  · exact absurd same (starts _ _ _)
  · exact absurd same.symm (starts _ _ _)
  · exact ⟨rfl, (List.cons.inj same).2⟩

/-- A class without a description of its own can be told from the text that
begins with it, unless what stands behind it begins like a flag. -/
theorem generated_cut {first second : CharClass} {left right : List Char}
    (plain : first.description = none) (plainToo : second.description = none)
    (leftStarts : left.head? ≠ some 'i') (rightStarts : right.head? ≠ some 'i')
    (same : first.generatedDescription.toList ++ left =
      second.generatedDescription.toList ++ right) :
    first = second ∧ left = right := by
  simp only [generatedDescription_eq, List.cons_append, List.append_assoc,
    List.cons.injEq, true_and] at same
  obtain ⟨isInverted, members⟩ := inverted_cut same
  obtain ⟨pieces, flagged⟩ := flatMap_cut Piece.text_cut
    (fun piece => by
      obtain ⟨char, chars, isText, differs, -⟩ := piece.text_starts
      exact ⟨char, chars, isText, differs⟩) members
  obtain ⟨ignoresCase, behind⟩ := flag_cut leftStarts rightStarts flagged
  exact ⟨eq_of_pieces pieces isInverted ignoresCase (plain.trans plainToo.symm),
    behind⟩

end CharClass

end PegEngine
