import PegEngine.Proofs.CaseSteps

/-!
# What is lost by ignoring case

Case is ignored by lowering: the characters of a class, the ends of its ranges,
and the character under test.  Characters fare well with that.  But a range
between two lowercase forms may be without the lowercase forms of what was
between the two characters, and a category of capitals is without all lowercase
forms.  A class therefore sheds some of its members, and `CharClass.Sheds` says
which ones (`CharClass.contains_ignoreCase`).

What a class was given as a single character is never lost, whatever else has
been done to the class, and neither is what is in a range that lowering keeps
together, such as a range within one block of letters, or in a category other
than those of capitals (`CharClass.Step.Keeps.not_sheds`).
-/

namespace PegEngine

namespace CharClass

/-- Test whether a character is in a range. -/
def spans (range : Char × Char) (char : Char) : Bool :=
  range.1 ≤ char && char ≤ range.2

/-- A class minds case, and would be without a certain character if it did not:
none of its characters has the same lowercase form; its ranges, once lowered,
leave that form out; the categories that have the character are of capitals, and
it has another lowercase form; and the categories that do not have it do not
have its lowercase form either. -/
structure Sheds (charClass : CharClass) (char : Char) : Prop where
  mindsCase : charClass.ignoresCase = false
  chars : ∀ member ∈ charClass.chars,
    Unicode.toLower member ≠ Unicode.toLower char
  ranges : ∀ range ∈ charClass.ranges,
    spans (foldRange true range) (Unicode.toLower char) = false
  capitals : ∀ category ∈ charClass.categories,
    category.contains char = true →
      category.ofCapitals = true ∧ Unicode.toLower char ≠ char
  others : ∀ category ∈ charClass.categories,
    category.contains char = false →
      category.contains (Unicode.toLower char) = false

variable {charClass : CharClass} {steps : List Step} {step : Step} {char : Char}
  {range : Char × Char}

theorem foldl_extend_ignoresCase :
    (steps.foldl extend charClass).ignoresCase = true ↔
      charClass.ignoresCase = true ∨ .ignoreCase ∈ steps := by
  induction steps generalizing charClass with
  | nil => simp
  | cons step steps ih => cases step <;> simp [ih, extend]

/-- Ignoring case is something a class has been told. -/
theorem ofSteps_ignoresCase :
    (ofSteps steps).ignoresCase = true ↔ .ignoreCase ∈ steps := by
  simp [ofSteps, foldl_extend_ignoresCase, empty]

/-- What a class contains once it ignores case. -/
theorem extend_ignoreCase_contains :
    (charClass.extend .ignoreCase).contains char = true ↔
      (∃ member ∈ charClass.chars,
        Unicode.toLower member = Unicode.toLower char) ∨
        (∃ range ∈ charClass.ranges,
          spans (foldRange true range) (Unicode.toLower char) = true) ∨
          ∃ category ∈ charClass.categories,
            category.contains (Unicode.toLower char) = true := by
  simp [contains, extend, fold, spans, or_assoc]

theorem extend_ignoreCase_contains_eq_false :
    (charClass.extend .ignoreCase).contains char = false ↔
      (∀ member ∈ charClass.chars,
        Unicode.toLower member ≠ Unicode.toLower char) ∧
        (∀ range ∈ charClass.ranges,
          spans (foldRange true range) (Unicode.toLower char) = false) ∧
          ∀ category ∈ charClass.categories,
            category.contains (Unicode.toLower char) = false := by
  simp [← Bool.not_eq_true, extend_ignoreCase_contains]

/-- A class that minds case loses exactly what it sheds. -/
theorem contains_extend_ignoreCase
    (mindsCase : charClass.ignoresCase = false) :
    (charClass.extend .ignoreCase).contains char = false ↔
      charClass.Sheds char := by
  rw [extend_ignoreCase_contains_eq_false]
  constructor
  · rintro ⟨chars, ranges, categories⟩
    exact ⟨mindsCase, chars, ranges,
      fun category isMember belongs =>
        (UnicodeClass.contains_toLower belongs).mp
          (categories category isMember),
      fun category isMember _ => categories category isMember⟩
  · rintro ⟨-, chars, ranges, capitals, others⟩
    refine ⟨chars, ranges, fun category isMember => ?_⟩
    cases belongs : category.contains char with
    | true =>
        exact (UnicodeClass.contains_toLower belongs).mpr
          (capitals category isMember belongs)
    | false => exact others category isMember belongs

/-- A member of a class stays one when the class is told to ignore case, unless
the class sheds it. -/
theorem contains_ignoreCase
    (isMember : (ofSteps steps).contains char = true) :
    (ofSteps (steps ++ [.ignoreCase])).contains char = true ↔
      ¬ (ofSteps steps).Sheds char := by
  rw [ofSteps_concat]
  cases flag : (ofSteps steps).ignoresCase with
  | true =>
      rw [ofSteps_extend_ignoreCase (ofSteps_ignoresCase.mp flag)]
      refine iff_of_true isMember fun sheds => ?_
      exact Bool.noConfusion (flag.symm.trans sheds.mindsCase)
  | false => rw [← contains_extend_ignoreCase flag, Bool.not_eq_false]

/-- A capital with an accent, in a range of such capitals and in a category. -/
theorem contains_ignoreCase_of_accented :
    let steps : List Step := [.range 'À' 'Ý', .category .uppercase]
    (ofSteps steps).contains 'È' = true ∧
      ((ofSteps (steps ++ [.ignoreCase])).contains 'È' = true ↔
        ¬ (ofSteps steps).Sheds 'È') :=
  have isMember : (ofSteps [.range 'À' 'Ý', .category .uppercase]).contains
      'È' = true := by decide
  ⟨isMember, contains_ignoreCase isMember⟩

/-- A category of capitals sheds a capital, and a range from a capital to a
lowercase letter sheds a mark that is between them. -/
theorem capitals_shed :
    let capitals : List Step := [.category .asciiUppercase]
    let across : List Step := [.range 'Z' 'a']
    ((ofSteps capitals).contains 'A' = true ∧
      (ofSteps (capitals ++ [.ignoreCase])).contains 'A' = false) ∧
      (ofSteps across).contains '_' = true ∧
        (ofSteps (across ++ [.ignoreCase])).contains '_' = false := by
  decide +kernel

section Kept

/-- Lowering keeps a range together: the lowercase form of whatever is in it is
between those of its ends. -/
def KeptTogether (range : Char × Char) : Prop :=
  ∀ char, spans range char = true →
    spans (foldRange true range) (Unicode.toLower char) = true

theorem spans_eq_true :
    spans range char = true ↔ range.1 ≤ char ∧ char ≤ range.2 := by
  simp [spans]

/-- A range that lowering leaves alone is kept together. -/
theorem keptTogether_of_rests
    (rests : ∀ char, spans range char = true → Unicode.toLower char = char) :
    KeptTogether range := by
  intro char within
  obtain ⟨first, last⟩ := spans_eq_true.mp within
  have ordered : range.1 ≤ range.2 := Char.le_trans first last
  have firstRests := rests range.1 (spans_eq_true.mpr ⟨Char.le_refl _, ordered⟩)
  have lastRests := rests range.2 (spans_eq_true.mpr ⟨ordered, Char.le_refl _⟩)
  simpa [foldRange, fold, firstRests, lastRests, rests char within] using within

/-- A range within a block of letters is kept together. -/
theorem keptTogether_of_block {block : CodeRange CaseShift}
    (isBlock : Unicode.IsBlock block) (first : block.first ≤ range.1.toNat)
    (last : range.2.toNat ≤ block.last) : KeptTogether range := by
  intro char within
  obtain ⟨notBefore, notBehind⟩ := spans_eq_true.mp within
  simp only [spans_eq_true, foldRange, fold, if_true]
  exact
    ⟨isBlock.toLower_le_toLower first notBefore (Nat.le_trans notBehind last),
      isBlock.toLower_le_toLower (Nat.le_trans first notBefore) notBehind last⟩

/-- The capitals of the Latin alphabet are such a range. -/
theorem keptTogether_latinCapitals : KeptTogether ('A', 'Z') :=
  have isBlock : Unicode.IsBlock ⟨0x41, 0x5A, ⟨1, 32⟩⟩ := ⟨.head _, .inl rfl⟩
  keptTogether_of_block isBlock (by decide) (by decide)

/-- A step gives a class a character that the class keeps when it ignores case:
as a single character, in a range that is kept together, or in a category, which
is not of capitals unless the character is its own lowercase form. -/
inductive Step.Keeps (char : Char) : Step → Prop
  | chars {text : String} (isMember : char ∈ text.toList) :
      Keeps char (.chars text)
  | range {first last : Char} (together : KeptTogether (first, last))
      (within : spans (first, last) char = true) :
      Keeps char (.range first last)
  | category {category : UnicodeClass} (belongs : category.contains char = true)
      (kept : category.ofCapitals = true → Unicode.toLower char = char) :
      Keeps char (.category category)

/-- The class has the character once it has made the step. -/
theorem Step.Keeps.contains (keeps : step.Keeps char) :
    ((charClass.extend step).extend .ignoreCase).contains char = true := by
  rw [extend_ignoreCase_contains]
  cases keeps with
  | chars isMember =>
      exact .inl ⟨_, List.mem_append_right _ (List.mem_map_of_mem isMember),
        by simpa [fold] using fold_fold charClass.ignoresCase char⟩
  | @range first last together within =>
      refine .inr (.inl ⟨_, List.mem_append_right _ (.head _), ?_⟩)
      rw [foldRange_foldRange]
      exact together char within
  | category belongs kept =>
      refine .inr (.inr ⟨_, List.mem_append_right _ (.head _), ?_⟩)
      rw [← Bool.not_eq_false, UnicodeClass.contains_toLower belongs]
      rintro ⟨ofCapitals, moves⟩
      exact moves (kept ofCapitals)

/-- No step takes a character from a class that ignores case in the end. -/
theorem contains_extend
    (contains : (charClass.extend .ignoreCase).contains char = true) :
    ((charClass.extend step).extend .ignoreCase).contains char = true := by
  cases step with
  | ignoreCase => rwa [extend_ignoreCase_twice]
  | chars | range | category | inverted | describedAs =>
      rw [extend_ignoreCase_contains] at contains ⊢
      obtain ⟨member, isMember, same⟩ | ⟨range, isRange, within⟩ |
        ⟨category, isCategory, belongs⟩ := contains
      · exact .inl ⟨member, by simp [extend, isMember], same⟩
      · exact .inr (.inl ⟨range, by simp [extend, isRange], within⟩)
      · exact .inr (.inr ⟨category, by simp [extend, isCategory], belongs⟩)

theorem contains_foldl_extend
    (contains : (charClass.extend .ignoreCase).contains char = true) :
    ((steps.foldl extend charClass).extend .ignoreCase).contains char =
      true := by
  induction steps generalizing charClass with
  | nil => exact contains
  | cons step steps ih => exact ih (contains_extend contains)

/-- Whatever else is done to a class, it keeps what one of its steps keeps: it
does not shed any of its single characters, of its ranges within a block of
letters, or of its categories other than those of capitals. -/
theorem Step.Keeps.not_sheds (keeps : step.Keeps char) (isStep : step ∈ steps) :
    ¬ (ofSteps steps).Sheds char := by
  intro sheds
  have lost := (contains_extend_ignoreCase sheds.mindsCase).mpr sheds
  obtain ⟨before, later, rfl⟩ := List.append_of_mem isStep
  rw [ofSteps, List.foldl_append, List.foldl_cons,
    contains_foldl_extend keeps.contains] at lost
  cases lost

end Kept

end CharClass

end PegEngine
