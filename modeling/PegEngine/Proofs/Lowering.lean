import PegEngine.CharClass

/-!
# Lowercase forms

Lowering moves some code points and leaves all others alone.  Those that it
moves can be listed (`Unicode.moves`), and what is claimed of a lowercase form
is checked along this list: it has no lowercase form of its own, so lowering
twice is lowering once (`Unicode.toLower_toLower`), and it belongs to the
categories of the character that it comes from, except that a category of
capitals never has both (`UnicodeClass.contains_toLower`).  Within a block of
letters, lowering keeps them in order (`Unicode.IsBlock.toLower_le_toLower`).
-/

namespace PegEngine

namespace RangeMap

variable {β : Type} {tree : RangeMap β} {ranges : List (CodeRange β)}
  {codePoint : Nat} {range : CodeRange β}

/-- The ranges of a tree, in its order. -/
def toList : RangeMap β → List (CodeRange β)
  | .empty => []
  | .node below range above => below.toList ++ range :: above.toList

/-- Balancing keeps all ranges, in their order. -/
theorem toList_balance (depth count : Nat) (ranges : List (CodeRange β)) :
    (balance depth count ranges).1.toList ++ (balance depth count ranges).2 =
      ranges := by
  induction depth generalizing count ranges with
  | zero => rfl
  | succ depth ih =>
      cases count with
      | zero => rfl
      | succ count =>
          have left := ih (count / 2) ranges
          rw [balance]
          split
          case h_1 below same =>
            rw [same] at left
            exact left
          case h_2 below range later same =>
            rw [same] at left
            have right := ih (count - count / 2) later
            simp only [toList, List.append_assoc, List.cons_append]
            rw [right, left]

/-- What is found in a tree is one of its ranges, and holds the code point. -/
theorem mem_of_find? (finds : tree.find? codePoint = some range) :
    range ∈ tree.toList ∧ range.first ≤ codePoint ∧ codePoint ≤ range.last := by
  induction tree with
  | empty => cases finds
  | node below middle above belowIH aboveIH =>
      rw [find?] at finds
      simp only [toList, List.mem_append, List.mem_cons]
      split at finds
      case isTrue =>
        obtain ⟨isRange, holds⟩ := belowIH finds
        exact ⟨.inl isRange, holds⟩
      case isFalse notBelow =>
        split at finds
        case isTrue notAbove =>
          cases finds
          exact ⟨.inr (.inl rfl), Nat.le_of_not_lt notBelow, notAbove⟩
        case isFalse =>
          obtain ⟨isRange, holds⟩ := aboveIH finds
          exact ⟨.inr (.inr isRange), holds⟩

theorem mem_of_find?_ofAscending
    (finds : (ofAscending ranges).find? codePoint = some range) :
    range ∈ ranges ∧ range.first ≤ codePoint ∧ codePoint ≤ range.last := by
  obtain ⟨isRange, holds⟩ := mem_of_find? finds
  have all := toList_balance ranges.length ranges.length ranges
  exact ⟨all ▸ List.mem_append_left _ isRange, holds⟩

end RangeMap

/-- The code points of a range that are moved, each with where it comes to. -/
def CodeRange.moves (range : CodeRange CaseShift) : List (Nat × Nat) :=
  (List.range' range.first
      ((range.last - range.first) / range.value.stride + 1)
      range.value.stride).map
    fun codePoint => (codePoint, (codePoint + range.value.distance).toNat)

namespace Unicode

/-- All code points that lowering moves, each with where it comes to. -/
def moves : List (Nat × Nat) := lowercaseShiftRanges.flatMap CodeRange.moves

theorem mem_moves {range : CodeRange CaseShift} {codePoint : Nat}
    (isRange : range ∈ lowercaseShiftRanges)
    (first : range.first ≤ codePoint) (last : codePoint ≤ range.last)
    (onStride : (codePoint - range.first) % range.value.stride = 0) :
    (codePoint, (codePoint + range.value.distance).toNat) ∈ moves := by
  have strides := Nat.div_add_mod (codePoint - range.first) range.value.stride
  have within : (codePoint - range.first) / range.value.stride ≤
      (range.last - range.first) / range.value.stride :=
    Nat.div_le_div_right (by omega)
  have isStep : codePoint ∈ List.range' range.first
      ((range.last - range.first) / range.value.stride + 1)
      range.value.stride :=
    List.mem_range'.mpr ⟨_, Nat.lt_succ_of_le within, by omega⟩
  exact List.mem_flatMap.mpr ⟨range, isRange, List.mem_map_of_mem isStep⟩

/-- Test whether lowering leaves a code point alone. -/
def atRest (codePoint : Nat) : Bool :=
  match lowercaseShifts.find? codePoint with
  | some range => (codePoint - range.first) % range.value.stride != 0
  | none => true

theorem toLower_of_atRest {char : Char} (rests : atRest char.toNat = true) :
    toLower char = char := by
  unfold atRest at rests
  unfold toLower
  cases finds : lowercaseShifts.find? char.toNat with
  | some range =>
      simp only [finds] at rests ⊢
      exact if_neg (bne_iff_ne.mp rests)
  | none => simp only

section Checks

theorem isValidChar_of_moves : ∀ move ∈ moves, move.2.isValidChar := by
  decide +kernel

theorem atRest_of_moves : ∀ move ∈ moves, atRest move.2 = true := by
  decide +kernel

theorem ascii_of_moves : ∀ move ∈ moves, move.1 < 0x80 →
    0x41 ≤ move.1 ∧ move.1 ≤ 0x5A ∧ move.2 = move.1 + 0x20 := by
  decide +kernel

theorem alphabetic_of_moves :
    ∀ move ∈ moves, (alphabetic.find? move.2).isSome = true := by
  decide +kernel

theorem lowercase_of_moves :
    ∀ move ∈ moves, (lowercase.find? move.2).isSome = true := by
  decide +kernel

theorem uppercase_of_moves :
    ∀ move ∈ moves, (uppercase.find? move.2).isSome = false := by
  decide +kernel

theorem numeric_of_moves : ∀ move ∈ moves,
    (numeric.find? move.1).isSome = true →
      (numeric.find? move.2).isSome = true := by
  decide +kernel

/-- What is moved is neither a digit nor a blank nor a control character. -/
theorem graphic_of_moves : ∀ move ∈ moves,
    (UnicodeClass.decimalRuns.find? move.1).isSome = false ∧
      (whitespace.find? move.1).isSome = false ∧
        (UnicodeClass.spaceSeparators.find? move.1).isSome = false ∧
          ¬ (0x7F ≤ move.1 ∧ move.1 ≤ 0x9F) := by
  decide +kernel

/-- Within a range of shifts every code point moves as the range says. -/
theorem toLower_of_shifts : ∀ range ∈ lowercaseShiftRanges,
    ∀ codePoint ∈ List.range' range.first (range.last + 1 - range.first),
      ((toLower (Char.ofNat codePoint)).toNat : Int) =
        if (codePoint - range.first) % range.value.stride = 0 then
          codePoint + range.value.distance
        else codePoint := by
  decide +kernel

end Checks

section Blocks

/-- A block of letters: lowering moves all of them by the same distance, or
every second one, a capital, to its neighbour. -/
structure IsBlock (block : CodeRange CaseShift) : Prop where
  isRange : block ∈ lowercaseShiftRanges
  inStep : block.value.stride = 1 ∨ block.value.distance = 1

variable {block : CodeRange CaseShift} {char other : Char}

theorem toNat_toLower (isRange : block ∈ lowercaseShiftRanges)
    (first : block.first ≤ char.toNat) (last : char.toNat ≤ block.last) :
    ((toLower char).toNat : Int) =
      if (char.toNat - block.first) % block.value.stride = 0 then
        char.toNat + block.value.distance
      else char.toNat := by
  have shifted := toLower_of_shifts block isRange char.toNat
    (List.mem_range'_1.mpr ⟨first, by omega⟩)
  rwa [Char.ofNat_toNat] at shifted

/-- Lowering keeps the letters of a block in order. -/
theorem IsBlock.toLower_le_toLower (isBlock : IsBlock block)
    (first : block.first ≤ char.toNat) (ordered : char ≤ other)
    (last : other.toNat ≤ block.last) : toLower char ≤ toLower other := by
  have le : char.toNat ≤ other.toNat := ordered
  have here := toNat_toLower isBlock.isRange first (Nat.le_trans le last)
  have there := toNat_toLower isBlock.isRange (Nat.le_trans first le) last
  suffices (toLower char).toNat ≤ (toLower other).toNat from this
  rcases isBlock.inStep with stride | distance
  · simp only [stride, Nat.mod_one, if_true] at here there
    omega
  · -- A capital moves by one only, hence never past a letter behind it.
    rw [distance] at here there
    rcases Nat.eq_or_lt_of_le le with same | less
    · rw [same, ← there] at here
      omega
    · split at here <;> split at there <;> omega

end Blocks

variable (char : Char)

/-- Lowering either leaves a character alone or makes one of the moves. -/
theorem toLower_cases :
    toLower char = char ∨ (char.toNat, (toLower char).toNat) ∈ moves := by
  cases rests : atRest char.toNat with
  | true => exact .inl (toLower_of_atRest rests)
  | false =>
      unfold atRest at rests
      cases finds : lowercaseShifts.find? char.toNat with
      | none => simp [finds] at rests
      | some range =>
          simp only [finds, bne_eq_false_iff_eq] at rests
          have spelled : (RangeMap.ofAscending lowercaseShiftRanges).find?
            char.toNat = some range := finds
          obtain ⟨isRange, first, last⟩ :=
            RangeMap.mem_of_find?_ofAscending spelled
          have isMove := mem_moves isRange first last rests
          have lowered : toLower char =
              Char.ofNat (char.toNat + range.value.distance).toNat := by
            unfold toLower
            simp only [finds]
            exact if_pos rests
          have isTarget : (toLower char).toNat =
              (char.toNat + range.value.distance).toNat := by
            rw [lowered, Char.ofNat, dif_pos (isValidChar_of_moves _ isMove)]
            rfl
          rw [isTarget]
          exact .inr isMove

theorem toLower_toLower : toLower (toLower char) = toLower char := by
  rcases toLower_cases char with same | isMove
  · rw [same, same]
  · have rests := atRest_of_moves _ isMove
    dsimp only at rests
    exact toLower_of_atRest rests

end Unicode

namespace UnicodeClass

/-- The categories of capital letters. -/
def ofCapitals : UnicodeClass → Bool
  | .uppercase | .asciiUppercase => true
  | _ => false

theorem between_eq_true {low high char : Char} :
    between low high char = true ↔
      low.toNat ≤ char.toNat ∧ char.toNat ≤ high.toNat := by
  rw [between, Bool.and_eq_true, decide_eq_true_iff, decide_eq_true_iff]
  rfl

open Unicode in
/-- The lowercase form of a character belongs to all categories of the character
but those of capitals. -/
theorem contains_of_move {category : UnicodeClass} {char lowered : Char}
    (isMove : (char.toNat, lowered.toNat) ∈ moves)
    (belongs : category.contains char = true) :
    category.contains lowered = !category.ofCapitals := by
  have ascii := ascii_of_moves _ isMove
  have alphabetic := alphabetic_of_moves _ isMove
  have lowercase := lowercase_of_moves _ isMove
  have uppercase := uppercase_of_moves _ isMove
  have numeric := numeric_of_moves _ isMove
  have graphic := graphic_of_moves _ isMove
  dsimp only at ascii alphabetic lowercase uppercase numeric graphic
  cases category with
  | alphabetic | lowercase | uppercase | numeric | alphanumeric | decimalDigit
  | whitespace | spaceSeparator =>
      simp_all [contains, CodeSet.contains, ofCapitals]
  | _ =>
      simp only [contains, between_eq_true, ofCapitals, ← Char.toNat_inj,
        Bool.or_eq_true, beq_iff_eq, Bool.not_false, Bool.not_true,
        Bool.eq_false_iff, ne_eq] at belongs ⊢
      simp only [Char.reduceToNat] at belongs ⊢
      omega

open Unicode in
/-- The lowercase form of a character is missing exactly from the categories of
capitals that have the character. -/
theorem contains_toLower {category : UnicodeClass} {char : Char}
    (belongs : category.contains char = true) :
    category.contains (toLower char) = false ↔
      category.ofCapitals = true ∧ toLower char ≠ char := by
  by_cases same : toLower char = char
  · simp [same, belongs]
  · have isMove := (toLower_cases char).resolve_left same
    simp [contains_of_move isMove belongs, same]

end UnicodeClass

end PegEngine
