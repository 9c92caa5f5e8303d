import PegEngine.Proofs.Exactness

/-!
# Expressions along characters

Where nothing is malformed, most expressions can be described by the characters
ahead alone: they pass some of them, or refuse them, at whatever offset these
stand and whatever is in the store.  `Grammar.Passes` and `Grammar.Refuses` say
this of derivations without complaints.  There is one lemma for each way of
putting expressions together, so that what a grammar does with a text can be
shown without a word about offsets, and at the end it is what its parses come to
(`Grammar.Passes.entering`).
-/

namespace PegEngine

namespace Decoded

variable {bytes : ByteArray} {offset finish : Nat} {text later : List Char}

theorem size_utf8Encode_append (first second : List Char) :
    (first ++ second).utf8Encode.size =
      first.utf8Encode.size + second.utf8Encode.size := by
  rw [List.utf8Encode_append, ByteArray.size_append]

theorem size_utf8Encode_pos (isNonempty : text ≠ []) :
    0 < text.utf8Encode.size := by
  obtain ⟨char, rest, rfl⟩ := List.exists_cons_of_ne_nil isNonempty
  rw [← List.singleton_append, size_utf8Encode_append,
    size_utf8Encode_singleton]
  exact Nat.add_pos_left (Char.utf8Size_pos char) _

theorem Ahead.spelled (ahead : Ahead bytes offset (text ++ later)) :
    Spelled bytes false text offset (offset + text.utf8Encode.size) := by
  induction text generalizing offset with
  | nil => exact .nil offset
  | cons char text ih =>
      have decodes := ahead.ofBytesAt_cons
      have rest := ih ahead.tail
      have widths : offset + (char :: text).utf8Encode.size =
          offset + (ofBytesAt bytes offset).width + text.utf8Encode.size := by
        rw [← List.singleton_append, size_utf8Encode_append,
          size_utf8Encode_singleton, decodes, Nat.add_assoc]
        rfl
      rw [widths]
      exact .cons (by rw [decodes]; rfl) rfl rest

theorem Ahead.isPrefix_of_spelled {chars : List Char}
    (ahead : Ahead bytes offset chars)
    (spelled : Spelled bytes false text offset finish) : text <+: chars := by
  induction spelled generalizing chars with
  | nil => exact List.nil_prefix
  | cons read folds later ih =>
      cases chars with
      | nil =>
          rw [ahead.ofBytesAt_nil.2] at read
          cases read
      | cons char chars =>
          have rest := ih ahead.tail
          rw [ahead.ofBytesAt_cons] at read
          cases read
          subst folds
          exact (List.prefix_cons_inj _).mpr rest

/-- What is spelled is passed. -/
theorem Ahead.exists_of_spelled {chars : List Char}
    (ahead : Ahead bytes offset chars)
    (spelled : Spelled bytes false text offset finish) :
    ∃ later, chars = text ++ later ∧
      finish = offset + text.utf8Encode.size := by
  obtain ⟨later, rfl⟩ := ahead.isPrefix_of_spelled spelled
  exact ⟨later, rfl, spelled.unique ahead.spelled⟩

/-- Where nothing is malformed, the bytes of what is spelled are its
encoding. -/
theorem Spelled.encodes (spelled : Spelled bytes false text offset finish)
    (boundary : Boundary bytes offset)
    (wellFormed : ∀ earlier < finish, ¬ Malformed bytes earlier) :
    bytes.extract offset finish = text.utf8Encode := by
  induction spelled with
  | nil =>
      rw [ByteArray.extract_same]
      exact List.utf8Encode_nil.symm
  | @cons char found text offset finish read folds later ih =>
      have follows := follows_of_read read
      have before := follows.lt
      have onward := later.le
      have valid : (ofBytesAt bytes offset).valid = true := by
        simpa using fun invalid =>
          wellFormed offset (Nat.lt_of_lt_of_le before onward)
            ⟨boundary, invalid⟩
      obtain ⟨same, decodes⟩ := exists_scalar_of_valid follows.1 valid
      obtain rfl : same = char := by
        rw [decodes] at read
        exact (Option.some.inj read).trans folds
      have width : (ofBytesAt bytes offset).width = same.utf8Size := by
        rw [decodes]
        rfl
      rw [ByteArray.extract_eq_extract_append_extract _ (Nat.le_of_lt before)
        onward, ih (boundary.tail follows) wellFormed, width,
        extract_of_scalar decodes, ← List.utf8Encode_append]
      rfl

theorem Ahead.eq_nil {chars : List Char} (ahead : Ahead bytes offset chars)
    (atEnd : bytes.size ≤ offset) : chars = [] := by
  cases chars with
  | nil => rfl
  | cons char chars =>
      have decodes := ahead.ofBytesAt_cons
      rw [ofBytesAt_of_size_le atEnd] at decodes
      cases decodes

theorem Boundary.exists_ahead {chars : List Char}
    (boundary : Boundary chars.utf8Encode offset) :
    ∃ later, Ahead chars.utf8Encode offset later := by
  induction boundary with
  | refl => exact ⟨chars, ahead_zero chars⟩
  | tail _ follows ih =>
      obtain ⟨later, ahead⟩ := ih
      obtain ⟨beforeEnd, rfl⟩ := follows
      cases later with
      | nil => exact absurd ahead.ofBytesAt_nil.1 (Nat.ne_of_lt beforeEnd)
      | cons char later => exact ⟨later, ahead.tail⟩

/-- Nothing in the encoding of characters is malformed. -/
theorem not_malformed_utf8Encode (chars : List Char) (offset : Nat) :
    ¬ Malformed chars.utf8Encode offset := by
  rintro ⟨boundary, invalid⟩
  obtain ⟨later, ahead⟩ := boundary.exists_ahead
  cases later with
  | nil =>
      rw [ahead.ofBytesAt_nil.2] at invalid
      cases invalid
  | cons char later =>
      rw [ahead.ofBytesAt_cons] at invalid
      cases invalid

end Decoded

namespace CharClass

theorem accepts_chars (text : String) (char : Char) :
    (ofSteps [.chars text]).accepts char = text.toList.contains char := by
  simp [ofSteps, extend, empty, accepts, contains, fold]

theorem accepts_range (first last char : Char) :
    (ofSteps [.range first last]).accepts char =
      (first ≤ char && char ≤ last) := by
  simp [ofSteps, extend, empty, accepts, contains, fold, foldRange]

end CharClass

namespace Frame

variable {α σ : Type} {frame : Frame α} {label : String} {value : Value α}

theorem get?_bindNamed (isNamed : label.isEmpty = false) (other : String) :
    (frame.bindNamed label value).get? other =
      if other = label then some value else frame.get? other := by
  rw [bindNamed, isNamed]
  exact frame.get?_bind label other value

end Frame

namespace MatchContext

variable {α σ : Type} {context : MatchContext α σ} {frame : Frame α}
  {label : String} {value : Value α}

/-- Code finds the value that was bound last under its label. -/
theorem label?_of_bound
    (isBound : context.labels = (frame.bindNamed label value).toMap)
    (isNamed : label.isEmpty = false) : context.label? label = some value := by
  rw [label?, isBound, Frame.getElem?_toMap, Frame.get?_bindNamed isNamed,
    if_pos rfl]

end MatchContext

namespace Grammar

variable {α σ : Type} (grammar : Grammar α σ)

/-- Without complaints, an expression passes the first of the characters ahead
with a value, and leaves labels. -/
def Passes (expr : Expr α σ) (labels : Frame α) (first later : List Char)
    (value : Value α) (bound : Frame α) : Prop :=
  ∀ (input : ByteArray) (offset : Nat) (store : Store σ),
    Decoded.Ahead input offset (first ++ later) →
      (grammar.taken .exacting).Derives input (expr.taken .exacting) offset
        labels store
        (.succeeds value (offset + first.utf8Encode.size) bound store)

/-- Without complaints, an expression does not match the characters ahead. -/
def Refuses (expr : Expr α σ) (labels : Frame α) (chars : List Char) : Prop :=
  ∀ (input : ByteArray) (offset : Nat) (store : Store σ),
    Decoded.Ahead input offset chars →
      (grammar.taken .exacting).Derives input (expr.taken .exacting) offset
        labels store (.fails store)

variable {grammar} {expr body : Expr α σ} {exprs : List (Expr α σ)}
  {labels inner bound final : Frame α} {chars first second later : List Char}
  {value : Value α} {values : List (Value α)}

theorem passes_exactly (text : String) :
    grammar.Passes (.exactly text) labels text.toList later
      (.text text.toList.utf8Encode) labels := by
  intro input offset store ahead
  have derives : (grammar.taken .exacting).Derives input (.exactly text) offset
      labels store _ :=
    .literal ahead.spelled
  rw [ahead.pass.2] at derives
  exact derives

theorem refuses_exactly {text : String} (differs : ¬ text.toList <+: chars) :
    grammar.Refuses (.exactly text) labels chars := by
  intro input offset store ahead
  exact .literalFails fun finish spelled =>
    differs (ahead.isPrefix_of_spelled spelled)

section Classes

variable {charClass : CharClass} {char : Char}

theorem passes_oneOf (accepted : charClass.accepts char = true) :
    grammar.Passes (.oneOf charClass) labels [char] later
      (.text [char].utf8Encode) labels := by
  intro input offset store ahead
  have decodes := ahead.ofBytesAt_cons
  have derives : (grammar.taken .exacting).Derives input (.oneOf charClass)
      offset labels store _ :=
    .oneOf (by rw [decodes]; rfl) accepted
  have spans := ahead.pass_one.2
  rw [Decoded.size_utf8Encode_singleton] at spans
  rw [decodes, Decoded.scalar, spans] at derives
  rw [Decoded.size_utf8Encode_singleton]
  exact derives

theorem refuses_oneOf
    (rejected : ∀ char ∈ chars.head?, charClass.accepts char = false) :
    grammar.Refuses (.oneOf charClass) labels chars := by
  intro input offset store ahead
  refine .oneOfFails fun char read => rejected char ?_
  cases chars with
  | nil =>
      rw [ahead.ofBytesAt_nil.2] at read
      cases read
  | cons next chars =>
      rw [ahead.ofBytesAt_cons] at read
      exact read

end Classes

theorem passes_ending : grammar.Passes .ending labels [] [] .nil labels := by
  intro input offset store ahead
  refine .notFollowedBy (.anyFails ?_)
  rw [(Decoded.Ahead.ofBytesAt_nil ahead).2]
  rfl

section Sequences

theorem passes_nil :
    grammar.Passes (.sequence []) labels [] later (.list []) labels :=
  fun _ _ _ _ => .sequenceNil _ _ _

theorem Passes.cons
    (head : grammar.Passes expr labels first (second ++ later) value bound)
    (tail : grammar.Passes (.sequence exprs) bound second later (.list values)
      final) :
    grammar.Passes (.sequence (expr :: exprs)) labels (first ++ second) later
      (.list (value :: values)) final := by
  intro input offset store ahead
  rw [List.append_assoc] at ahead
  rw [Decoded.size_utf8Encode_append, ← Nat.add_assoc]
  exact .sequenceCons (head _ _ _ ahead) (tail _ _ _ ahead.pass.1)

theorem Passes.only
    (passes : grammar.Passes expr labels first later value bound) :
    grammar.Passes (.sequence [expr]) labels first later (.list [value])
      bound := by
  rw [← List.append_nil first]
  exact Passes.cons passes passes_nil

theorem Derives.exists_list_of_sequence {input : ByteArray}
    {start finish : Nat} {store last : Store σ}
    (derives : grammar.Derives input (.sequence exprs) start labels store
      (.succeeds value finish bound last)) :
    ∃ values, value = .list values := by
  cases derives with
  | sequenceNil | sequenceCons => exact ⟨_, rfl⟩

theorem Passes.exists_list
    (passes : grammar.Passes (.sequence exprs) labels first later value bound) :
    ∃ values, value = .list values :=
  Derives.exists_list_of_sequence
    (passes _ 0 Store.empty (Decoded.ahead_zero _))

theorem Refuses.sequence (refuses : grammar.Refuses expr labels chars) :
    grammar.Refuses (.sequence (expr :: exprs)) labels chars :=
  fun _ _ _ ahead => .sequenceFails (refuses _ _ _ ahead)

theorem Refuses.after
    (tail : grammar.Refuses (.sequence exprs) bound later)
    (head : grammar.Passes expr labels first later value bound) :
    grammar.Refuses (.sequence (expr :: exprs)) labels (first ++ later) :=
  fun _ _ _ ahead => .sequenceLaterFails (head _ _ _ ahead)
    (tail _ _ _ ahead.pass.1)

end Sequences

section Choices

theorem Passes.choice
    (passes : grammar.Passes expr Frame.empty first later value inner) :
    grammar.Passes (.choice (expr :: exprs)) labels first later value labels :=
  fun _ _ _ ahead => .choiceFirst (passes _ _ _ ahead)

theorem Passes.choice_later
    (passes : grammar.Passes (.choice exprs) labels first later value bound)
    (refuses : grammar.Refuses expr Frame.empty (first ++ later)) :
    grammar.Passes (.choice (expr :: exprs)) labels first later value bound :=
  fun _ _ _ ahead => .choiceLater (refuses _ _ _ ahead) (passes _ _ _ ahead)

theorem refuses_choice_nil : grammar.Refuses (.choice []) labels chars :=
  fun _ _ _ _ => .choiceNil _ _ _

theorem Refuses.choice (head : grammar.Refuses expr Frame.empty chars)
    (tail : grammar.Refuses (.choice exprs) labels chars) :
    grammar.Refuses (.choice (expr :: exprs)) labels chars :=
  fun _ _ _ ahead => .choiceLater (head _ _ _ ahead) (tail _ _ _ ahead)

end Choices

section Repetitions

theorem Refuses.zeroOrMore (refuses : grammar.Refuses body Frame.empty later) :
    grammar.Passes (.zeroOrMore body) labels [] later (.list []) labels :=
  fun _ _ _ ahead => .zeroOrMoreEnds (refuses _ _ _ ahead)

theorem Passes.zeroOrMore
    (head : grammar.Passes body Frame.empty first (second ++ later) value inner)
    (isNonempty : first ≠ [])
    (tail : grammar.Passes (.zeroOrMore body) labels second later
      (.list values) labels) :
    grammar.Passes (.zeroOrMore body) labels (first ++ second) later
      (.list (value :: values)) labels := by
  intro input offset store ahead
  have moves := Decoded.size_utf8Encode_pos isNonempty
  rw [List.append_assoc] at ahead
  rw [Decoded.size_utf8Encode_append, ← Nat.add_assoc]
  exact .zeroOrMoreCons (head _ _ _ ahead) (by omega)
    (tail _ _ _ ahead.pass.1)

theorem Passes.oneOrMore
    (head : grammar.Passes body Frame.empty first (second ++ later) value inner)
    (isNonempty : first ≠ [])
    (tail : grammar.Passes (.zeroOrMore body) labels second later
      (.list values) labels) :
    grammar.Passes (.oneOrMore body) labels (first ++ second) later
      (.list (value :: values)) labels := by
  intro input offset store ahead
  have moves := Decoded.size_utf8Encode_pos isNonempty
  rw [List.append_assoc] at ahead
  rw [Decoded.size_utf8Encode_append, ← Nat.add_assoc]
  exact .oneOrMoreCons (head _ _ _ ahead) (by omega)
    (tail _ _ _ ahead.pass.1)

theorem Refuses.oneOrMore (refuses : grammar.Refuses body Frame.empty chars) :
    grammar.Refuses (.oneOrMore body) labels chars :=
  fun _ _ _ ahead => .oneOrMoreFails (refuses _ _ _ ahead)

variable {charClass : CharClass}
  (accepted : ∀ char ∈ first, charClass.accepts char = true)
  (rejected : ∀ char ∈ later.head?, charClass.accepts char = false)
include accepted rejected

/-- A class is repeated as long as it accepts what is ahead. -/
theorem passes_zeroOrMore_oneOf :
    grammar.Passes (.zeroOrMore (.oneOf charClass)) labels first later
      (.list (first.map fun char => .text [char].utf8Encode)) labels := by
  induction first with
  | nil => exact (refuses_oneOf rejected).zeroOrMore
  | cons char first ih =>
      obtain ⟨isAccepted, allAccepted⟩ := List.forall_mem_cons.mp accepted
      exact (passes_oneOf isAccepted).zeroOrMore (List.cons_ne_nil _ _)
        (ih allAccepted)

theorem passes_oneOrMore_oneOf (isNonempty : first ≠ []) :
    grammar.Passes (.oneOrMore (.oneOf charClass)) labels first later
      (.list (first.map fun char => .text [char].utf8Encode)) labels := by
  obtain ⟨char, rest, rfl⟩ := List.exists_cons_of_ne_nil isNonempty
  obtain ⟨isAccepted, allAccepted⟩ := List.forall_mem_cons.mp accepted
  exact (passes_oneOf isAccepted).oneOrMore (List.cons_ne_nil _ _)
    (passes_zeroOrMore_oneOf allAccepted rejected)

end Repetitions

section Others

theorem Passes.labeled
    (passes : grammar.Passes body Frame.empty first later value inner)
    (label : String) :
    grammar.Passes (.labeled label body) labels first later value
      (labels.bindNamed label value) :=
  fun _ _ _ ahead => .labeled (passes _ _ _ ahead)

theorem Refuses.labeled (refuses : grammar.Refuses body Frame.empty chars)
    (label : String) : grammar.Refuses (.labeled label body) labels chars :=
  fun _ _ _ ahead => .labeledFails (refuses _ _ _ ahead)

variable {name : String} {rule : Rule α σ} {index : Nat}

theorem Passes.reference
    (passes : grammar.Passes rule.body Frame.empty first later value inner)
    (target : grammar.target? name = some (rule, index)) :
    grammar.Passes (.reference name) labels first later value labels :=
  fun _ _ _ ahead => .reference (by rw [target?_taken, target]; rfl)
    (passes _ _ _ ahead)

theorem Refuses.reference
    (refuses : grammar.Refuses rule.body Frame.empty chars)
    (target : grammar.target? name = some (rule, index)) :
    grammar.Refuses (.reference name) labels chars :=
  fun _ _ _ ahead => .referenceFails (by rw [target?_taken, target]; rfl)
    (refuses _ _ _ ahead)

variable {run : Action α σ} {result : Value α}

theorem Passes.action
    (passes : grammar.Passes body labels first later value bound)
    (answers : ∀ position store,
      run ⟨position, first.utf8Encode, value, bound.toMap, store⟩ =
        (.answer result, store)) :
    grammar.Passes (.action body run) labels first later result bound := by
  intro input offset store ahead
  refine .action (passes _ _ _ ahead) ?_
  simp only [contextOf, ahead.pass.2, Code.taken, answers]
  rfl

theorem Refuses.action (refuses : grammar.Refuses body labels chars)
    (run : Action α σ) : grammar.Refuses (.action body run) labels chars :=
  fun _ _ _ ahead => .actionFails (refuses _ _ _ ahead)

end Others

section Matches

variable {input : ByteArray} {start finish : Nat} {store last : Store σ}
  {result : Value α}

theorem Derives.exists_read {charClass : CharClass}
    (derives : grammar.Derives input (.oneOf charClass) start labels store
      (.succeeds value finish bound last)) :
    ∃ char, (Decoded.ofBytesAt input start).codePoint = some char ∧
      charClass.accepts char = true ∧
      finish = start + (Decoded.ofBytesAt input start).width := by
  cases derives with
  | oneOf read accepted => exact ⟨_, read, accepted, rfl⟩

theorem Derives.exists_char {charClass : CharClass}
    (derives : grammar.Derives input (.oneOf charClass) start labels store
      (.succeeds value finish bound last))
    (ahead : Decoded.Ahead input start chars) :
    ∃ char later, chars = char :: later ∧ charClass.accepts char = true ∧
      finish = start + [char].utf8Encode.size ∧
      value = .text [char].utf8Encode ∧ bound = labels := by
  cases derives with
  | oneOf read accepted =>
      cases chars with
      | nil =>
          rw [ahead.ofBytesAt_nil.2] at read
          cases read
      | cons char later =>
          have decodes := ahead.ofBytesAt_cons
          rw [decodes] at read
          obtain rfl : char = _ := Option.some.inj read
          have width : (Decoded.ofBytesAt input start).width =
              [char].utf8Encode.size := by
            rw [decodes, Decoded.size_utf8Encode_singleton]
            rfl
          rw [width]
          exact ⟨char, later, rfl, accepted, rfl,
            by rw [ahead.pass_one.2], rfl⟩

theorem Derives.exists_exactly {text : String}
    (derives : grammar.Derives input (.exactly text) start labels store
      (.succeeds value finish bound last))
    (ahead : Decoded.Ahead input start chars) :
    ∃ later, chars = text.toList ++ later ∧
      finish = start + text.toList.utf8Encode.size ∧ bound = labels := by
  cases derives with
  | literal spelled =>
      obtain ⟨later, isAhead, isFinish⟩ := ahead.exists_of_spelled spelled
      exact ⟨later, isAhead, isFinish, rfl⟩

theorem Derives.bound_eq_of_exactly {text : String}
    (derives : grammar.Derives input (.exactly text) start labels store
      (.succeeds value finish bound last)) : bound = labels := by
  cases derives with
  | literal => rfl

theorem Derives.size_le_of_ending
    (derives : grammar.Derives input .ending start labels store
      (.succeeds value finish bound last)) :
    finish = start ∧ bound = labels ∧ input.size ≤ start := by
  cases derives with
  | notFollowedBy fails =>
      cases fails with
      | anyFails atEnd =>
          refine ⟨rfl, rfl, Nat.le_of_not_lt fun beforeEnd => ?_⟩
          have present := Decoded.codePoint_isSome_iff.mpr beforeEnd
          rw [atEnd] at present
          cases present

theorem Derives.exists_cons
    (derives : grammar.Derives input (.sequence (expr :: exprs)) start labels
      store (.succeeds value finish bound last)) :
    ∃ head middle inner next tail, value = .list (head :: tail) ∧
      grammar.Derives input expr start labels store
        (.succeeds head middle inner next) ∧
      grammar.Derives input (.sequence exprs) middle inner next
        (.succeeds (.list tail) finish bound last) := by
  cases derives with
  | sequenceCons first later => exact ⟨_, _, _, _, _, rfl, first, later⟩

theorem Derives.eq_of_nil
    (derives : grammar.Derives input (.sequence []) start labels store
      (.succeeds value finish bound last)) :
    value = .list [] ∧ finish = start ∧ bound = labels ∧ last = store := by
  cases derives
  exact ⟨rfl, rfl, rfl, rfl⟩

/-- A sequence of two. -/
theorem Derives.exists_pair {second : Expr α σ}
    (derives : grammar.Derives input (.sequence [expr, second]) start labels
      store (.succeeds value finish bound last)) :
    ∃ head middle inner next tail, value = .list [head, tail] ∧
      grammar.Derives input expr start labels store
        (.succeeds head middle inner next) ∧
      grammar.Derives input second middle inner next
        (.succeeds tail finish bound last) := by
  obtain ⟨head, middle, inner, next, _, rfl, first, later⟩ :=
    derives.exists_cons
  obtain ⟨tail, _, _, _, _, ⟨⟩, holds, rest⟩ := later.exists_cons
  obtain ⟨⟨⟩, rfl, rfl, rfl⟩ := rest.eq_of_nil
  exact ⟨head, middle, inner, next, tail, rfl, first, holds⟩

theorem Derives.exists_labeled {label : String}
    (derives : grammar.Derives input (.labeled label body) start labels store
      (.succeeds value finish bound last)) :
    bound = labels.bindNamed label value ∧
      ∃ inner, grammar.Derives input body start Frame.empty store
        (.succeeds value finish inner last) := by
  cases derives with
  | labeled holds => exact ⟨rfl, _, holds⟩

theorem Derives.exists_list
    (derives : grammar.Derives input (.zeroOrMore body) start labels store
      (.succeeds value finish bound last)) :
    ∃ values, value = .list values := by
  cases derives with
  | zeroOrMoreEnds | zeroOrMoreStays | zeroOrMoreCons => exact ⟨_, rfl⟩

theorem Derives.exists_list_of_oneOrMore
    (derives : grammar.Derives input (.oneOrMore body) start labels store
      (.succeeds value finish bound last)) :
    (∃ values, value = .list values) ∧ bound = labels := by
  cases derives with
  | oneOrMoreStays | oneOrMoreCons => exact ⟨⟨_, rfl⟩, rfl⟩

/-- A class that is repeated matches characters that it accepts. -/
theorem Derives.exists_spelled {charClass : CharClass}
    (derives : grammar.Derives input (.zeroOrMore (.oneOf charClass)) start
      labels store (.succeeds value finish bound last)) :
    ∃ text, Decoded.Spelled input false text start finish ∧
      ∀ char ∈ text, charClass.accepts char = true := by
  obtain ⟨values, rfl⟩ := derives.exists_list
  induction values generalizing start store with
  | nil =>
      cases derives with
      | zeroOrMoreEnds => exact ⟨[], .nil _, nofun⟩
  | cons value values ih =>
      cases derives with
      | zeroOrMoreStays stays =>
          obtain ⟨char, read, -, unmoved⟩ := stays.exists_read
          have moves := Decoded.width_pos_of_read read
          omega
      | zeroOrMoreCons first moves later =>
          obtain ⟨char, read, accepted, rfl⟩ := first.exists_read
          obtain ⟨text, spelled, areAccepted⟩ := ih later
          exact ⟨char :: text, .cons read rfl spelled,
            List.forall_mem_cons.mpr ⟨accepted, areAccepted⟩⟩

theorem Derives.exists_spelled_of_oneOrMore {charClass : CharClass}
    (derives : grammar.Derives input (.oneOrMore (.oneOf charClass)) start
      labels store (.succeeds value finish bound last)) :
    ∃ text, Decoded.Spelled input false text start finish ∧ text ≠ [] ∧
      ∀ char ∈ text, charClass.accepts char = true := by
  cases derives with
  | oneOrMoreStays stays =>
      obtain ⟨char, read, -, unmoved⟩ := stays.exists_read
      have moves := Decoded.width_pos_of_read read
      omega
  | oneOrMoreCons first moves later =>
      obtain ⟨char, read, accepted, rfl⟩ := first.exists_read
      obtain ⟨text, spelled, areAccepted⟩ := later.exists_spelled
      exact ⟨char :: text, .cons read rfl spelled, List.cons_ne_nil _ _,
        List.forall_mem_cons.mpr ⟨accepted, areAccepted⟩⟩

theorem Derives.exists_accepted_of_oneOrMore {charClass : CharClass}
    (derives : grammar.Derives input (.oneOrMore (.oneOf charClass)) start
      labels store (.succeeds value finish bound last))
    (ahead : Decoded.Ahead input start chars) :
    ∃ first later, chars = first ++ later ∧ first ≠ [] ∧
      (∀ char ∈ first, charClass.accepts char = true) ∧
      finish = start + first.utf8Encode.size := by
  obtain ⟨text, spelled, isNonempty, areAccepted⟩ :=
    derives.exists_spelled_of_oneOrMore
  obtain ⟨later, isAhead, isFinish⟩ := ahead.exists_of_spelled spelled
  exact ⟨text, later, isAhead, isNonempty, areAccepted, isFinish⟩

/-- What is matched by a choice is matched by one of its alternatives. -/
theorem Derives.exists_alternative
    (derives : grammar.Derives input (.choice exprs) start labels store
      (.succeeds value finish bound last)) :
    ∃ expr ∈ exprs, ∃ inner next, grammar.Derives input expr start Frame.empty
      next (.succeeds value finish inner last) := by
  induction exprs generalizing store with
  | nil => cases derives
  | cons expr exprs ih =>
      cases derives with
      | choiceFirst first => exact ⟨expr, .head _, _, _, first⟩
      | choiceLater first later =>
          obtain ⟨other, isAlternative, holds⟩ := ih later
          exact ⟨other, .tail _ isAlternative, holds⟩

/-- What is in the value of a repetition is matched by its body. -/
theorem Derives.exists_round {values : List (Value α)}
    (derives : grammar.Derives input (.zeroOrMore body) start labels store
      (.succeeds (.list values) finish bound last))
    (isMember : value ∈ values) :
    ∃ first later inner next after,
      Relation.ReflTransGen (Decoded.Follows input) start first ∧
        later ≤ finish ∧
        grammar.Derives input body first Frame.empty next
          (.succeeds value later inner after) := by
  induction values generalizing start store with
  | nil => cases isMember
  | cons head values ih =>
      cases derives with
      | zeroOrMoreStays stays =>
          obtain rfl := List.mem_singleton.mp isMember
          exact ⟨_, _, _, _, _, .refl, Nat.le_refl _, stays⟩
      | zeroOrMoreCons first moves later =>
          rcases List.mem_cons.mp isMember with rfl | isMember
          · exact ⟨_, _, _, _, _, .refl, later.spans.le, first⟩
          · obtain ⟨_, _, _, _, _, follows, within, holds⟩ :=
              ih later isMember
            exact ⟨_, _, _, _, _, first.spans.follows.trans follows, within,
              holds⟩

/-- Without complaints, the value of an action is the answer of its code. -/
theorem Derives.exists_answer {run : Action α σ}
    (derives : (grammar.taken .exacting).Derives input
      ((Expr.action body run).taken .exacting) start labels store
      (.succeeds result finish bound last)) :
    ∃ value next,
      (grammar.taken .exacting).Derives input (body.taken .exacting) start
        labels store (.succeeds value finish bound next) ∧
      run (contextOf input start finish value bound next) =
        (.answer result, last) := by
  change (grammar.taken .exacting).Derives input
    (.action (body.taken .exacting) (Code.taken .exacting .nil run)) _ _ _ _
    at derives
  cases derives with
  | @action _ _ _ _ value _ _ _ _ next _ holds answers =>
      refine ⟨value, next, holds, ?_⟩
      revert answers
      rw [Code.taken]
      rcases run (contextOf input start finish value bound next) with
        ⟨reply, after⟩
      cases reply <;> simp [Reply.taken]
  | @actionComplains _ _ _ _ value _ _ _ _ next _ holds complains =>
      rw [Code.taken] at complains
      revert complains
      rcases run (contextOf input start finish value bound next) with
        ⟨reply, after⟩
      cases reply <;> simp [Reply.taken]

theorem Derives.exists_body {name : String} {rule : Rule α σ} {index : Nat}
    (derives : (grammar.taken .exacting).Derives input (.reference name) start
      labels store (.succeeds value finish bound last))
    (target : grammar.target? name = some (rule, index)) :
    bound = labels ∧ ∃ inner, (grammar.taken .exacting).Derives input
      (rule.body.taken .exacting) start Frame.empty store
      (.succeeds value finish inner last) := by
  cases derives with
  | reference isTarget holds =>
      rw [target?_taken, target] at isTarget
      cases isTarget
      exact ⟨rfl, _, holds⟩

end Matches

section Sessions

variable {session : Session α σ} {entry : Rule α σ}
  (starts : session.grammar.start? = some entry)
  (valid : session.grammar.error? = none)
  (unmemoized : session.options.memoize = false)
  (unlimited : session.options.maxExpressions = none)
  (isInput : session.input = (first ++ later).utf8Encode)
include starts valid unmemoized unlimited isInput

/-- What the body of the entry rule passes of the input is what the parse
consumes, and nothing is reported. -/
theorem Passes.entering
    (passes : session.grammar.Passes entry.body Frame.empty first later value
      bound) :
    ∃ depth after, session.entering depth entry = .ok (.matched value) after ∧
      after.diagnostics = .empty ∧
      after.cursor.offset = first.utf8Encode.size := by
  have derives := passes session.input 0 session.options.store
    (isInput ▸ Decoded.ahead_zero _)
  rw [Nat.zero_add] at derives
  exact Session.entering_exactly starts
    (isInput ▸ Decoded.not_malformed_utf8Encode _) valid unmemoized unlimited
    derives

/-- If the entry rule is an action that complains of what its body passes, the
complaint is all that is reported. -/
theorem Passes.entering_complains {run : Action α σ} {message : String}
    (passes : session.grammar.Passes body Frame.empty first later value bound)
    (isAction : entry.body = .action body run)
    (complains : ∀ position store,
      run ⟨position, first.utf8Encode, value, bound.toMap, store⟩ =
        (.complaint message, store)) :
    ∃ depth after diagnostic,
      session.entering depth entry = .ok (.matched .nil) after ∧
        after.cursor.offset = first.utf8Encode.size ∧
        after.diagnostics.toList = [diagnostic] ∧
        diagnostic.error = .semantic message := by
  have ahead : Decoded.Ahead session.input 0 (first ++ later) :=
    isInput ▸ Decoded.ahead_zero _
  have derives := passes session.input 0 session.options.store ahead
  have spans := ahead.pass.2
  rw [Nat.zero_add] at derives spans
  have replied : run (contextOf session.input 0 first.utf8Encode.size value
      bound session.options.store) =
        (.complaint message, session.options.store) := by
    simp only [contextOf, spans, complains]
  exact Session.entering_complains starts
    (isInput ▸ Decoded.not_malformed_utf8Encode _) valid unmemoized unlimited
    isAction derives replied

end Sessions

end Grammar

end PegEngine
