import PegEngine.Proofs.Passages

/-!
# Expressions that follow scanners

A scanner looks at the characters ahead and takes the first of them, or finds
nothing.  An expression follows a scanner if it passes what the scanner takes
and refuses where the scanner finds nothing (`Grammar.Follows`).  Ordered choice
then is a second attempt, a sequence is one scanner after the other, and a
repetition is a scanner used again and again (`Scanner.Steps`), so that a
grammar without recursion can be compared with a scanner part by part.
-/

namespace PegEngine

/-- What is found at the start of a text, with what is behind it. -/
abbrev Scanner (β : Type) := List Char → Option (β × List Char)

namespace Scanner

variable {β : Type} {scanner : Scanner β} {belongs : Char → Bool}
  {chars first later rest : List Char} {found : List β}

/-- The next character, if it is of some kind. -/
def one (belongs : Char → Bool) : Scanner Char
  | [] => none
  | char :: later => if belongs char then some (char, later) else none

/-- The longest run of characters of some kind, which has one of them at
least. -/
def run (belongs : Char → Bool) : Scanner (List Char) := fun chars =>
  if (chars.takeWhile belongs).isEmpty then none
  else some (chars.takeWhile belongs, chars.dropWhile belongs)

theorem one_eq_some {char : Char} :
    one belongs chars = some (char, later) ↔
      chars = char :: later ∧ belongs char = true := by
  cases chars with
  | nil => simp [one]
  | cons next chars => grind [one]

theorem one_eq_none :
    one belongs chars = none ↔
      ∀ char ∈ chars.head?, belongs char = false := by
  cases chars with
  | nil => simp [one]
  | cons next chars => simp [one]

theorem run_eq_some :
    run belongs chars = some (first, later) ↔
      first = chars.takeWhile belongs ∧ later = chars.dropWhile belongs ∧
        first ≠ [] := by
  grind [run, List.isEmpty_iff]

theorem run_eq_none :
    run belongs chars = none ↔
      ∀ char ∈ chars.head?, belongs char = false := by
  cases chars with
  | nil => simp [run]
  | cons next chars => cases isNext : belongs next <;> simp [run, isNext]

theorem dropWhile_of_run_eq_none (nothing : run belongs chars = none) :
    chars.dropWhile belongs = chars := by
  cases chars with
  | nil => rfl
  | cons next chars =>
      have differs := run_eq_none.mp nothing next rfl
      exact List.dropWhile_cons_of_neg (Bool.not_eq_true _ ▸ differs)

theorem append_of_run (finds : run belongs chars = some (first, later)) :
    chars = first ++ later := by
  obtain ⟨rfl, rfl, -⟩ := run_eq_some.mp finds
  exact List.takeWhile_append_dropWhile.symm

theorem length_of_run (finds : run belongs chars = some (first, later)) :
    later.length < chars.length := by
  obtain ⟨-, -, isNonempty⟩ := run_eq_some.mp finds
  have positive := List.length_pos_iff.mpr isNonempty
  rw [append_of_run finds, List.length_append]
  omega

/-- What a scanner finds until it finds nothing, if it takes something each time
before, and what is behind. -/
inductive Steps (scanner : Scanner β) :
    List Char → List β → List Char → Prop
  | stops {chars : List Char} (nothing : scanner chars = none) :
      Steps scanner chars [] chars
  | step {chars later rest : List Char} {next : β} {others : List β}
      (finds : scanner chars = some (next, later))
      (shorter : later.length < chars.length)
      (steps : Steps scanner later others rest) :
      Steps scanner chars (next :: others) rest

theorem Steps.length_le (steps : Steps scanner chars found rest) :
    rest.length ≤ chars.length := by
  induction steps with
  | stops => exact Nat.le_refl _
  | step _ shorter _ ih => omega

/-- One after the other, all characters of a kind are found. -/
theorem steps_one (belongs : Char → Bool) (chars : List Char) :
    Steps (one belongs) chars (chars.takeWhile belongs)
      (chars.dropWhile belongs) := by
  induction chars with
  | nil => exact .stops rfl
  | cons char chars ih =>
      cases isNext : belongs char with
      | true =>
          rw [List.takeWhile_cons_of_pos isNext,
            List.dropWhile_cons_of_pos isNext]
          exact .step (one_eq_some.mpr ⟨rfl, isNext⟩) (Nat.lt_succ_self _) ih
      | false =>
          have isOther := Bool.not_eq_true _ ▸ isNext
          rw [List.takeWhile_cons_of_neg isOther,
            List.dropWhile_cons_of_neg isOther]
          exact .stops (by simp [one, isNext])

end Scanner

namespace Grammar

variable {α σ β γ δ : Type} {grammar : Grammar α σ} {expr body : Expr α σ}
  {exprs : List (Expr α σ)} {labels : Frame α} {chars rest : List Char}
  {scanner second : Scanner β} {belongs : Char → Bool}
  {fits : β → Value α → Frame α → Prop} {good : β → Value α → Prop}

/-- An expression passes what a scanner takes, with a value and labels that fit
what is found, and refuses where the scanner finds nothing. -/
structure Follows (grammar : Grammar α σ) (expr : Expr α σ) (labels : Frame α)
    (scanner : Scanner β) (fits : β → Value α → Frame α → Prop) : Prop where
  passes {chars later : List Char} {found : β}
    (finds : scanner chars = some (found, later)) :
    ∃ first value bound, chars = first ++ later ∧
      grammar.Passes expr labels first later value bound ∧
      fits found value bound
  refuses {chars : List Char} (nothing : scanner chars = none) :
    grammar.Refuses expr labels chars

theorem Follows.mono {others : β → Value α → Frame α → Prop}
    (follows : grammar.Follows expr labels scanner fits)
    (weaker : ∀ found value bound, fits found value bound →
      others found value bound) :
    grammar.Follows expr labels scanner others where
  passes finds := by
    obtain ⟨first, value, bound, isAhead, passes, holds⟩ := follows.passes finds
    exact ⟨first, value, bound, isAhead, passes, weaker _ _ _ holds⟩
  refuses := follows.refuses

/-- What is bound need not matter. -/
theorem Follows.value
    (follows : grammar.Follows expr labels scanner
      fun found value bound => bound = labels ∧ good found value) :
    grammar.Follows expr labels scanner
      (fun found value _ => good found value) :=
  follows.mono fun _ _ _ holds => holds.2

/-- What is found may be taken for something else. -/
theorem Follows.map {others : γ → Value α → Frame α → Prop} {change : β → γ}
    (follows : grammar.Follows expr labels scanner fits)
    (changes : ∀ found value bound, fits found value bound →
      others (change found) value bound) :
    grammar.Follows expr labels
      (fun chars => (scanner chars).map (Prod.map change id)) others where
  passes finds := by
    obtain ⟨⟨found, later⟩, findsFirst, same⟩ :=
      Option.map_eq_some_iff.mp finds
    cases same
    obtain ⟨first, value, bound, isAhead, passes, holds⟩ :=
      follows.passes findsFirst
    exact ⟨first, value, bound, isAhead, passes, changes _ _ _ holds⟩
  refuses nothing := follows.refuses (Option.map_eq_none_iff.mp nothing)

section Characters

theorem follows_exactly {text : String} {char : Char}
    (isText : text.toList = [char]) :
    grammar.Follows (.exactly text) labels (Scanner.one (· == char))
      (fun found value bound => bound = labels ∧
        value = .text [found].utf8Encode) where
  passes finds := by
    obtain ⟨rfl, isChar⟩ := Scanner.one_eq_some.mp finds
    obtain rfl := beq_iff_eq.mp isChar
    exact ⟨_, _, _, rfl, isText ▸ passes_exactly text, rfl, rfl⟩
  refuses nothing := by
    refine refuses_exactly fun isPrefix => ?_
    obtain ⟨later, rfl⟩ := isText ▸ isPrefix
    have differs := Scanner.one_eq_none.mp nothing char rfl
    simp at differs

theorem follows_oneOf {charClass : CharClass}
    (accepts : ∀ char, charClass.accepts char = belongs char) :
    grammar.Follows (.oneOf charClass) labels (Scanner.one belongs)
      (fun found value bound => bound = labels ∧
        value = .text [found].utf8Encode) where
  passes finds := by
    obtain ⟨rfl, isNext⟩ := Scanner.one_eq_some.mp finds
    exact ⟨_, _, _, rfl, passes_oneOf ((accepts _).trans isNext), rfl, rfl⟩
  refuses nothing := by
    refine refuses_oneOf fun char isNext => ?_
    rw [accepts, Scanner.one_eq_none.mp nothing char isNext]

end Characters

section Sequences

theorem follows_nil (found : β) :
    grammar.Follows (.sequence []) labels (fun chars => some (found, chars))
      (fun result _ bound => result = found ∧ bound = labels) where
  passes finds := by
    cases finds
    exact ⟨[], _, _, rfl, passes_nil, rfl, rfl⟩
  refuses nothing := by cases nothing

/-- The first member of a sequence is followed by the other ones, whatever it
has bound. -/
theorem Follows.cons {others : γ → Frame α → Prop}
    (head : grammar.Follows expr labels scanner fits) (next : β → Scanner γ)
    (tail : ∀ found value bound, fits found value bound →
      grammar.Follows (.sequence exprs) bound (next found)
        (fun result _ final => others result final)) :
    grammar.Follows (.sequence (expr :: exprs)) labels
      (fun chars => (scanner chars).bind fun (found, later) => next found later)
      (fun result _ final => others result final) where
  passes finds := by
    obtain ⟨⟨found, middle⟩, finds, findsLater⟩ :=
      Option.bind_eq_some_iff.mp finds
    obtain ⟨first, value, bound, rfl, passes, holds⟩ := head.passes finds
    obtain ⟨second, result, final, rfl, passesLater, holdsLater⟩ :=
      (tail _ _ _ holds).passes findsLater
    obtain ⟨values, rfl⟩ := passesLater.exists_list
    exact ⟨first ++ second, _, final, (List.append_assoc _ _ _).symm,
      passes.cons passesLater, holdsLater⟩
  refuses {chars} nothing := by
    -- Either the first member refuses, or the others do so behind it.
    cases finds : scanner chars with
    | none => exact (head.refuses finds).sequence
    | some result =>
        obtain ⟨found, middle⟩ := result
        obtain ⟨first, value, bound, rfl, passes, holds⟩ := head.passes finds
        rw [finds] at nothing
        exact ((tail _ _ _ holds).refuses nothing).after passes

/-- What a member finds may be left alone, as long as it binds nothing. -/
theorem Follows.skip {next : Scanner γ} {others : γ → Frame α → Prop}
    (head : grammar.Follows expr labels scanner
      fun found value bound => bound = labels ∧ good found value)
    (tail : grammar.Follows (.sequence exprs) labels next
      fun result _ final => others result final) :
    grammar.Follows (.sequence (expr :: exprs)) labels
      (fun chars => (scanner chars).bind fun (_, later) => next later)
      (fun result _ final => others result final) := by
  refine head.cons (fun _ => next) fun found value bound holds => ?_
  rw [holds.1]
  exact tail

end Sequences

section Choices

theorem Follows.only
    (follows : grammar.Follows expr Frame.empty scanner
      fun found value _ => good found value) :
    grammar.Follows (.choice [expr]) labels scanner
      (fun found value bound => bound = labels ∧ good found value) where
  passes finds := by
    obtain ⟨first, value, inner, isAhead, passes, holds⟩ :=
      follows.passes finds
    exact ⟨first, value, labels, isAhead, passes.choice, rfl, holds⟩
  refuses nothing := (follows.refuses nothing).choice refuses_choice_nil

/-- A later alternative is tried where the first one finds nothing. -/
theorem Follows.choice
    (head : grammar.Follows expr Frame.empty scanner
      fun found value _ => good found value)
    (tail : grammar.Follows (.choice exprs) labels second
      fun found value bound => bound = labels ∧ good found value) :
    grammar.Follows (.choice (expr :: exprs)) labels
      (fun chars => (scanner chars).or (second chars))
      (fun found value bound => bound = labels ∧ good found value) where
  passes {chars later found} finds := by
    rcases Option.or_eq_some_iff.mp finds with finds | ⟨nothing, finds⟩
    · obtain ⟨first, value, inner, isAhead, passes, holds⟩ := head.passes finds
      exact ⟨first, value, labels, isAhead, passes.choice, rfl, holds⟩
    · obtain ⟨first, value, bound, rfl, passes, holds⟩ := tail.passes finds
      exact ⟨first, value, bound, rfl,
        passes.choice_later (head.refuses nothing), holds⟩
  refuses nothing := by
    obtain ⟨nothing, nothingLater⟩ := Option.or_eq_none_iff.mp nothing
    exact (head.refuses nothing).choice (tail.refuses nothingLater)

end Choices

section Repetitions

/-- A repetition takes the steps of a scanner that its body follows. -/
theorem Follows.zeroOrMore {found : List β}
    (follows : grammar.Follows body Frame.empty scanner
      fun found value _ => good found value)
    (steps : Scanner.Steps scanner chars found rest) :
    ∃ first values, chars = first ++ rest ∧
      grammar.Passes (.zeroOrMore body) labels first rest (.list values)
        labels ∧
      List.Forall₂ good found values := by
  induction steps with
  | stops nothing =>
      exact ⟨[], [], rfl, (follows.refuses nothing).zeroOrMore, .nil⟩
  | step finds shorter _ ih =>
      obtain ⟨first, value, inner, rfl, passes, holds⟩ := follows.passes finds
      obtain ⟨others, values, rfl, passesLater, hold⟩ := ih
      have isNonempty : first ≠ [] := by
        rintro rfl
        exact Nat.lt_irrefl _ shorter
      exact ⟨first ++ others, value :: values, (List.append_assoc _ _ _).symm,
        passes.zeroOrMore isNonempty passesLater, .cons holds hold⟩

/-- If the steps of a scanner cover the runs of some characters, a repetition
takes such runs. -/
theorem Follows.oneOrMore
    (follows : grammar.Follows body Frame.empty scanner fits)
    (covers : ∀ chars, ∃ found,
      Scanner.Steps scanner chars found (chars.dropWhile belongs)) :
    grammar.Follows (.oneOrMore body) labels (Scanner.run belongs)
      (fun _ value bound => bound = labels ∧
        ∃ values, value = .list values) where
  passes {chars later found} finds := by
    have shorter := Scanner.length_of_run finds
    obtain ⟨-, isLater, -⟩ := Scanner.run_eq_some.mp finds
    obtain ⟨found, steps⟩ := covers chars
    rw [← isLater] at steps
    cases steps with
    | stops => exact absurd shorter (Nat.lt_irrefl _)
    | step finds shorter steps =>
        -- The body takes the first step, a repetition all others.
        obtain ⟨first, value, inner, rfl, passes, -⟩ := follows.passes finds
        obtain ⟨others, values, rfl, passesLater, -⟩ :=
          (follows.mono fun _ _ _ _ => trivial).zeroOrMore steps
        have isNonempty : first ≠ [] := by
          rintro rfl
          exact Nat.lt_irrefl _ shorter
        exact ⟨first ++ others, _, labels, (List.append_assoc _ _ _).symm,
          passes.oneOrMore isNonempty passesLater, rfl, _, rfl⟩
  refuses {chars} nothing := by
    -- Steps that cover no run end where they start, so there is none.
    obtain ⟨found, steps⟩ := covers chars
    rw [Scanner.dropWhile_of_run_eq_none nothing] at steps
    cases steps with
    | stops nothing => exact (follows.refuses nothing).oneOrMore
    | step finds shorter steps =>
        exact absurd steps.length_le (Nat.not_le_of_lt shorter)

/-- A repeated body that takes one character of a kind takes runs of them. -/
theorem Follows.run {fits : Char → Value α → Frame α → Prop}
    (follows : grammar.Follows body Frame.empty (Scanner.one belongs) fits) :
    grammar.Follows (.oneOrMore body) labels (Scanner.run belongs)
      (fun _ value bound => bound = labels ∧ ∃ values, value = .list values) :=
  follows.oneOrMore fun chars => ⟨_, Scanner.steps_one belongs chars⟩

end Repetitions

section Others

theorem Follows.labeled
    (follows : grammar.Follows body Frame.empty scanner
      fun found value _ => good found value)
    (label : String) :
    grammar.Follows (.labeled label body) labels scanner
      (fun found value bound => bound = labels.bindNamed label value ∧
        good found value) where
  passes finds := by
    obtain ⟨first, value, inner, isAhead, passes, holds⟩ :=
      follows.passes finds
    exact ⟨first, value, _, isAhead, passes.labeled label, rfl, holds⟩
  refuses nothing := (follows.refuses nothing).labeled label

theorem Follows.reference {name : String} {rule : Rule α σ} {index : Nat}
    (follows : grammar.Follows rule.body Frame.empty scanner
      fun found value _ => good found value)
    (target : grammar.target? name = some (rule, index)) :
    grammar.Follows (.reference name) labels scanner
      (fun found value bound => bound = labels ∧ good found value) where
  passes finds := by
    obtain ⟨first, value, inner, isAhead, passes, holds⟩ :=
      follows.passes finds
    exact ⟨first, value, labels, isAhead, passes.reference target, rfl, holds⟩
  refuses nothing := (follows.refuses nothing).reference target

/-- The code of an action is run on what the scanner has taken. -/
theorem Follows.action {run : Action α σ}
    (follows : grammar.Follows body labels scanner fits)
    (answers : ∀ chars found first later value bound,
      scanner chars = some (found, later) → chars = first ++ later →
        fits found value bound → ∃ result, good found result ∧
          ∀ position store,
            run ⟨position, first.utf8Encode, value, bound.toMap, store⟩ =
              (.answer result, store)) :
    grammar.Follows (.action body run) labels scanner
      (fun found value _ => good found value) where
  passes finds := by
    obtain ⟨first, value, bound, isAhead, passes, holds⟩ :=
      follows.passes finds
    obtain ⟨result, isGood, answers⟩ := answers _ _ _ _ _ _ finds isAhead holds
    exact ⟨first, result, bound, isAhead, passes.action answers, isGood⟩
  refuses nothing := (follows.refuses nothing).action run

end Others

end Grammar

end PegEngine
